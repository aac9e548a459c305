import ShaderAssembly.Glyph.Basic

/-!
# Glyph descriptors as keys

Descriptors are compared by kind and, for coverage only, by size. Equality, order and the data that
is hashed all look at the same part of a descriptor, so any of them can be used to look a glyph up.
-/

namespace ShaderAssembly

namespace Glyph

/-- Whether two descriptors stand for the same glyph data. -/
def same (a b : Glyph) : Bool :=
  a.kind == b.kind && (a.kind.isScalable || a.pixelSize == b.pixelSize)

def order (a b : Glyph) : Ordering :=
  (compare a.kind.rank b.kind.rank).then
    (if a.kind.isScalable then .eq else compare a.pixelSize b.pixelSize)

/-- The order as one that may leave descriptors without a place. It never does. -/
def partialOrder (a b : Glyph) : Option Ordering := some (order a b)

/-- The data of a descriptor that is hashed. -/
def hashKey (glyph : Glyph) : Nat × Option UInt32 :=
  (glyph.kind.rank, if glyph.kind.isScalable then Option.none else some glyph.pixelSize)

def sorted (glyphs : List Glyph) : List Glyph :=
  glyphs.mergeSort fun a b => (order a b).isLE

/-- Puts a descriptor into a list in order, unless an equal one is in it. -/
def insertOrdered (glyph : Glyph) : List Glyph → List Glyph
  | [] => [glyph]
  | g :: glyphs =>
    match order glyph g with
    | .lt => glyph :: g :: glyphs
    | .eq => g :: glyphs
    | .gt => g :: insertOrdered glyph glyphs

def orderedSet (glyphs : List Glyph) : List Glyph :=
  glyphs.foldl (fun set glyph => insertOrdered glyph set) []

/-- The set of some descriptors by what is hashed, in order of first mention. -/
def hashedSet (glyphs : List Glyph) : List Glyph :=
  glyphs.foldl (fun set glyph =>
    if set.any fun g => g.hashKey == glyph.hashKey && g.same glyph then set else set ++ [glyph]) []

end Glyph

end ShaderAssembly
