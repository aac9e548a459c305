/-!
# Glyph descriptors

A glyph is drawn from data of some kind. All kinds but one scale to any size; coverage bitmaps are
made for one size in pixels. A descriptor says the kind and, for coverage, the size.
-/

namespace ShaderAssembly

/-- The kinds of glyph data, in their order. -/
inductive GlyphKind where
  | coverage
  | distanceField
  | curvePair
  | restrictedRays
  | bandedRays
  | invalid
  deriving DecidableEq, Repr

namespace GlyphKind

def all : List GlyphKind :=
  [coverage, distanceField, curvePair, restrictedRays, bandedRays, invalid]

def rank : GlyphKind → Nat
  | coverage => 0
  | distanceField => 1
  | curvePair => 2
  | restrictedRays => 3
  | bandedRays => 4
  | invalid => 5

def name : GlyphKind → String
  | coverage => "coverage"
  | distanceField => "distance-field"
  | curvePair => "curve-pair"
  | restrictedRays => "restricted-rays"
  | bandedRays => "banded-rays"
  | invalid => "invalid"

def ofName? (name : String) : Option GlyphKind := all.find? (·.name == name)

/-- Whether one set of data serves all sizes. -/
def isScalable (kind : GlyphKind) : Bool := kind != coverage

end GlyphKind

/-- A glyph descriptor. The size is zero for all kinds but coverage. -/
structure Glyph where
  kind : GlyphKind
  pixelSize : UInt32
  deriving Repr

namespace Glyph

def none : Glyph := ⟨.invalid, 0⟩

/-- The descriptor of a scalable kind; coverage needs a size, and an invalid kind has none. -/
def scalable? (kind : GlyphKind) : Option Glyph :=
  if kind.isScalable && kind != .invalid then some ⟨kind, 0⟩ else Option.none

def coverage (pixelSize : UInt32) : Glyph := ⟨.coverage, pixelSize⟩

def isValid (glyph : Glyph) : Bool :=
  glyph.kind != .invalid && (glyph.kind.isScalable || 0 < glyph.pixelSize)

def text (glyph : Glyph) : String :=
  if glyph.kind.isScalable then glyph.kind.name
  else glyph.kind.name ++ "@" ++ toString glyph.pixelSize.toNat ++ "px"

end Glyph

end ShaderAssembly
