import ShaderAssembly.Proofs.Shader.Ends
import ShaderAssembly.Shader.Assembly

/-!
# The history of a shader

A shader that starts without content is what its edits make of it, and each section can be read off
from them: the version was stated last, the prelude was never dropped, and the two sequences grew at
both ends. A merge acts on two sections and adds at the back of either, so what is put at the front
later still comes before all that was merged. No section reads what was done to another one.
Therefore only the order of the edits that concern the same section matters, and however the edits
of different sections are interleaved, the shader is the same.
-/

namespace ShaderAssembly

/-- One change of a shader. A shader that is merged is taken as it is at that time. -/
inductive Edit where
  | setVersion (version : String)
  | addBlock (block : Block) (side : Side)
  | appendBody (other : Shader)
  | define (name value : String) (side : Side)
  | undefine (name : String)
  | setExtension (name : String) (mode : ExtensionMode)
  | setExtensionsOf (other : Shader)
  | dropPrelude

/-- What an edit can concern. -/
inductive Section where
  | version
  | prelude
  | extensions
  | macros
  | blocks
  deriving DecidableEq, Repr

namespace Edit

def concerns : Edit → Section → Bool
  | setVersion _, .version => true
  | dropPrelude, .prelude => true
  | setExtension _ _, .extensions => true
  | setExtensionsOf _, .extensions => true
  | define _ _ _, .macros => true
  | undefine _, .macros => true
  | appendBody _, .macros => true
  | appendBody _, .blocks => true
  | addBlock _ _, .blocks => true
  | _, _ => false

/-- The version that the edit states, if it states one. -/
def versions : Edit → List String
  | setVersion version => [version]
  | _ => []

def keepsPrelude : Edit → Bool
  | dropPrelude => false
  | _ => true

/-- The extensions that the edit mentions, in order. -/
def mentions : Edit → List (String × ExtensionMode)
  | setExtension name mode => [(name, mode)]
  | setExtensionsOf other => other.extensions.toList
  | _ => []

/-- The macro operations that the edit adds at one end. -/
def macrosAt (side : Side) : Edit → List MacroOp
  | define name value there => if there = side then [.define name value] else []
  | undefine name => if side = .back then [.undefine name] else []
  | appendBody other => if side = .back then other.macros else []
  | _ => []

/-- The blocks that the edit adds at one end. -/
def blocksAt (side : Side) : Edit → List Block
  | addBlock block there => if there = side then [block] else []
  | appendBody other => if side = .back then other.blocks else []
  | _ => []

end Edit

namespace Shader

def edit (shader : Shader) : Edit → Shader
  | .setVersion version => shader.setVersion version
  | .addBlock block side => shader.addBlock block side
  | .appendBody other => shader.appendBody other
  | .define name value side => shader.define name value side
  | .undefine name => shader.undefine name
  | .setExtension name mode => shader.setExtension name mode
  | .setExtensionsOf other => shader.setExtensionsOf other
  | .dropPrelude => shader.dropPrelude

/-- The shader that some edits, one after another, make of one without content. -/
def ofEdits (edits : List Edit) : Shader := edits.foldl edit empty

/-! ### Section by section -/

variable (shader : Shader) (edits : List Edit)

theorem version_foldl_edit :
    (edits.foldl edit shader).version
      = (edits.flatMap Edit.versions).getLast?.getD shader.version := by
  induction edits generalizing shader with
  | nil => rfl
  | cons e edits ih =>
      have hstep : (shader.edit e).version = e.versions.getLast?.getD shader.version := by
        cases e <;> rfl
      rw [List.foldl_cons, ih, hstep, List.flatMap_cons, List.getLast?_append, Option.getD_or]

theorem prelude_foldl_edit :
    (edits.foldl edit shader).prelude = (shader.prelude && edits.all Edit.keepsPrelude) := by
  induction edits generalizing shader with
  | nil => rw [List.foldl_nil, List.all_nil, Bool.and_true]
  | cons e edits ih =>
      have hstep : (shader.edit e).prelude = (shader.prelude && e.keepsPrelude) := by
        cases e with
        | dropPrelude => exact (Bool.and_false _).symm
        | _ => exact (Bool.and_true _).symm
      rw [List.foldl_cons, ih, hstep, List.all_cons, Bool.and_assoc]

theorem extensions_foldl_edit :
    (edits.foldl edit shader).extensions
      = shader.extensions.upsertAll (edits.flatMap Edit.mentions) := by
  have hstep (s : Shader) (e : Edit) :
      (s.edit e).extensions = s.extensions.upsertAll e.mentions := by
    cases e <;> rfl
  rw [ExtensionList.upsertAll, List.foldl_flatMap]
  exact (List.foldl_hom Shader.extensions fun s e => (hstep s e).symm).symm

theorem macros_foldl_edit :
    (edits.foldl edit shader).macros
      = (edits.flatMap (Edit.macrosAt .front)).reverse ++ shader.macros
        ++ edits.flatMap (Edit.macrosAt .back) := by
  refine foldl_both_ends (fun s e => ?_) edits shader
  cases e with
  | define name value side => cases side <;> simp [edit, define, Edit.macrosAt, Side.add]
  | undefine name => simp [edit, undefine, Edit.macrosAt]
  | appendBody other => simp [edit, appendBody, Edit.macrosAt]
  | _ => exact (List.append_nil _).symm

theorem blocks_foldl_edit :
    (edits.foldl edit shader).blocks
      = (edits.flatMap (Edit.blocksAt .front)).reverse ++ shader.blocks
        ++ edits.flatMap (Edit.blocksAt .back) := by
  refine foldl_both_ends (fun s e => ?_) edits shader
  cases e with
  | addBlock block side => cases side <;> simp [edit, addBlock, Edit.blocksAt, Side.add]
  | appendBody other => simp [edit, appendBody, Edit.blocksAt]
  | _ => exact (List.append_nil _).symm

theorem assembled_foldl_edit (h : shader.assembled = none) :
    (edits.foldl edit shader).assembled = none := by
  induction edits generalizing shader with
  | nil => exact h
  | cons e edits ih => exact ih _ (by cases e <;> rfl)

/-- All that the edits make of a shader, in closed form. -/
theorem ofEdits_eq :
    ofEdits edits =
      { version := (edits.flatMap Edit.versions).getLast?.getD ""
        extensions := ExtensionList.empty.upsertAll (edits.flatMap Edit.mentions)
        macros := (edits.flatMap (Edit.macrosAt .front)).reverse
          ++ edits.flatMap (Edit.macrosAt .back)
        blocks := (edits.flatMap (Edit.blocksAt .front)).reverse
          ++ edits.flatMap (Edit.blocksAt .back)
        prelude := edits.all Edit.keepsPrelude
        assembled := none } := by
  have hversion := version_foldl_edit empty edits
  have hextensions := extensions_foldl_edit empty edits
  have hmacros := macros_foldl_edit empty edits
  have hblocks := blocks_foldl_edit empty edits
  have hprelude := prelude_foldl_edit empty edits
  have hassembled := assembled_foldl_edit empty edits rfl
  rw [show empty.macros = [] from rfl, List.append_nil] at hmacros
  rw [show empty.blocks = [] from rfl, List.append_nil] at hblocks
  rw [ofEdits]
  generalize edits.foldl edit empty = made at *
  obtain ⟨version, extensions, macros, blocks, prelude, assembled⟩ := made
  rw [Shader.mk.injEq]
  exact ⟨hversion, hextensions, hmacros, hblocks, hprelude, hassembled⟩

/-! ### Interleaving -/

/-- Items that contribute nothing can be left out. -/
theorem flatMap_filter_eq {α β : Type} {p : α → Bool} {f : α → List β}
    (h : ∀ x, p x = false → f x = []) (items : List α) :
    (items.filter p).flatMap f = items.flatMap f := by
  induction items with
  | nil => rfl
  | cons x items ih =>
      cases hx : p x with
      | false => rw [List.filter_cons_of_neg (by simp [hx]), ih, List.flatMap_cons, h x hx,
          List.nil_append]
      | true => rw [List.filter_cons_of_pos hx, List.flatMap_cons, List.flatMap_cons, ih]

/-- Only the order of the edits that concern the same section matters. -/
theorem ofEdits_congr {edits edits' : List Edit}
    (h : ∀ part : Section, edits'.filter (·.concerns part) = edits.filter (·.concerns part)) :
    ofEdits edits' = ofEdits edits := by
  have hsection {β : Type} (part : Section) (f : Edit → List β)
      (hf : ∀ e : Edit, e.concerns part = false → f e = []) :
      edits'.flatMap f = edits.flatMap f := by
    rw [← flatMap_filter_eq hf, h part, flatMap_filter_eq hf]
  have hversions := hsection .version Edit.versions fun e he => by
    cases e with
    | setVersion => cases he
    | _ => rfl
  have hmentions := hsection .extensions Edit.mentions fun e he => by
    cases e with
    | setExtension | setExtensionsOf => cases he
    | _ => rfl
  have hmacros (side : Side) := hsection .macros (Edit.macrosAt side) fun e he => by
    cases e with
    | define | undefine | appendBody => cases he
    | _ => rfl
  have hblocks (side : Side) := hsection .blocks (Edit.blocksAt side) fun e he => by
    cases e with
    | addBlock | appendBody => cases he
    | _ => rfl
  have hprelude : edits'.all Edit.keepsPrelude = edits.all Edit.keepsPrelude := by
    have hpart (items : List Edit) :
        (items.filter (·.concerns .prelude)).all Edit.keepsPrelude
          = items.all Edit.keepsPrelude := by
      rw [List.all_filter]
      exact congrArg items.all (funext fun e => by cases e <;> rfl)
    rw [← hpart, h .prelude, hpart]
  rw [ofEdits_eq, ofEdits_eq, hversions, hmentions, hmacros, hmacros, hblocks, hblocks, hprelude]

theorem all_keepsPrelude_iff {edits : List Edit} :
    edits.all Edit.keepsPrelude = true ↔ Edit.dropPrelude ∉ edits := by
  rw [List.all_eq_true]
  constructor
  · intro h hmem
    exact absurd (h _ hmem) Bool.false_ne_true
  · intro h e he
    cases e with
    | dropPrelude => exact absurd he h
    | _ => rfl

/-- **A shader is its history, section by section.** The version is the one stated last, the
prelude is there if it was never dropped, the extensions are those mentioned, and the macro
operations and the blocks are what was added at the front, in reverse, and then what was added at
the back, where a merge adds at the back. So two histories with the same edits in each section give
the same shader and the same code, however the sections are interleaved. -/
theorem ofEdits_reads_sections (edits : List Edit) :
    (ofEdits edits).version = (edits.flatMap Edit.versions).getLast?.getD "" ∧
    ((ofEdits edits).prelude = true ↔ Edit.dropPrelude ∉ edits) ∧
    (ofEdits edits).extensions
      = ExtensionList.empty.upsertAll (edits.flatMap Edit.mentions) ∧
    (ofEdits edits).macros
      = (edits.flatMap (Edit.macrosAt .front)).reverse ++ edits.flatMap (Edit.macrosAt .back) ∧
    (ofEdits edits).blocks
      = (edits.flatMap (Edit.blocksAt .front)).reverse ++ edits.flatMap (Edit.blocksAt .back) ∧
    ∀ edits', (∀ part : Section,
        edits'.filter (·.concerns part) = edits.filter (·.concerns part)) →
      ofEdits edits' = ofEdits edits ∧
      ∀ resolver, (ofEdits edits').assemble resolver = (ofEdits edits).assemble resolver := by
  refine ⟨?_, ?_, ?_, ?_, ?_, fun edits' h => ?_⟩
  · rw [ofEdits_eq]
  · rw [ofEdits_eq]
    exact all_keepsPrelude_iff
  · rw [ofEdits_eq]
  · rw [ofEdits_eq]
  · rw [ofEdits_eq]
  · have hsame := ofEdits_congr h
    exact ⟨hsame, fun resolver => congrArg (assemble · resolver) hsame⟩

/-- A shader to merge, with something at each place that a merge adds to. -/
def merged : Shader := ((empty.define "M" "1" .front).undefine "M").addBlock (.text "m") .front

/-- A history that finishes each section before it starts another one. -/
def sectionwise : List Edit :=
  [.setVersion "330", .setVersion "450", .dropPrelude, .setExtension "E" .warn,
   .setExtension "E" .require, .define "A" "1" .front, .appendBody merged, .define "B" "2" .front,
   .undefine "A", .addBlock (.text "a") .front, .addBlock (.file "b") .front]

def interleaved : List Edit :=
  [.define "A" "1" .front, .setExtension "E" .warn, .appendBody merged,
   .addBlock (.text "a") .front, .setVersion "330", .define "B" "2" .front, .dropPrelude,
   .addBlock (.file "b") .front, .setExtension "E" .require, .undefine "A", .setVersion "450"]

theorem ofEdits_interleaved_eq :
    (∀ part : Section,
      interleaved.filter (·.concerns part) = sectionwise.filter (·.concerns part)) ∧
    ofEdits interleaved = ofEdits sectionwise ∧
    (ofEdits interleaved).macros
      = [.define "B" "2", .define "A" "1", .define "M" "1", .undefine "M", .undefine "A"] ∧
    (ofEdits interleaved).blocks = [.file "b", .text "a", .text "m"] := by
  have hparts (part : Section) :
      interleaved.filter (·.concerns part) = sectionwise.filter (·.concerns part) := by
    cases part <;> rfl
  obtain ⟨-, -, -, hmacros, hblocks, -⟩ := ofEdits_reads_sections interleaved
  obtain ⟨hsame, -⟩ := (ofEdits_reads_sections sectionwise).2.2.2.2.2 interleaved hparts
  exact ⟨hparts, hsame, hmacros, hblocks⟩

end Shader

end ShaderAssembly
