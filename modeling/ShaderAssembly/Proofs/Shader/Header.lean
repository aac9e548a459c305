import ShaderAssembly.Proofs.FileTree.Names
import ShaderAssembly.Proofs.Shader.Extensions
import ShaderAssembly.Proofs.Shader.Resolution

/-!
# Reading a header back

The header of a shader states its version, its prelude, its extensions and its macro operations,
each on lines of its own. The sections can be read off these lines again, unless a part of them
brings a line break or the name of a definition brings a blank: what a line starts with says which
section it belongs to, the prelude begins like no directive does, the mode of an extension comes
after the last colon, and the value of a definition comes after the first blank.
-/

namespace ShaderAssembly

namespace Text

/-- The lines of a text, each of which ends with a line break. -/
def linesOf (text : String) : List String :=
  (splitAll '\n' text.toList).dropLast.map String.ofList

theorem linesOf_ofLines {lines : List String} (h : ∀ line ∈ lines, '\n' ∉ line.toList) :
    linesOf (ofLines lines) = lines := by
  have hpieces : splitAll '\n' (ofLines lines).toList = lines.map String.toList ++ [[]] := by
    induction lines with
    | nil => rfl
    | cons line lines ih =>
        rw [List.forall_mem_cons] at h
        have hcut : (ofLines (line :: lines)).toList
            = line.toList ++ '\n' :: (ofLines lines).toList := by
          simp [toList_ofLines]
        rw [hcut, splitAll_append_cons, splitAll_of_not_mem h.1, ih h.2]
        rfl
  rw [linesOf, hpieces, List.dropLast_concat, List.map_map]
  simp

/-- What comes after the start of a line, if the line starts so. -/
def after? (start line : String) : Option String :=
  (start.toList.isPrefixOf? line.toList).map String.ofList

theorem after?_append (start rest : String) : after? start (start ++ rest) = some rest := by
  have hrest : start.toList.isPrefixOf? (start ++ rest).toList = some rest.toList := by
    rw [List.isPrefixOf?_eq_some_iff_append_eq, String.toList_append]
  rw [after?, hrest, Option.map_some, String.ofList_toList]

end Text

/-! ### Reading a line -/

namespace ExtensionMode

/-- The mode comes after the last colon and a blank. -/
def readMention? (mention : String) : Option (String × ExtensionMode) :=
  match Text.splitFirst ':' mention.toList.reverse with
  | some (keyword, name) =>
    (ofKeyword? (String.ofList (keyword.reverse.drop 1))).map (String.ofList name.reverse, ·)
  | none => none

theorem readMention?_append (name : String) (mode : ExtensionMode) :
    readMention? (name ++ ": " ++ mode.keyword) = some (name, mode) := by
  -- A name may have colons in it, but a keyword has none.
  have hcolon : ':' ∉ mode.keyword.toList.reverse ++ [' '] := by
    cases mode <;> decide
  have hreverse : (name ++ ": " ++ mode.keyword).toList.reverse
      = (mode.keyword.toList.reverse ++ [' ']) ++ ':' :: name.toList.reverse := by
    simp [String.toList_append]
  rw [readMention?, hreverse, Text.splitFirst_append_cons hcolon]
  simp [ofKeyword?_keyword]

end ExtensionMode

namespace MacroOp

/-- No part of the operation brings a line break, and the name of a definition no blank. -/
def Readable : MacroOp → Prop
  | define name value => '\n' ∉ name.toList ∧ ' ' ∉ name.toList ∧ '\n' ∉ value.toList
  | undefine name => '\n' ∉ name.toList

instance : DecidablePred Readable := fun op =>
  match op with
  | define name value =>
    inferInstanceAs (Decidable ('\n' ∉ name.toList ∧ ' ' ∉ name.toList ∧ '\n' ∉ value.toList))
  | undefine name => inferInstanceAs (Decidable ('\n' ∉ name.toList))

/-- The value comes after the first blank. -/
def readDefinition (definition : String) : MacroOp :=
  match Text.splitFirst ' ' definition.toList with
  | some (name, value) => define (String.ofList name) (String.ofList value)
  | none => define definition ""

def read? (line : String) : Option MacroOp :=
  match Text.after? "#define " line with
  | some definition => some (readDefinition definition)
  | none => (Text.after? "#undef " line).map undefine

theorem readDefinition_name {name : String} (h : ' ' ∉ name.toList) :
    readDefinition name = define name "" := by
  rw [readDefinition, Text.splitFirst_of_not_mem h]

theorem readDefinition_name_value {name : String} (h : ' ' ∉ name.toList) (value : String) :
    readDefinition (name ++ " " ++ value) = define name value := by
  have hcut : (name ++ " " ++ value).toList = name.toList ++ ' ' :: value.toList := by
    simp [String.toList_append]
  rw [readDefinition, hcut, Text.splitFirst_append_cons h]
  simp

theorem Readable.not_mem_directive {op : MacroOp} (h : op.Readable) :
    '\n' ∉ op.directive.toList := by
  cases op with
  | define name value =>
      obtain ⟨hname, -, hvalue⟩ := h
      rw [directive]
      split <;> simp [hname, hvalue]
  | undefine name =>
      have hname : '\n' ∉ name.toList := h
      simp [directive, hname]

theorem read?_directive {op : MacroOp} (h : op.Readable) : read? op.directive = some op := by
  cases op with
  | define name value =>
      obtain ⟨-, hname, -⟩ := h
      rw [directive]
      split
      · rename_i hempty
        rw [read?, Text.after?_append]
        simp only [readDefinition_name hname]
        rw [String.isEmpty_iff.1 hempty]
      · rw [String.append_assoc, String.append_assoc, read?, Text.after?_append,
          ← String.append_assoc]
        simp only [readDefinition_name_value hname]
  | undefine name =>
      have hdefine : Text.after? "#define " (undefine name).directive = none := by
        simp [Text.after?, directive, List.isPrefixOf?]
      rw [read?, hdefine, directive, Text.after?_append]
      rfl

end MacroOp

/-! ### Reading a header -/

/-- The sections of a header. -/
structure Header where
  version : String
  prelude : Bool
  extensions : List (String × ExtensionMode)
  macros : List MacroOp

namespace Header

def extensionLine (extension : String × ExtensionMode) : String :=
  Shader.extensionDirective extension.1 extension.2

/-- The lines that mention extensions and state macro operations, in this order. -/
def directives (header : Header) : List String :=
  header.extensions.map extensionLine ++ header.macros.map MacroOp.directive

def lines (header : Header) : List String :=
  Shader.versionLines header.version ++
    ((if header.prelude then preludeLines else []) ++ header.directives)

/-- No part of a section brings a line break, and the name of a definition no blank. -/
structure Readable (header : Header) : Prop where
  version : '\n' ∉ header.version.toList
  extensions : ∀ extension ∈ header.extensions, '\n' ∉ extension.1.toList
  macros : ∀ op ∈ header.macros, op.Readable

def readVersion? (line : String) : Option String := Text.after? "#version " line

def readExtension? (line : String) : Option (String × ExtensionMode) :=
  (Text.after? "#extension " line).bind ExtensionMode.readMention?

/-- Reads lines for as long as it can. -/
def readWhile {α : Type} (read? : String → Option α) : List String → List α × List String
  | [] => ([], [])
  | line :: lines =>
    match read? line with
    | some item => (readWhile read? lines).map (item :: ·) id
    | none => ([], line :: lines)

/-- The version if the first line states one, and the other lines. -/
def readVersion : List String → String × List String
  | [] => ("", [])
  | line :: lines =>
    match readVersion? line with
    | some version => (version, lines)
    | none => ("", line :: lines)

/-- Whether the prelude comes first, and the lines after it. -/
def readPrelude (lines : List String) : Bool × List String :=
  match preludeLines.isPrefixOf? lines with
  | some rest => (true, rest)
  | none => (false, lines)

/-- The header that lines make, section by section. -/
def ofLines (lines : List String) : Header :=
  let (version, lines) := readVersion lines
  let (prelude, lines) := readPrelude lines
  let (extensions, lines) := readWhile readExtension? lines
  { version, prelude, extensions, macros := lines.filterMap MacroOp.read? }

variable {header : Header}

theorem readVersion?_extensionLine (extension : String × ExtensionMode) :
    readVersion? (extensionLine extension) = none := by
  simp [readVersion?, Text.after?, extensionLine, Shader.extensionDirective, List.isPrefixOf?]

theorem readVersion?_directive (op : MacroOp) : readVersion? op.directive = none := by
  cases op with
  | define name value =>
      rw [MacroOp.directive]
      split <;> simp [readVersion?, Text.after?, List.isPrefixOf?]
  | undefine name => simp [readVersion?, Text.after?, MacroOp.directive, List.isPrefixOf?]

theorem readExtension?_extensionLine (extension : String × ExtensionMode) :
    readExtension? (extensionLine extension) = some extension := by
  rw [extensionLine, Shader.extensionDirective, String.append_assoc, String.append_assoc,
    readExtension?, Text.after?_append, Option.bind_some, ← String.append_assoc,
    ExtensionMode.readMention?_append]

theorem readExtension?_directive (op : MacroOp) : readExtension? op.directive = none := by
  cases op with
  | define name value =>
      rw [MacroOp.directive]
      split <;> simp [readExtension?, Text.after?, List.isPrefixOf?]
  | undefine name => simp [readExtension?, Text.after?, MacroOp.directive, List.isPrefixOf?]

theorem readVersion?_of_mem_head?_preludeLines {line : String} (h : line ∈ preludeLines.head?) :
    readVersion? line = none := by
  obtain rfl := Option.some.inj h
  decide +kernel

theorem readVersion?_of_mem_directives {line : String} (h : line ∈ header.directives) :
    readVersion? line = none := by
  rcases List.mem_append.1 h with h | h
  · obtain ⟨extension, -, rfl⟩ := List.mem_map.1 h
    exact readVersion?_extensionLine extension
  · obtain ⟨op, -, rfl⟩ := List.mem_map.1 h
    exact readVersion?_directive op

theorem head?_of_mem_directives {line : String} (h : line ∈ header.directives) :
    line.toList.head? = some '#' := by
  rcases List.mem_append.1 h with h | h
  · obtain ⟨extension, -, rfl⟩ := List.mem_map.1 h
    simp [extensionLine, Shader.extensionDirective]
  · obtain ⟨op, -, rfl⟩ := List.mem_map.1 h
    cases op with
    | define name value =>
        rw [MacroOp.directive]
        split <;> simp
    | undefine name => simp [MacroOp.directive]

/-- No directive is the first line of the prelude. -/
theorem not_mem_head?_of_mem_directives {line : String} (h : line ∈ header.directives) :
    line ∉ preludeLines.head? := by
  intro hfirst
  have hhash := head?_of_mem_directives h
  obtain rfl := Option.some.inj hfirst
  exact absurd hhash (by decide)

theorem readVersion_versionLines (version : String) {rest : List String}
    (hrest : ∀ line ∈ rest.head?, readVersion? line = none) :
    readVersion (Shader.versionLines version ++ rest) = (version, rest) := by
  rw [Shader.versionLines]
  split
  · rename_i hempty
    rw [String.isEmpty_iff.1 hempty, List.nil_append]
    cases rest with
    | nil => rfl
    | cons line lines => simp only [readVersion, hrest line rfl]
  · simp only [List.singleton_append, readVersion, readVersion?, Text.after?_append]

theorem readPrelude_append (prelude : Bool) {rest : List String}
    (hrest : ∀ line ∈ rest, line ∉ preludeLines.head?) :
    readPrelude ((if prelude then preludeLines else []) ++ rest) = (prelude, rest) := by
  cases prelude with
  | true =>
      have hcut : preludeLines.isPrefixOf? (preludeLines ++ rest) = some rest :=
        List.isPrefixOf?_eq_some_iff_append_eq.2 rfl
      simp only [readPrelude, if_true, hcut]
  | false =>
      have hcut : preludeLines.isPrefixOf? rest = none := by
        rw [Option.eq_none_iff_forall_not_mem]
        intro after hafter
        rw [← List.isPrefixOf?_eq_some_iff_append_eq.1 hafter] at hrest
        exact hrest _ List.mem_cons_self rfl
      simp only [readPrelude, Bool.false_eq_true, if_false, List.nil_append, hcut]

theorem readWhile_append {α : Type} {read? : String → Option α} {line : α → String}
    (hread : ∀ item, read? (line item) = some item) (items : List α) {rest : List String}
    (hrest : ∀ line ∈ rest, read? line = none) :
    readWhile read? (items.map line ++ rest) = (items, rest) := by
  induction items with
  | nil =>
      cases rest with
      | nil => rfl
      | cons line lines =>
          rw [List.map_nil, List.nil_append, readWhile, hrest line List.mem_cons_self]
  | cons item items ih =>
      rw [List.map_cons, List.cons_append, readWhile, hread item, ih]
      rfl

theorem filterMap_read?_directives {ops : List MacroOp} (h : ∀ op ∈ ops, op.Readable) :
    (ops.map MacroOp.directive).filterMap MacroOp.read? = ops := by
  rw [List.filterMap_map]
  exact (List.filterMap_congr fun op hop => MacroOp.read?_directive (h op hop)).trans
    List.filterMap_some

/-- The sections of a header are read off its lines. -/
theorem ofLines_lines (h : header.Readable) : ofLines header.lines = header := by
  -- Each stage takes its own lines and leaves those of the next ones.
  have hversion : readVersion header.lines = (header.version,
      (if header.prelude then preludeLines else []) ++ header.directives) := by
    refine readVersion_versionLines header.version fun line hline => ?_
    split at hline
    · exact readVersion?_of_mem_head?_preludeLines hline
    · exact readVersion?_of_mem_directives (List.mem_of_mem_head? hline)
  have hprelude : readPrelude ((if header.prelude then preludeLines else []) ++ header.directives)
      = (header.prelude, header.directives) :=
    readPrelude_append header.prelude fun line => not_mem_head?_of_mem_directives
  have hextensions : readWhile readExtension? header.directives
      = (header.extensions, header.macros.map MacroOp.directive) := by
    refine readWhile_append readExtension?_extensionLine header.extensions fun line hline => ?_
    obtain ⟨op, -, rfl⟩ := List.mem_map.1 hline
    exact readExtension?_directive op
  rw [ofLines, hversion]
  simp only [hprelude, hextensions, filterMap_read?_directives h.macros]

theorem not_mem_extensionLine {extension : String × ExtensionMode}
    (h : '\n' ∉ extension.1.toList) : '\n' ∉ (extensionLine extension).toList := by
  have hkeyword : '\n' ∉ extension.2.keyword.toList := by
    cases extension.2 <;> decide
  simp [extensionLine, Shader.extensionDirective, h, hkeyword]

theorem not_mem_of_mem_lines (h : header.Readable) {line : String} (hline : line ∈ header.lines) :
    '\n' ∉ line.toList := by
  rcases List.mem_append.1 hline with hline | hline
  · rw [Shader.versionLines] at hline
    split at hline
    · exact absurd hline List.not_mem_nil
    · rw [List.mem_singleton.1 hline]
      simpa using h.version
  rcases List.mem_append.1 hline with hline | hline
  · split at hline
    · have hall : ∀ line ∈ preludeLines, '\n' ∉ line.toList := by simp [preludeLines]
      exact hall line hline
    · exact absurd hline List.not_mem_nil
  rcases List.mem_append.1 hline with hline | hline
  · obtain ⟨extension, hextension, rfl⟩ := List.mem_map.1 hline
    exact not_mem_extensionLine (h.extensions extension hextension)
  · obtain ⟨op, hop, rfl⟩ := List.mem_map.1 hline
    exact (h.macros op hop).not_mem_directive

end Header

namespace Shader

variable {shader other : Shader}

/-- The sections that the header of a shader consists of. -/
def sections (shader : Shader) : Header :=
  ⟨shader.version, shader.prelude, shader.extensions.toList, shader.macros⟩

theorem header_eq_ofLines (shader : Shader) :
    shader.header = Text.ofLines shader.sections.lines := by
  have hprelude : Text.ofLines (if shader.prelude then preludeLines else [])
      = if shader.prelude then preludeText else "" := by
    split <;> rfl
  rw [header, ← hprelude, String.append_assoc, String.append_assoc, ← Text.ofLines_append,
    ← Text.ofLines_append, ← Text.ofLines_append]
  rfl

/-- A header without line breaks in its parts can be read back. -/
theorem ofLines_linesOf_header (h : shader.sections.Readable) :
    Header.ofLines (Text.linesOf shader.header) = shader.sections := by
  rw [header_eq_ofLines, Text.linesOf_ofLines fun line => Header.not_mem_of_mem_lines h,
    Header.ofLines_lines h]

/-- Shaders with the same blocks have the same text after their headers. -/
theorem header_eq_of_assemble {resolver : Resolver} {code : String}
    (hblocks : shader.blocks = other.blocks) (hshader : shader.assemble resolver = .ok code)
    (hother : other.assemble resolver = .ok code) : shader.header = other.header := by
  obtain ⟨texts, htexts, rfl⟩ := assemble_eq_ok_iff.1 hshader
  obtain ⟨texts', htexts', hcode⟩ := assemble_eq_ok_iff.1 hother
  rw [hblocks] at htexts
  obtain rfl : texts = texts' :=
    Except.ok.inj ((mapM_eq_ok_iff.2 htexts).symm.trans (mapM_eq_ok_iff.2 htexts'))
  rw [← String.toList_inj, String.toList_append, String.toList_append] at hcode
  exact String.toList_inj.1 (List.append_cancel_right hcode)

/-- **The header is unambiguous.** Two shaders with the same blocks that are assembled to the same
code have the same version, both bring the prelude or neither does, and they have the same
extensions with the same modes and the same macro operations, in the same order. -/
theorem sections_eq_of_same_code {resolver : Resolver} {code : String}
    (hblocks : shader.blocks = other.blocks) (hshader : shader.assemble resolver = .ok code)
    (hother : other.assemble resolver = .ok code) (hreadable : shader.sections.Readable)
    (hother_readable : other.sections.Readable) :
    shader.version = other.version ∧ shader.prelude = other.prelude ∧
      shader.extensions.toList = other.extensions.toList ∧ shader.macros = other.macros := by
  have hsections : shader.sections = other.sections := by
    rw [← ofLines_linesOf_header hreadable, header_eq_of_assemble hblocks hshader hother,
      ofLines_linesOf_header hother_readable]
  exact Header.mk.inj hsections

/-- An extension with a colon in its name, and a block that looks like a directive. -/
def mentioning : Shader := (ofText "#define N").setExtension "A: B" .warn

/-- Macro operations added at the back. -/
def builtAtBack : Shader :=
  ((mentioning.define "N" "" .back).define "N" "1 2" .back).undefine "N 1"

/-- The first of these macro operations added last, at the front. -/
def builtAtBothEnds : Shader :=
  ((mentioning.define "N" "1 2" .back).undefine "N 1").define "N" "" .front

theorem toList_extensions_mentioning : mentioning.extensions.toList = [("A: B", .warn)] :=
  ExtensionList.toList_upsert_new (by simp [ofText, addBlock, empty, ExtensionList.empty]) .warn

theorem sections_builtAtBack : builtAtBack.sections =
    ⟨"", true, [("A: B", .warn)], [.define "N" "", .define "N" "1 2", .undefine "N 1"]⟩ := by
  rw [← toList_extensions_mentioning]
  rfl

theorem sections_eq_at_both_ends : ∃ code,
    builtAtBack.assemble ⟨fun _ => .error .notFound, fun _ => none⟩ = .ok code ∧
    builtAtBothEnds.assemble ⟨fun _ => .error .notFound, fun _ => none⟩ = .ok code ∧
    code = preludeText ++
      "#extension A: B: warn\n#define N\n#define N 1 2\n#undef N 1\n#define N\n" ∧
    builtAtBack.version = builtAtBothEnds.version ∧
    builtAtBack.prelude = builtAtBothEnds.prelude ∧
    builtAtBack.extensions.toList = builtAtBothEnds.extensions.toList ∧
    builtAtBack.macros = builtAtBothEnds.macros := by
  have hreadable : builtAtBack.sections.Readable := by
    rw [sections_builtAtBack]
    exact ⟨by decide, by decide, by decide⟩
  have hback : builtAtBack.assemble ⟨fun _ => .error .notFound, fun _ => none⟩
      = .ok (builtAtBack.header ++ Text.ofLines ["#define N"]) := rfl
  refine ⟨_, hback, hback, ?_, sections_eq_of_same_code rfl hback hback hreadable hreadable⟩
  rw [header_eq_ofLines, sections_builtAtBack]
  decide +kernel

end Shader

end ShaderAssembly
