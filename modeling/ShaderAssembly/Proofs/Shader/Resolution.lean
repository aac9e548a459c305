import Mathlib.Data.List.Forall2
import ShaderAssembly.Proofs.Shader.Remembered

/-!
# Looking up the blocks of a shader

Assembly looks up all blocks, one after another. It succeeds if each of them has a text, and the
code is the header with these texts after it; otherwise the first block without one is the cause of
its failure, whatever comes later. So the blocks up to the first bad one are all that a resolver is
consulted for, and another resolver that gives the same answers for them gives the same result.
-/

namespace ShaderAssembly

section Lookups

variable {α β ε : Type} {lookUp : α → Except ε β}

theorem mapM_eq_ok_iff {items : List α} {results : List β} :
    items.mapM lookUp = .ok results
      ↔ List.Forall₂ (fun item result => lookUp item = .ok result) items results := by
  induction items generalizing results with
  | nil => simp [pure, Except.pure, eq_comm]
  | cons item items ih =>
      rw [List.mapM_cons, List.forall₂_cons_left_iff]
      cases hitem : lookUp item with
      | error e => simp [bind, Except.bind]
      | ok result =>
          cases hitems : items.mapM lookUp with
          | error e => simp [bind, Except.bind, ← ih, hitems]
          | ok others => simp [bind, Except.bind, pure, Except.pure, ← ih, hitems, eq_comm]

theorem mapM_eq_error_of_first {before after : List α} {item : α} {e : ε}
    (hbefore : ∀ earlier ∈ before, ∃ result, lookUp earlier = .ok result)
    (hitem : lookUp item = .error e) : (before ++ item :: after).mapM lookUp = .error e := by
  induction before with
  | nil =>
      rw [List.nil_append, List.mapM_cons, hitem]
      rfl
  | cons first before ih =>
      obtain ⟨⟨result, hfirst⟩, hrest⟩ := List.forall_mem_cons.1 hbefore
      rw [List.cons_append, List.mapM_cons, hfirst, ih hrest]
      rfl

theorem mapM_eq_error_iff {items : List α} {e : ε} :
    items.mapM lookUp = .error e ↔
      ∃ before item after, items = before ++ item :: after ∧
        (∀ earlier ∈ before, ∃ result, lookUp earlier = .ok result) ∧ lookUp item = .error e := by
  constructor
  · intro h
    induction items with
    | nil => cases h
    | cons item items ih =>
        cases hitem : lookUp item with
        | error cause =>
            obtain rfl : cause = e := by simpa [List.mapM_cons, hitem, bind, Except.bind] using h
            exact ⟨[], item, items, rfl, fun _ hmem => absurd hmem List.not_mem_nil, hitem⟩
        | ok result =>
            have hitems : items.mapM lookUp = .error e := by
              cases hitems : items.mapM lookUp <;>
                simp_all [List.mapM_cons, bind, Except.bind, pure, Except.pure]
            obtain ⟨before, failed, after, rfl, hbefore, hfailed⟩ := ih hitems
            exact ⟨item :: before, failed, after, rfl,
              List.forall_mem_cons.2 ⟨⟨result, hitem⟩, hbefore⟩, hfailed⟩
  · rintro ⟨before, item, after, rfl, hbefore, hitem⟩
    exact mapM_eq_error_of_first hbefore hitem

/-- The items up to and including the first one whose look-up fails. -/
def consulted (lookUp : α → Except ε β) : List α → List α
  | [] => []
  | item :: items =>
    match lookUp item with
    | .ok _ => item :: consulted lookUp items
    | .error _ => [item]

/-- Look-ups that agree on the items consulted have the same result. -/
theorem mapM_congr_of_consulted {lookUp' : α → Except ε β} {items : List α}
    (h : ∀ item ∈ consulted lookUp items, lookUp' item = lookUp item) :
    items.mapM lookUp' = items.mapM lookUp := by
  induction items with
  | nil => rfl
  | cons item items ih =>
      cases hitem : lookUp item with
      | error e =>
          simp only [consulted, hitem, List.mem_singleton, forall_eq] at h
          rw [List.mapM_cons, List.mapM_cons, h, hitem]
          rfl
      | ok result =>
          simp only [consulted, hitem, List.forall_mem_cons] at h
          rw [List.mapM_cons, List.mapM_cons, h.1, hitem, ih h.2]

theorem exists_of_mem_of_forall₂ {related : α → β → Prop} {items : List α} {results : List β}
    (h : List.Forall₂ related items results) {item : α} (hitem : item ∈ items) :
    ∃ result, related item result := by
  induction h with
  | nil => exact absurd hitem List.not_mem_nil
  | cons hfirst _ ih =>
      rcases List.mem_cons.1 hitem with rfl | hitem
      · exact ⟨_, hfirst⟩
      · exact ih hitem

end Lookups

namespace Block

variable {resolver resolver' : Resolver} {block : Block}

/-- The resolver has what the block refers to. -/
def Available (resolver : Resolver) : Block → Prop
  | file path => ∃ text, resolver.fileText path = .ok text
  | text _ => True
  | resource label => ∃ text, resolver.resourceText label = some text

/-- The resolver does not have what the block refers to, and this is the error. -/
def FailsWith (resolver : Resolver) (e : AssemblyError) : Block → Prop
  | file path => ∃ cause, resolver.fileText path = .error cause ∧ e = .unresolvedFile path cause
  | text _ => False
  | resource label => resolver.resourceText label = none ∧ e = .unresolvedResource label

/-- The two resolvers give the same answer for what the block refers to. -/
def AnsweredAlike (resolver resolver' : Resolver) : Block → Prop
  | file path => resolver'.fileText path = resolver.fileText path
  | text _ => True
  | resource label => resolver'.resourceText label = resolver.resourceText label

theorem exists_resolve_iff_available :
    (∃ text, block.resolve resolver = .ok text) ↔ block.Available resolver := by
  cases block with
  | file path =>
      rw [resolve, Available]
      cases resolver.fileText path <;> simp [Except.mapError]
  | text code => simp [resolve, Available]
  | resource label =>
      rw [resolve, Available]
      cases resolver.resourceText label <;> simp

theorem resolve_eq_error_iff_failsWith {e : AssemblyError} :
    block.resolve resolver = .error e ↔ block.FailsWith resolver e := by
  cases block with
  | file path =>
      rw [resolve, FailsWith]
      cases resolver.fileText path <;> simp [Except.mapError, eq_comm]
  | text code => simp [resolve, FailsWith]
  | resource label =>
      rw [resolve, FailsWith]
      cases resolver.resourceText label <;> simp [eq_comm]

theorem resolve_congr (h : block.AnsweredAlike resolver resolver') :
    block.resolve resolver' = block.resolve resolver := by
  cases block with
  | file path => exact congrArg (Except.mapError (AssemblyError.unresolvedFile path)) h
  | text code => rfl
  | resource label =>
      rw [AnsweredAlike] at h
      rw [resolve, resolve, h]

end Block

namespace Shader

variable {shader : Shader} {resolver : Resolver}

theorem assemble_eq_ok_iff {code : String} :
    shader.assemble resolver = .ok code ↔
      ∃ texts, List.Forall₂ (fun block text => Block.resolve resolver block = .ok text)
        shader.blocks texts ∧ code = shader.header ++ Text.ofLines texts := by
  simp only [← mapM_eq_ok_iff, assemble]
  cases shader.blocks.mapM (Block.resolve resolver) with
  | error e => simp [bind, Except.bind]
  | ok texts => simp [bind, Except.bind, pure, Except.pure, eq_comm]

/-- The text of a block stands where the block does. -/
theorem assemble_eq_ok_iff_around {code : String} {ahead behind : List Block} {block : Block}
    (hblocks : shader.blocks = ahead ++ block :: behind) :
    shader.assemble resolver = .ok code ↔
      ∃ before text after,
        List.Forall₂ (fun block text => Block.resolve resolver block = .ok text) ahead before ∧
        block.resolve resolver = .ok text ∧
        List.Forall₂ (fun block text => Block.resolve resolver block = .ok text) behind after ∧
        code = shader.header ++ Text.ofLines (before ++ text :: after) := by
  rw [assemble_eq_ok_iff, hblocks]
  constructor
  · rintro ⟨texts, htexts, rfl⟩
    have hbefore := List.forall₂_take ahead.length htexts
    have hrest := List.forall₂_drop ahead.length htexts
    rw [List.take_left] at hbefore
    rw [List.drop_left] at hrest
    obtain ⟨text, after, htext, hafter, hcut⟩ := List.forall₂_cons_left_iff.1 hrest
    exact ⟨_, text, after, hbefore, htext, hafter, by rw [← hcut, List.take_append_drop]⟩
  · rintro ⟨before, text, after, hbefore, htext, hafter, rfl⟩
    exact ⟨_, List.rel_append hbefore (.cons htext hafter), rfl⟩

theorem assemble_eq_error_iff {e : AssemblyError} :
    shader.assemble resolver = .error e ↔
      ∃ before block after, shader.blocks = before ++ block :: after ∧
        (∀ earlier ∈ before, ∃ text, earlier.resolve resolver = .ok text) ∧
        block.resolve resolver = .error e := by
  simp only [← mapM_eq_error_iff, assemble]
  cases shader.blocks.mapM (Block.resolve resolver) with
  | error e => simp [bind, Except.bind]
  | ok texts => simp [bind, Except.bind, pure, Except.pure]

theorem assemble_eq_error_of_first {before after : List Block} {block : Block}
    {e : AssemblyError} (hblocks : shader.blocks = before ++ block :: after)
    (hbefore : ∀ earlier ∈ before, ∃ text, earlier.resolve resolver = .ok text)
    (hblock : block.resolve resolver = .error e) : shader.assemble resolver = .error e :=
  assemble_eq_error_iff.2 ⟨before, block, after, hblocks, hbefore, hblock⟩

theorem exists_assemble_iff_available :
    (∃ code, shader.assemble resolver = .ok code)
      ↔ ∀ block ∈ shader.blocks, block.Available resolver := by
  simp only [← Block.exists_resolve_iff_available]
  constructor
  · rintro ⟨code, hcode⟩ block hblock
    obtain ⟨texts, htexts, -⟩ := assemble_eq_ok_iff.1 hcode
    exact exists_of_mem_of_forall₂ htexts hblock
  · intro hall
    cases hcode : shader.assemble resolver with
    | ok code => exact ⟨code, rfl⟩
    | error e =>
        obtain ⟨before, block, after, hblocks, -, hbad⟩ := assemble_eq_error_iff.1 hcode
        obtain ⟨text, htext⟩ :=
          hall block (hblocks ▸ List.mem_append_right before List.mem_cons_self)
        rw [hbad] at htext
        contradiction

theorem assemble_congr_of_consulted {resolver' : Resolver}
    (h : ∀ block ∈ consulted (Block.resolve resolver) shader.blocks,
      block.AnsweredAlike resolver resolver') :
    shader.assemble resolver' = shader.assemble resolver := by
  have htexts : shader.blocks.mapM (Block.resolve resolver')
      = shader.blocks.mapM (Block.resolve resolver) :=
    mapM_congr_of_consulted fun block hblock => Block.resolve_congr (h block hblock)
  rw [assemble, htexts, assemble]

/-- A shader that remembers nothing is assembled. -/
theorem assembledCode_of_forgotten (h : shader.assembled = none) (resolver : Resolver) :
    (shader.assembledCode resolver).1 = shader.assemble resolver :=
  (current_of_forgotten ∅ h).assembledCode_eq (Set.empty_subset _)

/-- **What an assembly depends on.** It succeeds if each file and each resource that a block refers
to is there, and the code is the header and then the texts of the blocks, in order. Otherwise the
first block that refers to something missing is the error. Another resolver changes nothing if it
gives the same answers up to and including that block, or for all blocks if there is none. -/
theorem assemble_depends_on_consulted (shader : Shader) (resolver : Resolver) :
    ((∃ code, shader.assemble resolver = .ok code) ↔
      (∀ path, .file path ∈ shader.blocks → ∃ text, resolver.fileText path = .ok text) ∧
      ∀ label, .resource label ∈ shader.blocks →
        ∃ text, resolver.resourceText label = some text) ∧
    (∀ code, shader.assemble resolver = .ok code ↔
      ∃ texts, List.Forall₂ (fun block text => Block.resolve resolver block = .ok text)
        shader.blocks texts ∧ code = shader.header ++ Text.ofLines texts) ∧
    (∀ e, shader.assemble resolver = .error e ↔
      ∃ before block after, shader.blocks = before ++ block :: after ∧
        (∀ earlier ∈ before, earlier.Available resolver) ∧ block.FailsWith resolver e) ∧
    ∀ resolver', (∀ block ∈ consulted (Block.resolve resolver) shader.blocks,
        block.AnsweredAlike resolver resolver') →
      shader.assemble resolver' = shader.assemble resolver := by
  refine ⟨?_, fun code => assemble_eq_ok_iff, fun e => ?_, fun resolver' =>
    assemble_congr_of_consulted⟩
  · rw [exists_assemble_iff_available]
    constructor
    · exact fun h => ⟨fun path hpath => h _ hpath, fun label hlabel => h _ hlabel⟩
    · rintro ⟨hfiles, hresources⟩ block hblock
      cases block with
      | file path => exact hfiles path hblock
      | text code => trivial
      | resource label => exact hresources label hblock
  · simp only [assemble_eq_error_iff, Block.exists_resolve_iff_available,
      Block.resolve_eq_error_iff_failsWith]

/-- A file, a text, a resource that is nowhere, and a file after it. -/
def missingMiddle : Shader :=
  { empty with blocks := [.file "a", .text "x", .resource "r", .file "b"] }

/-- Has one file, and gives this answer for all others. -/
def havingA (others : Except FileError String) : Resolver where
  fileText path := if path = "a" then .ok "A" else others
  resourceText _ := none

theorem assemble_missingMiddle_depends :
    missingMiddle.assemble (havingA (.error .notFound)) = .error (.unresolvedResource "r") ∧
    (∀ block ∈ consulted (Block.resolve (havingA (.error .notFound))) missingMiddle.blocks,
      block.AnsweredAlike (havingA (.error .notFound)) (havingA (.ok "B"))) ∧
    missingMiddle.assemble (havingA (.ok "B"))
      = missingMiddle.assemble (havingA (.error .notFound)) := by
  obtain ⟨-, -, herror, hagree⟩ :=
    assemble_depends_on_consulted missingMiddle (havingA (.error .notFound))
  have hconsulted : consulted (Block.resolve (havingA (.error .notFound))) missingMiddle.blocks
      = [.file "a", .text "x", .resource "r"] := rfl
  have halike : ∀ block ∈
      consulted (Block.resolve (havingA (.error .notFound))) missingMiddle.blocks,
      block.AnsweredAlike (havingA (.error .notFound)) (havingA (.ok "B")) := by
    rw [hconsulted]
    simp [Block.AnsweredAlike, havingA]
  refine ⟨(herror _).2 ⟨[.file "a", .text "x"], .resource "r", [.file "b"], rfl, ?_, rfl, rfl⟩,
    halike, hagree _ halike⟩
  simp [Block.Available, havingA]

end Shader

end ShaderAssembly
