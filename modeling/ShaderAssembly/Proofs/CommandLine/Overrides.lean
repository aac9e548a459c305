import Mathlib.Data.List.Sort
import ShaderAssembly.CommandLine.Arguments
import ShaderAssembly.Proofs.FileTree.Walk

/-!
# The order of macro options

The values of the two options about macros are collected in two lists, with their places in two
others. As places are distinct and grow along the command line, putting values and places together
again and sorting gives back the occurrences as they were written.
-/

namespace ShaderAssembly

namespace CommandLine

/-- An occurrence of an option about macros on a command line, with its value. -/
inductive Override where
  | define (value : String)
  | undefine (value : String)
  deriving DecidableEq, Repr

namespace Override

def isDefine : Override → Bool
  | define _ => true
  | undefine _ => false

def option : Override → ValueOption
  | define _ => .define
  | undefine _ => .undefine

def value : Override → String
  | define value => value
  | undefine value => value

/-- The operation that an occurrence asks for. -/
def op : Override → MacroOp
  | define value => .ofDefinition value
  | undefine value => .ofRemoval value

/-- The occurrence that an option with its value is, if the option is about macros. -/
def of? : ValueOption → String → Option Override
  | .define, value => some (.define value)
  | .undefine, value => some (.undefine value)
  | .output, _ | .version, _ | .config, _ => none

theorem op_of_isDefine {o : Override} (h : o.isDefine = true) : o.op = .ofDefinition o.value := by
  cases o with
  | define value => rfl
  | undefine value => contradiction

theorem op_of_not_isDefine {o : Override} (h : (!o.isDefine) = true) :
    o.op = .ofRemoval o.value := by
  cases o with
  | define value => contradiction
  | undefine value => rfl

theorem of?_option (o : Override) : of? o.option o.value = some o := by
  cases o <;> rfl

end Override

/-! ### Two collections put together -/

/-- What is collected of some of the occurrences on a line, which have their places with them. -/
def gathered (chosen : Override → Bool) (line : List (Nat × Override)) : Repeated where
  values := (line.filter (chosen ·.2)).map (·.2.value)
  places := (line.filter (chosen ·.2)).map (·.1)

theorem gathered_concat (chosen : Override → Bool) (line : List (Nat × Override)) (place : Nat)
    (o : Override) :
    gathered chosen (line ++ [(place, o)])
      = if chosen o then (gathered chosen line).add place o.value else gathered chosen line := by
  cases h : chosen o <;> simp [gathered, Repeated.add, h]

/-- The occurrences on a line, with the operations that they ask for in their stead. -/
def placedOps (line : List (Nat × Override)) : List (Nat × MacroOp) :=
  line.map fun p => (p.1, p.2.op)

/-- Every value meets its own place again. -/
theorem zip_gathered {chosen : Override → Bool} {read : String → MacroOp}
    (hread : ∀ {o : Override}, chosen o = true → o.op = read o.value)
    (line : List (Nat × Override)) :
    (gathered chosen line).places.zip ((gathered chosen line).values.map read)
      = placedOps (line.filter (chosen ·.2)) := by
  simp only [gathered, List.map_map, List.zip_map']
  refine List.map_congr_left fun p hp => ?_
  rw [hread (List.mem_filter.1 hp).2]
  rfl

/-- Sorting by place gives a list whose places grow, in whatever order its entries come. -/
theorem mergeSort_eq_of_perm {α : Type} {entries line : List (Nat × α)} (hperm : entries.Perm line)
    (hplaces : line.Pairwise (·.1 < ·.1)) :
    (entries.mergeSort fun a b => a.1 ≤ b.1) = line := by
  have hsorted : (entries.mergeSort fun a b => a.1 ≤ b.1).Pairwise (·.1 ≤ ·.1) :=
    (@List.pairwise_mergeSort _ (fun a b : Nat × α => decide (a.1 ≤ b.1))
      (fun a b c hab hbc => decide_eq_true
        (Nat.le_trans (of_decide_eq_true hab) (of_decide_eq_true hbc)))
      (fun a b => by simpa using Nat.le_total a.1 b.1) entries).imp of_decide_eq_true
  have hline := (List.mergeSort_perm entries fun a b => decide (a.1 ≤ b.1)).trans hperm
  have hnodup : (line.map (·.1)).Nodup := (List.pairwise_map.2 hplaces).imp Nat.ne_of_lt
  -- Two entries at one place are the same entry, so there is one sorted order only.
  exact List.Perm.eq_of_pairwise
    (fun a b ha hb hab hba => List.inj_on_of_nodup_map hnodup (hline.subset ha) hb
      (Nat.le_antisymm hab hba))
    hsorted (hplaces.imp Nat.le_of_lt) hline

/-- Occurrences whose places grow are in order again after both kinds have been collected. -/
theorem inOrder_gathered {line : List (Nat × Override)} (h : line.Pairwise (·.1 < ·.1)) :
    inOrder (gathered Override.isDefine line) (gathered (!·.isDefine) line)
      = line.map (·.2.op) := by
  have hperm : (placedOps (line.filter (·.2.isDefine)) ++
      placedOps (line.filter (!·.2.isDefine))).Perm (placedOps line) := by
    rw [placedOps, placedOps, ← List.map_append]
    exact (List.filter_append_perm (·.2.isDefine) line).map _
  have hplaced : (placedOps line).Pairwise (·.1 < ·.1) := List.pairwise_map.2 h
  rw [inOrder, zip_gathered Override.op_of_isDefine, zip_gathered Override.op_of_not_isDefine]
  simp only [mergeSort_eq_of_perm hperm hplaced]
  rw [placedOps, List.map_map]
  rfl

/-! ### Reading a command line -/

/-- The occurrences of the options about macros among the arguments of a command, in order. -/
def overrides : List String → List Override
  | [] => []
  | argument :: rest =>
    match classify argument with
    | .endOfOptions => []
    | .option option (some value) => (Override.of? option value).toList ++ overrides rest
    | .option option none =>
      match rest with
      | [] => []
      | value :: rest => (Override.of? option value).toList ++ overrides rest
    | _ => overrides rest

namespace Collected

variable {c c' : Collected} {line : List (Nat × Override)} {option : ValueOption}
  {value argument : String} {arguments : List String} {request : Arguments}

/-- The occurrences on a line are what has been collected so far about macros. -/
structure Holds (c : Collected) (line : List (Nat × Override)) : Prop where
  defines : c.defines = gathered Override.isDefine line
  undefines : c.undefines = gathered (!·.isDefine) line
  grows : line.Pairwise (·.1 < ·.1)
  before : ∀ p ∈ line, p.1 < c.place

theorem holds_nil : ({} : Collected).Holds [] where
  defines := rfl
  undefines := rfl
  grows := .nil
  before := List.forall_mem_nil _

namespace Holds

theorem mono (h : c.Holds line) (hdefines : c'.defines = c.defines)
    (hundefines : c'.undefines = c.undefines) (hplace : c.place ≤ c'.place) : c'.Holds line where
  defines := hdefines.trans h.defines
  undefines := hundefines.trans h.undefines
  grows := h.grows
  before p hp := Nat.lt_of_lt_of_le (h.before p hp) hplace

/-- One more occurrence is collected, at the place of the arguments read so far. -/
theorem add (h : c.Holds line) (o : Override)
    (hdefines : c'.defines = if o.isDefine then c.defines.add c.place o.value else c.defines)
    (hundefines : c'.undefines
      = if !o.isDefine then c.undefines.add c.place o.value else c.undefines)
    (hplace : c'.place = c.place + 1) : c'.Holds (line ++ [(c.place, o)]) where
  defines := by rw [gathered_concat, hdefines, h.defines]
  undefines := by rw [gathered_concat, hundefines, h.undefines]
  grows := by
    refine List.pairwise_append.2 ⟨h.grows, List.pairwise_singleton _ _, fun p hp q hq => ?_⟩
    rw [List.mem_singleton.1 hq]
    exact h.before p hp
  before p hp := by
    rw [hplace]
    rcases List.mem_append.1 hp with hp | hp
    · exact Nat.lt_succ_of_lt (h.before p hp)
    · rw [List.mem_singleton.1 hp]
      exact Nat.lt_succ_self c.place

theorem setManifest (h : c.Holds line) (hset : c.setManifest argument = .ok c') :
    c'.Holds line := by
  rw [Collected.setManifest] at hset
  split at hset
  · contradiction
  · split at hset
    · contradiction
    · obtain rfl := Except.ok.inj hset
      exact h.mono rfl rfl (Nat.le_succ c.place)

/-- The value of an option about macros is collected, with its place; that of any other option
makes no difference. -/
theorem setOption (h : c.Holds line) (hset : c.setOption option value = .ok c') :
    c'.Holds (line ++ (Override.of? option value).toList.map (c.place, ·)) := by
  cases option with
  | define =>
      obtain rfl := Except.ok.inj hset
      exact h.add (.define value) rfl rfl rfl
  | undefine =>
      obtain rfl := Except.ok.inj hset
      exact h.add (.undefine value) rfl rfl rfl
  | output | config | version =>
      obtain ⟨new, -, hset⟩ := bind_eq_ok_iff.1 hset
      obtain rfl := Except.ok.inj hset
      rw [Override.of?, Option.toList_none, List.map_nil, List.append_nil]
      exact h.mono rfl rfl (Nat.le_succ c.place)

theorem finish (h : c.Holds line) (hfinish : c.finish = .ok (.assemble request)) :
    request.options.macros = line.map (·.2.op) := by
  rw [Collected.finish] at hfinish
  split at hfinish
  · contradiction
  · obtain rfl := Request.assemble.inj (Except.ok.inj hfinish)
    rw [h.defines, h.undefines]
    exact inOrder_gathered h.grows

/-- After the end of options there are no more occurrences. -/
theorem readPlain (h : c.Holds line) (hread : c.readPlain arguments = .ok (.assemble request)) :
    request.options.macros = line.map (·.2.op) := by
  induction arguments generalizing c with
  | nil => exact h.finish hread
  | cons argument rest ih =>
      obtain ⟨c', hset, hrest⟩ := bind_eq_ok_iff.1 hread
      exact ih (h.setManifest hset) hrest

/-- The occurrences found from some point on come after those on the line so far. -/
theorem read (h : c.Holds line) (hread : c.read arguments = .ok (.assemble request)) :
    request.options.macros = line.map (·.2.op) ++ (overrides arguments).map Override.op := by
  fun_induction overrides arguments generalizing c line with
  | case1 =>
      rw [List.map_nil, List.append_nil]
      exact h.finish hread
  | case2 argument rest hend =>
      rw [Collected.read, hend] at hread
      rw [List.map_nil, List.append_nil]
      exact h.readPlain hread
  | case3 argument rest option value hoption ih =>
      rw [Collected.read, hoption] at hread
      obtain ⟨c', hset, hrest⟩ := bind_eq_ok_iff.1 hread
      rw [ih (h.setOption hset) hrest]
      simp
  | case4 argument option hoption =>
      rw [Collected.read, hoption] at hread
      contradiction
  | case5 argument option hoption value rest ih =>
      simp only [Collected.read, hoption] at hread
      split at hread
      · obtain ⟨c', hset, hrest⟩ := bind_eq_ok_iff.1 hread
        rw [ih (h.setOption hset) hrest]
        simp
      · contradiction
  | case6 argument rest hend hattached hseparate ih =>
      rw [Collected.read] at hread
      -- What is left are the manifest and the flags.
      cases hargument : classify argument with
      | plain =>
          rw [hargument] at hread
          obtain ⟨c', hset, hrest⟩ := bind_eq_ok_iff.1 hread
          exact ih (h.setManifest hset) hrest
      | flag flag =>
          rw [hargument] at hread
          cases flag with
          | watch =>
              obtain ⟨-, hrest⟩ := ite_error_eq_ok_iff.1 hread
              have hwatch : Holds { c with watch := true } line := h.mono rfl rfl (Nat.le_refl _)
              exact ih hwatch hrest
          | noPrelude =>
              obtain ⟨-, hrest⟩ := ite_error_eq_ok_iff.1 hread
              have hdropped : Holds { c with noPrelude := true } line :=
                h.mono rfl rfl (Nat.le_refl _)
              exact ih hdropped hrest
          | version | help => cases Except.ok.inj hread
      | bad e =>
          rw [hargument] at hread
          contradiction
      | endOfOptions => exact absurd hargument hend
      | option option attached =>
          cases attached with
          | none => exact absurd hargument (hseparate option)
          | some value => exact absurd hargument (hattached option value)

end Holds

end Collected

/-! ### Writing occurrences -/

theorem attachedValue_of_ne {text : String} (hne : text ≠ "")
    (hequals : text.toList.head? ≠ some '=') : attachedValue text.toList = some text := by
  rw [attachedValue.eq_def]
  split
  · rename_i hnil
    exact absurd (String.toList_eq_nil_iff.1 hnil) hne
  · rename_i rest hcons
    rw [hcons] at hequals
    exact absurd rfl hequals
  · rw [String.ofList_toList]

theorem attachedValue_equals (text : String) :
    attachedValue ("=" ++ text).toList = some text := by
  rw [String.toList_append]
  exact congrArg some String.ofList_toList

namespace Override

/-- The ways to write an occurrence: with its value attached, after an equals sign or not, or with
its value as the next argument. -/
inductive Written (o : Override) : List String → Prop
  | equals : Written o [o.option.name ++ ("=" ++ o.value)]
  | attached (hne : o.value ≠ "") (hequals : o.value.toList.head? ≠ some '=') :
      Written o [o.option.name ++ o.value]
  | separate (hplain : classify o.value = .plain) : Written o [o.option.name, o.value]

variable {o : Override} {words : List String}

theorem classify_name_append (o : Override) (text : String) :
    classify (o.option.name ++ text) = .option o.option (attachedValue text.toList) := by
  cases o <;> simp [classify, option, ValueOption.name, String.toList_append]

theorem classify_name (o : Override) : classify o.option.name = .option o.option none := by
  have h := o.classify_name_append ""
  rwa [String.append_empty, String.toList_empty, attachedValue] at h

/-- What the arguments are by which an occurrence is written. -/
theorem Written.classify_words (h : o.Written words) :
    (∃ word, words = [word] ∧ classify word = .option o.option (some o.value)) ∨
      words = [o.option.name, o.value] ∧ classify o.value = .plain := by
  cases h with
  | equals =>
      refine .inl ⟨_, rfl, ?_⟩
      rw [classify_name_append, attachedValue_equals]
  | attached hne hequals =>
      refine .inl ⟨_, rfl, ?_⟩
      rw [classify_name_append, attachedValue_of_ne hne hequals]
  | separate hplain => exact .inr ⟨rfl, hplain⟩

/-- An occurrence is found where it is written. -/
theorem Written.overrides_append (h : o.Written words) (rest : List String) :
    overrides (words ++ rest) = o :: overrides rest := by
  rcases h.classify_words with ⟨word, rfl, hword⟩ | ⟨rfl, hplain⟩
  · rw [List.singleton_append, overrides, hword]
    simp [of?_option]
  · rw [List.cons_append, List.singleton_append, overrides, classify_name]
    simp [of?_option]

/-- The value of an option about macros is always taken. -/
theorem exists_setOption (o : Override) (c : Collected) :
    ∃ c', c.setOption o.option o.value = .ok c' ∧ c'.manifest = c.manifest := by
  cases o <;> exact ⟨_, rfl, rfl⟩

/-- Reading goes on after an occurrence. -/
theorem Written.read_append (h : o.Written words) (c : Collected) (rest : List String) :
    ∃ c' : Collected, c.read (words ++ rest) = c'.read rest ∧ c'.manifest = c.manifest := by
  obtain ⟨c', hset, hmanifest⟩ := o.exists_setOption c
  refine ⟨c', ?_, hmanifest⟩
  rcases h.classify_words with ⟨word, rfl, hword⟩ | ⟨rfl, hplain⟩
  · rw [List.singleton_append, Collected.read, hword]
    simp only [hset]
    rfl
  · rw [List.cons_append, List.singleton_append, Collected.read, classify_name]
    simp only [hset, if_pos hplain]
    rfl

end Override

variable {occurrences before after : List Override} {manifest : String}
  {words wordsBefore wordsAfter : List (List String)}

theorem overrides_flatten (h : List.Forall₂ Override.Written occurrences words)
    (rest : List String) : overrides (words.flatten ++ rest) = occurrences ++ overrides rest := by
  induction h with
  | nil => rfl
  | cons hwritten _ ih =>
      rw [List.flatten_cons, List.append_assoc, hwritten.overrides_append, ih, List.cons_append]

theorem read_flatten (h : List.Forall₂ Override.Written occurrences words) (c : Collected)
    (rest : List String) :
    ∃ c' : Collected, c.read (words.flatten ++ rest) = c'.read rest ∧ c'.manifest = c.manifest := by
  induction h generalizing c with
  | nil => exact ⟨c, rfl, rfl⟩
  | cons hwritten _ ih =>
      rename_i word _
      obtain ⟨c₁, hread₁, hmanifest₁⟩ := hwritten.read_append c (_ ++ rest)
      obtain ⟨c₂, hread₂, hmanifest₂⟩ := ih c₁
      refine ⟨c₂, ?_, hmanifest₂.trans hmanifest₁⟩
      rw [List.flatten_cons, List.append_assoc, hread₁, hread₂]

/-- A manifest and occurrences around it make a command that assembles. -/
theorem parse_of_written (hplain : classify manifest = .plain) (hmanifest : manifest ≠ "")
    (hbefore : List.Forall₂ Override.Written before wordsBefore)
    (hafter : List.Forall₂ Override.Written after wordsAfter) :
    ∃ request, parse (wordsBefore.flatten ++ manifest :: wordsAfter.flatten)
        = .ok (.assemble request) ∧ request.manifest = manifest := by
  obtain ⟨c₁, hread₁, hnone⟩ := read_flatten hbefore {} (manifest :: wordsAfter.flatten)
  let c₂ : Collected := { c₁ with manifest := some manifest, place := c₁.place + 1 }
  have hset : c₁.setManifest manifest = .ok c₂ := by
    rw [Collected.setManifest, hnone]
    exact if_neg (by simpa using hmanifest)
  obtain ⟨c₃, hread₃, hsome⟩ := read_flatten hafter c₂ []
  rw [List.append_nil] at hread₃
  rw [parse, hread₁, Collected.read, hplain]
  have hfinish : (c₁.setManifest manifest >>= fun c => c.read wordsAfter.flatten) = c₃.finish := by
    rw [hset]
    exact hread₃
  rw [hfinish, Collected.finish, hsome]
  exact ⟨_, rfl, rfl⟩

theorem overrides_of_written (hplain : classify manifest = .plain)
    (hbefore : List.Forall₂ Override.Written before wordsBefore)
    (hafter : List.Forall₂ Override.Written after wordsAfter) :
    overrides (wordsBefore.flatten ++ manifest :: wordsAfter.flatten) = before ++ after := by
  have hend := overrides_flatten hafter []
  rw [List.append_nil, overrides, List.append_nil] at hend
  rw [overrides_flatten hbefore, overrides, hplain]
  exact congrArg (before ++ ·) hend

theorem macros_of_parse {arguments : List String} {request : Arguments}
    (h : parse arguments = .ok (.assemble request)) :
    request.options.macros = (overrides arguments).map Override.op :=
  Collected.holds_nil.read h

/-- **Macro options keep their order.** Whatever the places of the occurrences are, as long as they
grow along the command line, what is collected of the two options is put together to one operation
for each occurrence, the one that its own value asks for, in the order of the command line. This is
how the operations come about of every command that assembles; and every manifest with occurrences
around it, each written in one of its ways, is such a command. -/
theorem overrides_keep_order :
    (∀ line : List (Nat × Override), line.Pairwise (·.1 < ·.1) →
      inOrder (gathered Override.isDefine line) (gathered (!·.isDefine) line)
        = line.map (·.2.op)) ∧
    (∀ arguments request, parse arguments = .ok (.assemble request) →
      request.options.macros = (overrides arguments).map Override.op) ∧
    ∀ (manifest : String) (before after : List Override) (wordsBefore wordsAfter),
      classify manifest = .plain → manifest ≠ "" →
      List.Forall₂ Override.Written before wordsBefore →
      List.Forall₂ Override.Written after wordsAfter →
      ∃ request, parse (wordsBefore.flatten ++ manifest :: wordsAfter.flatten)
          = .ok (.assemble request) ∧
        request.manifest = manifest ∧
        request.options.macros = (before ++ after).map Override.op := by
  refine ⟨fun line => inOrder_gathered, fun arguments request => macros_of_parse, ?_⟩
  intro manifest before after wordsBefore wordsAfter hplain hmanifest hbefore hafter
  obtain ⟨request, hparse, hsame⟩ := parse_of_written hplain hmanifest hbefore hafter
  refine ⟨request, hparse, hsame, ?_⟩
  rw [macros_of_parse hparse, overrides_of_written hplain hbefore hafter]

/-- Removals and definitions that take turns. -/
def turns : List Override := [.undefine "X", .define "X=1", .undefine "Y", .define "Z"]

theorem turns_keep_order :
    turns.map Override.op = [.undefine "X", .define "X" "1", .undefine "Y", .define "Z" ""] ∧
    inOrder ⟨["X=1", "Z"], [5, 9]⟩ ⟨["X", "Y"], [3, 7]⟩ = turns.map Override.op ∧
    ∃ request, parse ["x.toml", "-U", "X", "-D", "X=1", "-U", "Y", "-D", "Z"]
        = .ok (.assemble request) ∧ request.options.macros = turns.map Override.op := by
  have hwritten : List.Forall₂ Override.Written turns
      [["-U", "X"], ["-D", "X=1"], ["-U", "Y"], ["-D", "Z"]] :=
    .cons (.separate (by decide)) (.cons (.separate (by decide))
      (.cons (.separate (by decide)) (.cons (.separate (by decide)) .nil)))
  obtain ⟨hsorted, hmacros, haccepted⟩ := overrides_keep_order
  obtain ⟨request, hparse, -, -⟩ :=
    haccepted "x.toml" [] turns [] _ (by decide) (by decide) .nil hwritten
  refine ⟨by decide +kernel, ?_, request, hparse, hmacros _ request hparse⟩
  exact hsorted ([3, 5, 7, 9].zip turns) (by decide)

end CommandLine

end ShaderAssembly
