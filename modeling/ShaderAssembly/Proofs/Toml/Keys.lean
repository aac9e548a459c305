import Mathlib.Data.List.Nodup
import Mathlib.Data.List.ReduceOption
import ShaderAssembly.Toml.Document

/-!
# Keys of TOML tables

Whatever the statements of a document say, each table in its value holds a key once: a key that is
there is never added again, only its value changes. So a table is a finite map, although it is kept
as a list in the order in which its keys were written.

The invariant is about values and thus about everything scanned below them, so it is carried through
the scanners first and through the statements afterwards.
-/

namespace ShaderAssembly.Toml

/-- Every table in the value holds each key once. -/
inductive Value.Keyed : Value → Prop where
  | string (text : String) : Keyed (.string text)
  | integer (value : Int) : Keyed (.integer value)
  | float (value : Decimal.Binary64) : Keyed (.float value)
  | boolean (value : Bool) : Keyed (.boolean value)
  | datetime : Keyed .datetime
  | array {form : ArrayForm} {items : List Value} (items_keyed : ∀ item ∈ items, Keyed item) :
      Keyed (.array form items)
  | table {form : TableForm} {entries : List (String × Value)} (keys : (entries.map (·.1)).Nodup)
      (values_keyed : ∀ entry ∈ entries, Keyed entry.2) : Keyed (.table form entries)

namespace Entries

/-- Each key stands once among the entries and in every table below. -/
structure Keyed (entries : Entries) : Prop where
  keys : (entries.map (·.1)).Nodup
  values : ∀ entry ∈ entries, entry.2.Keyed

theorem keyed_table_iff {form : TableForm} {entries : Entries} :
    (Value.table form entries).Keyed ↔ entries.Keyed := by
  constructor
  · rintro (_ | _ | _ | _ | _ | _ | ⟨keys, values⟩)
    exact ⟨keys, values⟩
  · exact fun h => .table h.keys h.values

theorem keyed_array_iff {form : ArrayForm} {items : List Value} :
    (Value.array form items).Keyed ↔ ∀ item ∈ items, item.Keyed := by
  constructor
  · rintro (_ | _ | _ | _ | _ | items)
    exact items
  · exact .array

theorem keyed_nil : Keyed [] := ⟨List.nodup_nil, fun _ h => absurd h List.not_mem_nil⟩

variable {entries entries' : Entries} {key : String} {value : Value}

theorem Keyed.of_lookup (h : entries.Keyed) (hkey : entries.lookup key = some value) :
    value.Keyed := by
  obtain ⟨before, after, rfl, -⟩ := List.lookup_eq_some_iff.1 hkey
  exact h.values _ (List.mem_append_right before List.mem_cons_self)

theorem Keyed.concat (h : entries.Keyed) (hnew : entries.lookup key = none) (hvalue : value.Keyed) :
    Keyed (entries ++ [(key, value)]) where
  keys := by
    rw [List.map_append, List.map_singleton, ← List.concat_eq_append]
    refine h.keys.concat fun hmem => ?_
    obtain ⟨entry, hentry, rfl⟩ := List.mem_map.1 hmem
    simpa using List.lookup_eq_none_iff.1 hnew entry hentry
  values entry hentry := by
    rcases List.mem_append.1 hentry with hentry | hentry
    · exact h.values entry hentry
    · obtain rfl := List.mem_singleton.1 hentry
      exact hvalue

theorem map_fst_replace (entries : Entries) (key : String) (value : Value) :
    (entries.replace key value).map (·.1) = entries.map (·.1) := by
  rw [replace, List.map_map]
  refine List.map_congr_left fun entry _ => ?_
  simp only [Function.comp_apply]
  split <;> simp_all

theorem Keyed.replace (h : entries.Keyed) (hvalue : value.Keyed) :
    (entries.replace key value).Keyed where
  keys := by
    rw [map_fst_replace]
    exact h.keys
  values entry hentry := by
    obtain ⟨old, hold, rfl⟩ := List.mem_map.1 hentry
    dsimp only
    split
    · exact hvalue
    · exact h.values old hold

/-! ### Changes below a path -/

/-- A change of tables keeps their keys distinct. -/
def KeepsKeyed (change : TableForm → Entries → Option Entries) : Prop :=
  ∀ form entries entries', Keyed entries → change form entries = some entries' →
    Keyed entries'

theorem Keyed.extend {byKey : Bool} {change : TableForm → Entries → Option Entries}
    (hchange : KeepsKeyed change) {path : List String} {form : TableForm} (h : entries.Keyed)
    (hextend : Entries.extend byKey change path form entries = some entries') : entries'.Keyed := by
  induction path generalizing form entries entries' with
  | nil => exact hchange form entries entries' h hextend
  | cons key path ih =>
      rw [Entries.extend] at hextend
      split at hextend
      case h_1 hlookup =>
        obtain ⟨sub, hsub, hresult⟩ := Option.bind_eq_some_iff.1 hextend
        obtain rfl := Option.some.inj hresult
        exact h.concat hlookup (keyed_table_iff.2 (ih keyed_nil hsub))
      case h_2 hlookup =>
        split at hextend
        · contradiction
        · obtain ⟨sub, hsub, hresult⟩ := Option.bind_eq_some_iff.1 hextend
          obtain rfl := Option.some.inj hresult
          exact h.replace (keyed_table_iff.2 (ih (keyed_table_iff.1 (h.of_lookup hlookup)) hsub))
      case h_3 items hlookup =>
        have hitems := keyed_array_iff.1 (h.of_lookup hlookup)
        split at hextend
        case h_1 form sub hlast =>
          obtain ⟨sub', hsub, hresult⟩ := Option.bind_eq_some_iff.1 hextend
          obtain rfl := Option.some.inj hresult
          have hsub' := ih (keyed_table_iff.1 (hitems _ (List.mem_of_getLast? hlast))) hsub
          refine h.replace (keyed_array_iff.2 fun item hitem => ?_)
          rcases List.mem_append.1 hitem with hitem | hitem
          · exact hitems item (List.dropLast_subset items hitem)
          · obtain rfl := List.mem_singleton.1 hitem
            exact keyed_table_iff.2 hsub'
        · contradiction
      · contradiction

theorem Keyed.add (h : entries.Keyed) (hvalue : value.Keyed)
    (hadd : entries.add key value = some entries') : entries'.Keyed := by
  rw [Entries.add] at hadd
  split at hadd
  case h_1 hlookup =>
    obtain rfl := Option.some.inj hadd
    exact h.concat hlookup hvalue
  · contradiction

theorem Keyed.insert (h : entries.Keyed) (hvalue : value.Keyed) {path : List String}
    {form : TableForm} (hinsert : entries.insert path key value form = some entries') :
    entries'.Keyed := by
  refine h.extend (fun form entries entries' h hchange => ?_) hinsert
  split at hchange
  · exact h.add hvalue hchange
  · contradiction

theorem keepsKeyed_openTable (key : String) :
    KeepsKeyed fun _ entries => entries.openTable key := by
  intro _ entries entries' h hopen
  dsimp only at hopen
  rw [openTable] at hopen
  split at hopen
  case h_1 hlookup =>
    obtain rfl := Option.some.inj hopen
    exact h.concat hlookup (keyed_table_iff.2 keyed_nil)
  case h_2 hlookup =>
    obtain rfl := Option.some.inj hopen
    exact h.replace (keyed_table_iff.2 (keyed_table_iff.1 (h.of_lookup hlookup)))
  · contradiction

theorem keepsKeyed_openItem (key : String) :
    KeepsKeyed fun _ entries => entries.openItem key := by
  intro _ entries entries' h hopen
  dsimp only at hopen
  have hitem : (Value.table .header []).Keyed := keyed_table_iff.2 keyed_nil
  rw [openItem] at hopen
  split at hopen
  case h_1 hlookup =>
    obtain rfl := Option.some.inj hopen
    exact h.concat hlookup (keyed_array_iff.2 (by simpa using hitem))
  case h_2 hlookup =>
    obtain rfl := Option.some.inj hopen
    refine h.replace (keyed_array_iff.2 (List.forall_mem_append.2
      ⟨keyed_array_iff.1 (h.of_lookup hlookup), by simpa using hitem⟩))
  · contradiction

end Entries

/-- What each step keeps is kept by all steps together. -/
theorem foldlM_preserves {σ ι : Type} {motive : σ → Prop} {step : σ → ι → Option σ}
    {items : List ι} (hstep : ∀ item ∈ items, ∀ state next, motive state →
      step state item = some next → motive next)
    {start result : σ} (hstart : motive start) (h : items.foldlM step start = some result) :
    motive result := by
  induction items generalizing start with
  | nil =>
      obtain rfl : start = result := by simpa using h
      exact hstart
  | cons item items ih =>
      rw [List.foldlM_cons] at h
      obtain ⟨next, hnext, h⟩ := Option.bind_eq_some_iff.1 h
      exact ih (fun item hitem => hstep item (List.mem_cons_of_mem _ hitem))
        (hstep item List.mem_cons_self start next hstart hnext) h

theorem Entries.keyed_of_ofPairs {pairs : List (KeyPath × Value)}
    (hpairs : ∀ pair ∈ pairs, pair.2.Keyed) {entries : Entries}
    (h : Entries.ofPairs pairs = some entries) : entries.Keyed :=
  foldlM_preserves (motive := Entries.Keyed)
    (fun pair hpair _ _ hentries hnext => hentries.insert (hpairs pair hpair) hnext) keyed_nil h

/-! ### What is scanned -/

namespace Scanner

/-- Whatever the scanner takes has the property. -/
def Gives {α : Type} (p : Scanner α) (property : α → Prop) : Prop :=
  ∀ cs a rest, p cs = some (a, rest) → property a

variable {α β : Type} {p q : Scanner α} {property : α → Prop}

theorem gives_true (p : Scanner α) : p.Gives fun _ => True := fun _ _ _ _ => trivial

theorem gives_pure {a : α} (h : property a) : Gives (pure a) property := by
  intro cs a' rest heq
  obtain ⟨rfl, -⟩ := Prod.mk.inj (Option.some.inj heq)
  exact h

theorem Gives.bind {next : α → Scanner β} {property' : β → Prop} (hp : p.Gives property)
    (hnext : ∀ a, property a → (next a).Gives property') : Gives (p >>= next) property' := by
  intro cs b rest heq
  obtain ⟨⟨a, left⟩, ha, hb⟩ := Option.bind_eq_some_iff.1 heq
  exact hnext a (hp cs a left ha) left b rest hb

/-- What comes later decides the property. -/
theorem Gives.after {next : α → Scanner β} {property' : β → Prop}
    (hnext : ∀ a, (next a).Gives property') : Gives (p >>= next) property' :=
  (gives_true p).bind fun a _ => hnext a

theorem Gives.map {f : α → β} {property' : β → Prop} (hp : p.Gives property)
    (hf : ∀ a, property a → property' (f a)) : Gives (f <$> p) property' :=
  hp.bind fun a ha => gives_pure (hf a ha)

theorem orElse_eq_some_iff {cs : List Char} {result : α × List Char} :
    (p <|> q) cs = some result ↔ p cs = some result ∨ p cs = none ∧ q cs = some result := by
  rw [← Option.or_eq_some_iff, ← Option.orElse_eq_or (f := fun _ => q cs)]
  rfl

theorem Gives.orElse (hp : p.Gives property) (hq : q.Gives property) :
    Gives (p <|> q) property := by
  intro cs a rest heq
  rcases orElse_eq_some_iff.1 heq with heq | ⟨-, heq⟩
  · exact hp cs a rest heq
  · exact hq cs a rest heq

theorem gives_ofOption {value : Option α} (h : ∀ a, value = some a → property a) :
    (ofOption value).Gives property := by
  cases value with
  | some a => exact gives_pure (h a rfl)
  | none => intro cs a rest heq; simp [ofOption, failure, StateT.failure] at heq

theorem forall_mem_repeated (hp : p.Gives property) (cs : List Char) :
    ∀ a ∈ (repeated p cs).1, property a := by
  induction cs using repeated.induct p with
  | case1 cs hnone => simp [repeated, hnone]
  | case2 cs a rest hsome hlt as left hrest ih =>
      rw [repeated, hsome]
      simp only [hlt, if_true, hrest]
      rw [hrest] at ih
      exact List.forall_mem_cons.2 ⟨hp cs a rest hsome, ih⟩
  | case3 cs a rest hsome hlt => simp [repeated, hsome, hlt]

theorem Gives.many (hp : p.Gives property) :
    (many p).Gives fun items => ∀ a ∈ items, property a := by
  intro cs items rest heq
  obtain rfl : (repeated p cs).1 = items := congrArg Prod.fst (Option.some.inj heq)
  exact forall_mem_repeated hp cs

theorem Gives.separated (hp : p.Gives property) (sep : Scanner Unit) :
    (separated p sep).Gives fun items => ∀ a ∈ items, property a :=
  .orElse
    (hp.bind fun _ hfirst => (Gives.many (.after fun _ => hp)).bind fun _ hothers =>
      gives_pure (List.forall_mem_cons.2 ⟨hfirst, hothers⟩))
    (gives_pure fun _ h => absurd h List.not_mem_nil)

theorem scalar_gives_keyed : scalar.Gives Value.Keyed :=
  .orElse ((gives_true _).map fun _ _ => .string _) <|
    .orElse (.after fun _ => gives_pure .datetime) <|
      .orElse ((gives_true _).map fun _ _ => .float _) <|
        .orElse ((gives_true _).map fun _ _ => .integer _) <|
          (gives_true _).map fun _ _ => .boolean _

variable {item : Scanner Value}

theorem array_gives_keyed (hitem : item.Gives Value.Keyed) : (array item).Gives Value.Keyed := by
  have hone : Gives (do space; let v ← item; space; return v) Value.Keyed :=
    .after fun _ => hitem.bind fun _ hvalue => .after fun _ => gives_pure hvalue
  refine .after fun _ => (hone.separated (char ',')).bind fun items hitems => ?_
  dsimp only
  split
  · exact .after fun _ => .after fun _ => .after fun _ => gives_pure (.array hitems)
  · exact .after fun _ => .after fun _ => .after fun _ => gives_pure (.array hitems)

theorem pair_gives_keyed (hitem : item.Gives Value.Keyed) :
    (pair item).Gives fun pair => pair.2.Keyed :=
  .after fun _ => .after fun _ => .after fun _ => hitem.bind fun _ hvalue => gives_pure hvalue

theorem inlineTable_gives_keyed (hitem : item.Gives Value.Keyed) :
    (inlineTable item).Gives Value.Keyed := by
  have hone : Gives (do let p ← pair item; blanks; return p) fun pair => pair.2.Keyed :=
    (pair_gives_keyed hitem).bind fun _ hpair => .after fun _ => gives_pure hpair
  refine .after fun _ => (hone.separated (char ',')).bind fun pairs hpairs => ?_
  have hentries : (ofOption (Entries.ofPairs pairs)).Gives Entries.Keyed :=
    gives_ofOption fun _ => Entries.keyed_of_ofPairs hpairs
  exact .after fun _ => .after fun _ => hentries.bind fun _ h =>
    gives_pure (Entries.keyed_table_iff.2 h)

theorem value_gives_keyed (depth : Nat) : (value depth).Gives Value.Keyed := by
  induction depth with
  | zero => exact scalar_gives_keyed
  | succ depth ih =>
      exact .orElse scalar_gives_keyed (.orElse (array_gives_keyed ih) (inlineTable_gives_keyed ih))

end Scanner

def Statement.Keyed : Statement → Prop
  | .table _ => True
  | .item _ => True
  | .value _ v => v.Keyed

namespace Scanner

theorem statement_gives_keyed : statement.Gives Statement.Keyed := by
  have hvalue := pair_gives_keyed (value_gives_keyed maxDepth)
  refine .orElse ?item (.orElse ?table ?value)
  case item =>
    exact .after fun _ => .after fun _ => .after fun _ => .after fun _ => gives_pure trivial
  case table =>
    exact .after fun _ => .after fun _ => .after fun _ => .after fun _ => gives_pure trivial
  case value => exact hvalue.bind fun _ hpair => .after fun _ => gives_pure hpair

theorem line_gives_keyed : line.Gives fun found => ∀ s, found = some s → s.Keyed := by
  refine .after fun _ => .orElse ?blank (.orElse ?comment ?statement)
  case blank => exact .after fun _ => gives_pure (by simp)
  case comment => exact .after fun _ => .after fun _ => gives_pure (by simp)
  case statement => exact statement_gives_keyed.map (by simp)

theorem document_gives_keyed : document.Gives fun statements => ∀ s ∈ statements, s.Keyed := by
  refine .after fun _ => line_gives_keyed.many.bind fun lines hlines => ?_
  refine .after fun _ => .after fun _ => gives_pure fun s hs => ?_
  exact hlines (some s) (List.reduceOption_mem_iff.1 hs) s rfl

end Scanner

/-! ### What the statements make -/

theorem Progress.keyed_of_step {progress next : Progress} {statement : Statement}
    (h : progress.entries.Keyed) (hstatement : statement.Keyed)
    (hstep : progress.step statement = some next) : next.entries.Keyed := by
  cases statement with
  | table target =>
      obtain ⟨entries, hentries, hresult⟩ := Option.bind_eq_some_iff.1 hstep
      obtain rfl := Option.some.inj hresult
      exact h.extend (Entries.keepsKeyed_openTable target.2) hentries
  | item target =>
      obtain ⟨entries, hentries, hresult⟩ := Option.bind_eq_some_iff.1 hstep
      obtain rfl := Option.some.inj hresult
      exact h.extend (Entries.keepsKeyed_openItem target.2) hentries
  | value target value =>
      obtain ⟨entries, hentries, hresult⟩ := Option.bind_eq_some_iff.1 hstep
      obtain rfl := Option.some.inj hresult
      exact h.extend (fun _ _ _ hsub hinsert => hsub.insert hstatement hinsert) hentries

theorem Progress.keyed_of_run {statements : List Statement} {progress : Progress}
    (hstatements : ∀ statement ∈ statements, Statement.Keyed statement)
    (h : Progress.run statements = some progress) : progress.entries.Keyed :=
  foldlM_preserves (motive := fun progress : Progress => progress.entries.Keyed)
    (fun statement hmem _ _ hprogress hstep =>
      keyed_of_step hprogress (hstatements statement hmem) hstep) Entries.keyed_nil h

/-- The entries at the top of a document. -/
def documentEntries? (text : String) : Option Entries := do
  let (statements, _) ← Scanner.document text.toList
  let progress ← Progress.run statements
  return progress.entries

theorem parse?_eq_map (text : String) :
    parse? text = (documentEntries? text).map (.table .header) := by
  rw [parse?, documentEntries?]
  cases Scanner.document text.toList with
  | none => rfl
  | some scanned =>
      simp only [Option.bind_eq_bind, Option.bind_some]
      cases Progress.run scanned.1 with
      | none => rfl
      | some progress => rfl

/-- **Keys are distinct.** A document has each key once, and so has each table in it. -/
theorem keyed_of_documentEntries? {text : String} {entries : Entries}
    (h : documentEntries? text = some entries) : entries.Keyed := by
  obtain ⟨⟨statements, rest⟩, hscanned, h⟩ := Option.bind_eq_some_iff.1 h
  obtain ⟨progress, hrun, h⟩ := Option.bind_eq_some_iff.1 h
  obtain rfl := Option.some.inj h
  exact Progress.keyed_of_run (Scanner.document_gives_keyed _ _ _ hscanned) hrun

end ShaderAssembly.Toml
