import Mathlib.Data.List.Induction
import ShaderAssembly.Watch.Debounce

/-!
# How far apart accepted calls are

A debouncer keeps the calls that it accepted, the latest one first, and compares a call with the
first of them that is for the same path. While time does not go back that one is also the latest in
time, so comparing with it is comparing with all of them: a call is accepted if no accepted call for
its path is less than a window away. Rejected calls are not kept, so they put nothing off.

A call reads and writes nothing but what is kept for its own path. Therefore the calls for one path
are answered as if there were no others.
-/

namespace ShaderAssembly

namespace Path

theorem same_eq_true_iff {a b : String} : same a b = true ↔ components a = components b :=
  beq_iff_eq

theorem same_eq_of_same {a b : String} (h : same a b = true) : same a = same b := by
  funext other
  rw [same, same, same_eq_true_iff.1 h]

theorem same_comm (a b : String) : same a b = same b a := BEq.comm

end Path

namespace Debouncer

variable {d d' : Debouncer} {path other : String} {now window : Nat} {calls : List (String × Nat)}

/-! ### One call -/

theorem ready_of_isReady (h : d.isReady path now = true) :
    d.ready path now = (true, ⟨d.window, (path, now) :: d.accepted⟩) := by
  rw [ready, if_pos h]

theorem ready_of_not_isReady (h : d.isReady path now = false) : d.ready path now = (false, d) := by
  rw [ready, if_neg (Bool.eq_false_iff.1 h)]

theorem fst_ready (d : Debouncer) (path : String) (now : Nat) :
    (d.ready path now).1 = d.isReady path now := by
  cases h : d.isReady path now with
  | true => rw [ready_of_isReady h]
  | false => rw [ready_of_not_isReady h]

theorem window_ready (d : Debouncer) (path : String) (now : Nat) :
    (d.ready path now).2.window = d.window := by
  cases h : d.isReady path now with
  | true => rw [ready_of_isReady h]
  | false => rw [ready_of_not_isReady h]

/-- However a path is spelled, the same call is the last one that was accepted for it. -/
theorem lastAccepted?_eq_of_same (d : Debouncer) (h : Path.same path other = true) :
    d.lastAccepted? path = d.lastAccepted? other := by
  have hfound : (fun call : String × Nat => Path.same call.1 path)
      = fun call => Path.same call.1 other := by
    funext call
    rw [Path.same_comm, Path.same_eq_of_same h, Path.same_comm]
  rw [lastAccepted?, lastAccepted?]
  exact congrArg (fun found => (d.accepted.find? found).map (·.2)) hfound

theorem lastAccepted?_cons (window : Nat) (call : String × Nat) (accepted : List (String × Nat))
    (path : String) :
    lastAccepted? ⟨window, call :: accepted⟩ path
      = if Path.same call.1 path then some call.2 else lastAccepted? ⟨window, accepted⟩ path := by
  simp only [lastAccepted?, List.find?_cons]
  split <;> simp [*]

theorem isReady_congr (hwindow : d'.window = d.window)
    (hlast : d'.lastAccepted? path = d.lastAccepted? path) (now : Nat) :
    d'.isReady path now = d.isReady path now := by
  rw [isReady, isReady, hlast, hwindow]

/-- A call that is accepted is the last one for its path, and changes nothing for the others. -/
theorem lastAccepted?_ready (d : Debouncer) (path : String) (now : Nat) (other : String) :
    (d.ready path now).2.lastAccepted? other
      = if d.isReady path now && Path.same path other then some now
        else d.lastAccepted? other := by
  cases h : d.isReady path now with
  | true => rw [ready_of_isReady h, lastAccepted?_cons, Bool.true_and]
  | false => rw [ready_of_not_isReady h, Bool.false_and, if_neg Bool.false_ne_true]

/-! ### Calls in a row -/

/-- The debouncer after some calls. -/
def after (d : Debouncer) (calls : List (String × Nat)) : Debouncer :=
  calls.foldl (fun d call => (d.ready call.1 call.2).2) d

/-- The calls that are accepted, in order. -/
def acceptedOf (d : Debouncer) (calls : List (String × Nat)) : List (String × Nat) :=
  ((calls.zip (d.answers calls)).filter (·.2)).map (·.1)

theorem answers_cons (d : Debouncer) (call : String × Nat) (calls : List (String × Nat)) :
    d.answers (call :: calls)
      = d.isReady call.1 call.2 :: (d.ready call.1 call.2).2.answers calls := by
  rw [← fst_ready, answers]

theorem length_answers (d : Debouncer) (calls : List (String × Nat)) :
    (d.answers calls).length = calls.length := by
  induction calls generalizing d with
  | nil => rfl
  | cons call calls ih => rw [answers_cons, List.length_cons, List.length_cons, ih]

theorem answers_append (d : Debouncer) (calls more : List (String × Nat)) :
    d.answers (calls ++ more) = d.answers calls ++ (d.after calls).answers more := by
  induction calls generalizing d with
  | nil => rfl
  | cons call calls ih =>
      rw [List.cons_append, answers_cons, answers_cons, ih, List.cons_append]
      rfl

theorem window_after (d : Debouncer) (calls : List (String × Nat)) :
    (d.after calls).window = d.window := by
  induction calls generalizing d with
  | nil => rfl
  | cons call calls ih => exact (ih _).trans (d.window_ready call.1 call.2)

theorem acceptedOf_cons (d : Debouncer) (call : String × Nat) (calls : List (String × Nat)) :
    d.acceptedOf (call :: calls)
      = (if d.isReady call.1 call.2 then [call] else [])
        ++ (d.ready call.1 call.2).2.acceptedOf calls := by
  rw [acceptedOf, answers_cons, List.zip_cons_cons]
  cases h : d.isReady call.1 call.2 with
  | true => rw [List.filter_cons_of_pos rfl, List.map_cons, if_pos rfl]; rfl
  | false => rw [List.filter_cons_of_neg Bool.false_ne_true, if_neg Bool.false_ne_true]; rfl

/-- What is kept are the accepted calls, the latest one first. -/
theorem accepted_after (d : Debouncer) (calls : List (String × Nat)) :
    (d.after calls).accepted = (d.acceptedOf calls).reverse ++ d.accepted := by
  induction calls generalizing d with
  | nil => rfl
  | cons call calls ih =>
      have hafter : d.after (call :: calls) = (d.ready call.1 call.2).2.after calls := rfl
      rw [hafter, ih, acceptedOf_cons, List.reverse_append, List.append_assoc]
      cases h : d.isReady call.1 call.2 with
      | true => rw [ready_of_isReady h, if_pos rfl, List.reverse_singleton, List.singleton_append]
      | false => rw [ready_of_not_isReady h, if_neg Bool.false_ne_true]; rfl

theorem acceptedOf_sublist (d : Debouncer) (calls : List (String × Nat)) :
    (d.acceptedOf calls).Sublist calls := by
  have hzip : (calls.zip (d.answers calls)).map (·.1) = calls :=
    List.map_fst_zip (Nat.le_of_eq (d.length_answers calls).symm)
  conv_rhs => rw [← hzip]
  exact List.filter_sublist.map _

theorem mem_acceptedOf_iff {call : String × Nat} :
    call ∈ d.acceptedOf calls
      ↔ ∃ place : Nat, calls[place]? = some call ∧ (d.answers calls)[place]? = some true := by
  rw [acceptedOf, List.mem_map]
  constructor
  · rintro ⟨⟨found, answer⟩, hmem, rfl⟩
    obtain ⟨hmem, rfl : answer = true⟩ := List.mem_filter.1 hmem
    obtain ⟨place, hplace⟩ := List.mem_iff_getElem?.1 hmem
    obtain ⟨hcall, hanswer⟩ := List.getElem?_zip_eq_some.1 hplace
    exact ⟨place, hcall, hanswer⟩
  · rintro ⟨place, hplace⟩
    have hzip := List.mem_of_getElem? (List.getElem?_zip_eq_some (z := (call, true)).2 hplace)
    exact ⟨(call, true), List.mem_filter.2 ⟨hzip, rfl⟩, rfl⟩

/-! ### Accepted calls -/

/-- Whether the call at a place is accepted. -/
def Accepts (window : Nat) (calls : List (String × Nat)) (place : Nat) : Prop :=
  ((fresh window).answers calls)[place]? = some true

theorem answers_take (d : Debouncer) (calls : List (String × Nat)) (count : Nat) :
    d.answers (calls.take count) = (d.answers calls).take count := by
  by_cases hcount : count ≤ calls.length
  · conv_rhs => rw [← List.take_append_drop count calls, answers_append]
    rw [List.take_left' (by rw [length_answers, List.length_take, Nat.min_eq_left hcount])]
  · have hlong := Nat.le_of_lt (Nat.lt_of_not_le hcount)
    rw [List.take_of_length_le hlong, List.take_of_length_le]
    rwa [length_answers]

theorem accepts_iff_isReady {place : Nat} (h : calls[place]? = some (path, now)) :
    Accepts window calls place
      ↔ ((fresh window).after (calls.take place)).isReady path now = true := by
  obtain ⟨hlt, hcall⟩ := List.getElem?_eq_some_iff.1 h
  have hsplit : calls = calls.take place ++ (path, now) :: calls.drop (place + 1) := by
    rw [← hcall, List.getElem_cons_drop, List.take_append_drop]
  have hlength : ((fresh window).answers (calls.take place)).length = place := by
    rw [length_answers, List.length_take, Nat.min_eq_left (Nat.le_of_lt hlt)]
  rw [Accepts, hsplit, answers_append, answers_cons, ← hsplit, List.getElem?_append_right
    (Nat.le_of_eq hlength), hlength, Nat.sub_self, List.getElem?_cons_zero, Option.some_inj]

theorem mem_accepted_after_take {call : String × Nat} {place : Nat} :
    call ∈ ((fresh window).after (calls.take place)).accepted
      ↔ ∃ earlier < place, calls[earlier]? = some call ∧ Accepts window calls earlier := by
  rw [accepted_after, fresh, List.append_nil, List.mem_reverse, mem_acceptedOf_iff, answers_take]
  constructor
  · rintro ⟨earlier, hcall, haccepted⟩
    rw [List.getElem?_take, Option.ite_none_right_eq_some] at hcall haccepted
    obtain ⟨hlt, hcall⟩ := hcall
    exact ⟨earlier, hlt, hcall, haccepted.2⟩
  · rintro ⟨earlier, hlt, hcall, haccepted⟩
    refine ⟨earlier, ?_, ?_⟩
    · rw [List.getElem?_take_of_lt hlt, hcall]
    · rw [List.getElem?_take_of_lt hlt]
      exact haccepted

/-- The calls that are kept are in the order of their times, the latest one first. -/
def Ordered (d : Debouncer) : Prop := d.accepted.Pairwise fun newer older => older.2 ≤ newer.2

theorem ordered_after (h : calls.Pairwise fun earlier later => earlier.2 ≤ later.2) :
    ((fresh window).after calls).Ordered := by
  rw [Ordered, accepted_after, fresh, List.append_nil, List.pairwise_reverse]
  exact h.sublist (acceptedOf_sublist _ calls)

/-- Where the calls that are kept are in order, a call is compared with all of them. -/
theorem Ordered.isReady_iff (h : d.Ordered) :
    d.isReady path now = true
      ↔ ∀ call ∈ d.accepted, Path.same call.1 path = true → d.window ≤ now - call.2 := by
  rw [isReady, lastAccepted?]
  cases hfound : d.accepted.find? fun call => Path.same call.1 path with
  | none =>
      simp only [Option.map_none, true_iff]
      intro call hcall hsame
      exact absurd hsame (List.find?_eq_none.1 hfound call hcall)
  | some last =>
      obtain ⟨hsame, newer, older, hsplit, hnewer⟩ := List.find?_eq_some_iff_append.1 hfound
      simp only [Option.map_some, Bool.not_eq_true', decide_eq_false_iff_not, Nat.not_lt]
      constructor
      · intro hwindow call hcall hcallSame
        have hle : call.2 ≤ last.2 := by
          rw [Ordered, hsplit, List.pairwise_append, List.pairwise_cons] at h
          rw [hsplit, List.mem_append, List.mem_cons] at hcall
          rcases hcall with hcall | rfl | hcall
          · have hother := hnewer call hcall
            simp [hcallSame] at hother
          · exact Nat.le_refl _
          · exact h.2.1.1 call hcall
        omega
      · intro hall
        exact hall last (List.mem_of_find?_eq_some hfound) hsame

/-- The call at a place is for the same path, was made at this time, and is accepted. -/
def AcceptedAt (window : Nat) (calls : List (String × Nat)) (path : String) (place time : Nat) :
    Prop :=
  ∃ other, calls[place]? = some (other, time) ∧ Path.same other path = true ∧
    Accepts window calls place

/-- While time does not go back, a call is accepted if it is a window away from all calls for its
path that were accepted before. -/
theorem accepts_iff_away (hmono : calls.Pairwise fun earlier later => earlier.2 ≤ later.2)
    {place : Nat} (hcall : calls[place]? = some (path, now)) :
    Accepts window calls place ↔
      ∀ earlier < place, ∀ time, AcceptedAt window calls path earlier time →
        window ≤ now - time := by
  have hordered : ((fresh window).after (calls.take place)).Ordered :=
    ordered_after (hmono.sublist (List.take_sublist place calls))
  rw [accepts_iff_isReady hcall, hordered.isReady_iff, window_after]
  constructor
  · rintro haway earlier hearlier time ⟨other, hother, hsame, haccepted⟩
    exact haway (other, time)
      (mem_accepted_after_take.2 ⟨earlier, hearlier, hother, haccepted⟩) hsame
  · rintro haway ⟨other, time⟩ hmem hsame
    obtain ⟨earlier, hearlier, hother, haccepted⟩ := mem_accepted_after_take.1 hmem
    exact haway earlier hearlier time ⟨other, hother, hsame, haccepted⟩

theorem time_le_of_lt (hmono : calls.Pairwise fun earlier later => earlier.2 ≤ later.2)
    {earlier later : Nat} (hlt : earlier < later) {call call' : String × Nat}
    (hcall : calls[earlier]? = some call) (hcall' : calls[later]? = some call') :
    call.2 ≤ call'.2 := by
  obtain ⟨hearlier, rfl⟩ := List.getElem?_eq_some_iff.1 hcall
  obtain ⟨hlater, rfl⟩ := List.getElem?_eq_some_iff.1 hcall'
  exact List.pairwise_iff_getElem.1 hmono earlier later hearlier hlater hlt

/-! ### The calls for one path -/

def callsOn (path : String) (calls : List (String × Nat)) : List (String × Nat) :=
  calls.filter (Path.same path ·.1)

/-- What the calls for a path are answered, among all others. -/
def answersOn (d : Debouncer) (path : String) (calls : List (String × Nat)) : List Bool :=
  ((calls.zip (d.answers calls)).filter (Path.same path ·.1.1)).map (·.2)

/-- The calls for a path are answered as if there were no others. -/
theorem answersOn_eq (hwindow : d'.window = d.window)
    (hlast : d'.lastAccepted? path = d.lastAccepted? path) (calls : List (String × Nat)) :
    d.answersOn path calls = d'.answers (callsOn path calls) := by
  induction calls generalizing d d' with
  | nil => rfl
  | cons call calls ih =>
      rw [answersOn, callsOn, answers_cons, List.zip_cons_cons]
      cases hsame : Path.same path call.1 with
      | true =>
          have hready : d'.isReady call.1 call.2 = d.isReady call.1 call.2 := by
            refine isReady_congr hwindow ?_ call.2
            rw [← lastAccepted?_eq_of_same d hsame, ← lastAccepted?_eq_of_same d' hsame, hlast]
          have hnext : (d'.ready call.1 call.2).2.lastAccepted? path
              = (d.ready call.1 call.2).2.lastAccepted? path := by
            rw [lastAccepted?_ready, lastAccepted?_ready, hready, hlast]
          rw [List.filter_cons_of_pos (by exact hsame), List.filter_cons_of_pos (by exact hsame),
            List.map_cons, answers_cons, hready]
          refine congrArg _ (ih ?_ hnext)
          rw [window_ready, window_ready, hwindow]
      | false =>
          have hother : (d.ready call.1 call.2).2.lastAccepted? path = d.lastAccepted? path := by
            rw [lastAccepted?_ready, Path.same_comm, hsame, Bool.and_false,
              if_neg Bool.false_ne_true]
          rw [List.filter_cons_of_neg (by simp [hsame]), List.filter_cons_of_neg (by simp [hsame])]
          exact ih (hwindow.trans (d.window_ready call.1 call.2).symm) (hlast.trans hother.symm)

/-- **Accepted calls are a window apart.** While time does not go back, a call is accepted if no
accepted call for its path is less than a window away. So two accepted calls for a path are at least
a window apart, the first call for a path is accepted, and so is any that comes a window after the
last one that was, however many were rejected since; without a window all are accepted. And at
whatever times calls are made, those for one path are answered the same among any others. -/
theorem accepts_when_away (window : Nat) (calls : List (String × Nat)) :
    ((fresh window).answers calls).length = calls.length ∧
    ((calls.Pairwise fun earlier later => earlier.2 ≤ later.2) →
      ∀ place path now, calls[place]? = some (path, now) →
        (Accepts window calls place ↔
          ¬ ∃ earlier < place, ∃ time, AcceptedAt window calls path earlier time ∧
            now - time < window) ∧
        (Accepts window calls place → ∀ earlier < place, ∀ time,
          AcceptedAt window calls path earlier time → time + window ≤ now) ∧
        ((∀ call ∈ calls.take place, Path.same call.1 path = false) →
          Accepts window calls place) ∧
        (∀ last < place, ∀ time, AcceptedAt window calls path last time →
          (∀ between, last < between → between < place →
            ∀ time, ¬ AcceptedAt window calls path between time) →
          time + window ≤ now → Accepts window calls place) ∧
        (window = 0 → Accepts window calls place)) ∧
    ∀ path calls', callsOn path calls' = callsOn path calls →
      (fresh window).answersOn path calls' = (fresh window).answersOn path calls := by
  refine ⟨length_answers _ _, fun hmono place path now hcall => ⟨?_, ?_, ?_, ?_, ?_⟩,
    fun path calls' hcalls => ?_⟩
  · rw [accepts_iff_away hmono hcall]
    simp only [not_exists, not_and, Nat.not_lt]
  · rintro haccepted earlier hearlier time ⟨other, hother, hsame, hearlierAccepted⟩
    have haway := (accepts_iff_away hmono hcall).1 haccepted earlier hearlier time
      ⟨other, hother, hsame, hearlierAccepted⟩
    have hle : time ≤ now := time_le_of_lt hmono hearlier hother hcall
    omega
  · intro hfirst
    rw [accepts_iff_away hmono hcall]
    rintro earlier hearlier time ⟨other, hother, hsame, -⟩
    have hmem : (other, time) ∈ calls.take place :=
      List.mem_of_getElem? (by rw [List.getElem?_take_of_lt hearlier, hother])
    rw [hfirst _ hmem] at hsame
    contradiction
  · rintro last hlast time ⟨other, hother, hsame, haccepted⟩ hrejected hlate
    rw [accepts_iff_away hmono hcall]
    intro earlier hearlier before hbefore
    have hle : before ≤ time := by
      obtain ⟨other', hother', -⟩ := id hbefore
      rcases Nat.lt_trichotomy earlier last with hlt | rfl | hgt
      · exact time_le_of_lt hmono hlt hother' hother
      · exact Nat.le_of_eq (congrArg Prod.snd (Option.some.inj (hother'.symm.trans hother)))
      · exact absurd hbefore (hrejected earlier hgt hearlier before)
    omega
  · rintro rfl
    rw [accepts_iff_away hmono hcall]
    exact fun _ _ _ _ => Nat.zero_le _
  · rw [answersOn_eq rfl rfl, answersOn_eq rfl rfl, hcalls]

/-- One file is saved over and over, under three spellings of its path. -/
def saves : List (String × Nat) := [("in/a", 10), ("in//a", 50), ("in/a", 110), ("in/./a", 209)]

/-- Another file is saved in between. -/
def savesOfTwo : List (String × Nat) :=
  [("out", 0), ("in/a", 10), ("in//a", 50), ("out", 60), ("in/a", 110), ("out", 130),
   ("in/./a", 209)]

theorem saves_accepted_when_away :
    saves.Pairwise (fun earlier later => earlier.2 ≤ later.2) ∧
    Accepts 100 saves 0 ∧ Accepts 100 saves 2 ∧ ¬ Accepts 100 saves 3 ∧
    callsOn "in/a" savesOfTwo = callsOn "in/a" saves ∧
    (fresh 100).answersOn "in/a" savesOfTwo = (fresh 100).answersOn "in/a" saves := by
  have hmono : saves.Pairwise fun earlier later => earlier.2 ≤ later.2 := by decide
  have hcalls : callsOn "in/a" savesOfTwo = callsOn "in/a" saves := by decide +kernel
  obtain ⟨-, hsaves, hothers⟩ := accepts_when_away 100 saves
  have hfirst : Accepts 100 saves 0 := (hsaves hmono 0 "in/a" 10 rfl).2.2.1 (by decide)
  have hsecond : ¬ Accepts 100 saves 1 := by
    rw [(hsaves hmono 1 "in//a" 50 rfl).1, not_not]
    exact ⟨0, by decide, 10, ⟨"in/a", rfl, by decide +kernel, hfirst⟩, by decide⟩
  have hthird : Accepts 100 saves 2 := by
    refine (hsaves hmono 2 "in/a" 110 rfl).2.2.2.1 0 (by decide) 10
      ⟨"in/a", rfl, by decide +kernel, hfirst⟩ ?_ (by decide)
    rintro between hlow hhigh time ⟨other, -, -, haccepted⟩
    obtain rfl : between = 1 := by omega
    exact hsecond haccepted
  have hfourth : ¬ Accepts 100 saves 3 := by
    rw [(hsaves hmono 3 "in/./a" 209 rfl).1, not_not]
    exact ⟨2, by decide, 110, ⟨"in/a", rfl, by decide +kernel, hthird⟩, by decide⟩
  exact ⟨hmono, hfirst, hthird, hfourth, hcalls, hothers "in/a" savesOfTwo hcalls⟩

end Debouncer

end ShaderAssembly
