import Mathlib.Data.List.ReduceOption
import ShaderAssembly.Proofs.Watch.Spacing
import ShaderAssembly.Watch.Notice

/-!
# What is reported

A notice either leads to one call of the debouncer or to none. If it leads to none it leaves the
debouncer alone, so the calls are those of the notices of changes, whatever else arrives; and what
the debouncer keeps are the changes that were reported. Hence a change is reported unless another
one of the same path was reported less than a window before, and failures, which lead to no call,
are reported whenever they arrive. What is a directory may be different for each notice.
-/

namespace ShaderAssembly

/-- A notice with the time at which it arrives, and with what is a directory then. -/
structure Arrival where
  now : Nat
  isDirectory : String → Bool
  notice : Notice

namespace Arrival

variable {arrival : Arrival} {path : String}

/-- Something was created or modified, and this is the first path of the notice that is no
directory. -/
def Changes (arrival : Arrival) (path : String) : Prop :=
  ∃ happening before after, arrival.notice = .event happening (before ++ path :: after) ∧
    (happening = .create ∨ happening = .modify) ∧
    (∀ dir ∈ before, arrival.isDirectory dir = true) ∧ arrival.isDirectory path = false

/-- The call of the debouncer that an arrival leads to. -/
def call? (arrival : Arrival) : Option (String × Nat) :=
  (arrival.notice.changedPath? arrival.isDirectory).map (·, arrival.now)

theorem isChange_iff {happening : Happening} :
    happening.isChange = true ↔ happening = .create ∨ happening = .modify := by
  cases happening <;> simp [Happening.isChange]

theorem changedPath?_eq_some_iff :
    arrival.notice.changedPath? arrival.isDirectory = some path ↔ arrival.Changes path := by
  rw [Changes]
  cases arrival.notice with
  | failure message => simp [Notice.changedPath?]
  | event happening paths =>
      rw [Notice.changedPath?, Option.ite_none_right_eq_some, List.find?_eq_some_iff_append,
        isChange_iff]
      simp only [Bool.not_eq_true', Bool.not_eq_false', Notice.event.injEq]
      constructor
      · rintro ⟨hhappening, hpath, before, after, rfl, hbefore⟩
        exact ⟨happening, before, after, ⟨rfl, rfl⟩, hhappening, hbefore, hpath⟩
      · rintro ⟨_, before, after, ⟨rfl, rfl⟩, hhappening, hbefore, hpath⟩
        exact ⟨hhappening, hpath, before, after, rfl, hbefore⟩

/-- The arrival is a notice of a change. -/
def IsChange (arrival : Arrival) : Prop := ∃ path, arrival.Changes path

theorem isSome_call?_iff : arrival.call?.isSome = true ↔ arrival.IsChange := by
  rw [call?, Option.isSome_map, Option.isSome_iff_exists]
  exact exists_congr fun _ => changedPath?_eq_some_iff

instance (arrival : Arrival) : Decidable arrival.IsChange :=
  decidable_of_iff _ isSome_call?_iff

theorem call?_eq_none_iff : arrival.call? = none ↔ ¬ arrival.IsChange := by
  rw [← isSome_call?_iff, Option.not_isSome_iff_eq_none]

/-- The calls that some arrivals lead to, in order. -/
def calls (arrivals : List Arrival) : List (String × Nat) := arrivals.filterMap call?

theorem calls_filter (arrivals : List Arrival) :
    calls (arrivals.filter (·.IsChange)) = calls arrivals := by
  rw [calls, List.filterMap_filter, calls]
  refine List.filterMap_congr fun arrival _ => ?_
  by_cases hchange : arrival.IsChange
  · rw [if_pos (by simpa using hchange)]
  · rw [if_neg (by simpa using hchange), call?_eq_none_iff.2 hchange]

theorem calls_cons_of_changes (h : arrival.Changes path) (arrivals : List Arrival) :
    calls (arrival :: arrivals) = (path, arrival.now) :: calls arrivals := by
  rw [calls, List.filterMap_cons_some]
  · rfl
  · rw [call?, changedPath?_eq_some_iff.2 h, Option.map_some]

theorem calls_cons_of_not_isChange (h : ¬ arrival.IsChange) (arrivals : List Arrival) :
    calls (arrival :: arrivals) = calls arrivals := by
  rw [calls, List.filterMap_cons_none (call?_eq_none_iff.2 h)]
  rfl

end Arrival

namespace Report

/-- The path that a report says has changed. -/
def changedPath? : Report → Option String
  | changed path => some path
  | failed _ => none

end Report

namespace Debouncer

variable {d : Debouncer} {arrival : Arrival} {arrivals : List Arrival} {path : String}
  {window : Nat}

/-! ### One arrival -/

/-- The report that an arrival is answered with, if any, and the debouncer after it. -/
def answer (d : Debouncer) (arrival : Arrival) : Option Report × Debouncer :=
  d.receive arrival.isDirectory arrival.now arrival.notice

theorem answer_of_failure {message : String} (h : arrival.notice = .failure message) :
    d.answer arrival = (some (.failed message), d) := by
  rw [answer, h]
  rfl

theorem answer_of_changes (h : arrival.Changes path) :
    d.answer arrival = (if d.isReady path arrival.now then some (.changed path) else none,
      (d.ready path arrival.now).2) := by
  obtain ⟨happening, before, after, hnotice, -⟩ := id h
  have hpath := Arrival.changedPath?_eq_some_iff.2 h
  rw [hnotice] at hpath
  rw [answer, hnotice]
  simp only [receive, hpath]
  cases hready : d.isReady path arrival.now with
  | true => rw [ready_of_isReady hready, if_pos rfl]
  | false => rw [ready_of_not_isReady hready, if_neg Bool.false_ne_true]

theorem answer_of_event {happening : Happening} {paths : List String}
    (hnotice : arrival.notice = .event happening paths) (h : ¬ arrival.IsChange) :
    d.answer arrival = (none, d) := by
  have hnone : arrival.notice.changedPath? arrival.isDirectory = none :=
    Option.eq_none_iff_forall_ne_some.2 fun path hpath =>
      h ⟨path, Arrival.changedPath?_eq_some_iff.1 hpath⟩
  rw [hnotice] at hnone
  rw [answer, hnotice]
  simp only [receive, hnone]

/-- What is no notice of a change leaves the debouncer alone. -/
theorem answer_snd_of_not_isChange (h : ¬ arrival.IsChange) : (d.answer arrival).2 = d := by
  cases hnotice : arrival.notice with
  | failure message => rw [answer_of_failure hnotice]
  | event happening paths => rw [answer_of_event hnotice h]

theorem answer_eq_failed_iff {message : String} :
    (d.answer arrival).1 = some (.failed message) ↔ arrival.notice = .failure message := by
  refine ⟨fun h => ?_, fun h => by rw [answer_of_failure h]⟩
  cases hnotice : arrival.notice with
  | failure other =>
      rw [answer_of_failure hnotice] at h
      simpa using h
  | event happening paths =>
      by_cases hchange : arrival.IsChange
      · obtain ⟨path, hpath⟩ := hchange
        simp [answer_of_changes hpath] at h
      · simp [answer_of_event hnotice hchange] at h

theorem answer_eq_changed_iff :
    (d.answer arrival).1 = some (.changed path)
      ↔ arrival.Changes path ∧ d.isReady path arrival.now = true := by
  by_cases hchange : arrival.IsChange
  · obtain ⟨first, hfirst⟩ := hchange
    have hsame : arrival.Changes path ↔ first = path := by
      rw [← Arrival.changedPath?_eq_some_iff, Arrival.changedPath?_eq_some_iff.2 hfirst,
        Option.some_inj]
    rw [answer_of_changes hfirst, hsame]
    constructor
    · intro h
      obtain ⟨hready, h⟩ := Option.ite_none_right_eq_some.1 h
      obtain rfl : first = path := Report.changed.inj (Option.some.inj h)
      exact ⟨rfl, hready⟩
    · rintro ⟨rfl, hready⟩
      rw [if_pos hready]
  · have hpath : ¬ arrival.Changes path := fun h => hchange ⟨path, h⟩
    simp only [hpath, false_and, iff_false]
    cases hnotice : arrival.notice with
    | failure message => simp [answer_of_failure hnotice]
    | event happening paths => simp [answer_of_event hnotice hchange]

/-! ### Arrivals in a row -/

/-- What each arrival is answered with, if anything. -/
def replies (d : Debouncer) : List Arrival → List (Option Report)
  | [] => []
  | arrival :: arrivals => (d.answer arrival).1 :: (d.answer arrival).2.replies arrivals

/-- The debouncer after some arrivals. -/
def afterAll (d : Debouncer) (arrivals : List Arrival) : Debouncer :=
  arrivals.foldl (fun d arrival => (d.answer arrival).2) d

/-- The changes that are reported, with their times. -/
def reportedChanges (d : Debouncer) (arrivals : List Arrival) : List (String × Nat) :=
  (arrivals.zip (d.replies arrivals)).filterMap fun answered =>
    (answered.2.bind Report.changedPath?).map (·, answered.1.now)

theorem replies_cons (d : Debouncer) (arrival : Arrival) (arrivals : List Arrival) :
    d.replies (arrival :: arrivals)
      = (d.answer arrival).1 :: (d.answer arrival).2.replies arrivals := by
  rfl

theorem length_replies (d : Debouncer) (arrivals : List Arrival) :
    (d.replies arrivals).length = arrivals.length := by
  induction arrivals generalizing d with
  | nil => rfl
  | cons arrival arrivals ih => rw [replies_cons, List.length_cons, List.length_cons, ih]

theorem getElem?_replies {place : Nat} (h : arrivals[place]? = some arrival) :
    (d.replies arrivals)[place]?
      = some ((d.afterAll (arrivals.take place)).answer arrival).1 := by
  induction arrivals generalizing d place with
  | nil => contradiction
  | cons first arrivals ih =>
      cases place with
      | zero =>
          obtain rfl : first = arrival := Option.some.inj h
          rfl
      | succ place => exact ih (d := (d.answer first).2) h

/-- A notice of a change calls the debouncer, and nothing else does. -/
theorem afterAll_eq (d : Debouncer) (arrivals : List Arrival) :
    d.afterAll arrivals = d.after (Arrival.calls arrivals) := by
  induction arrivals generalizing d with
  | nil => rfl
  | cons arrival arrivals ih =>
      have hafter : d.afterAll (arrival :: arrivals) = (d.answer arrival).2.afterAll arrivals := rfl
      rw [hafter, ih]
      by_cases hchange : arrival.IsChange
      · obtain ⟨path, hpath⟩ := hchange
        rw [answer_of_changes hpath, Arrival.calls_cons_of_changes hpath]
        rfl
      · rw [answer_snd_of_not_isChange hchange, Arrival.calls_cons_of_not_isChange hchange]

/-- The changes that are reported are the calls that are accepted. -/
theorem reportedChanges_eq (d : Debouncer) (arrivals : List Arrival) :
    d.reportedChanges arrivals = d.acceptedOf (Arrival.calls arrivals) := by
  induction arrivals generalizing d with
  | nil => rfl
  | cons arrival arrivals ih =>
      rw [reportedChanges, replies_cons, List.zip_cons_cons]
      by_cases hchange : arrival.IsChange
      · obtain ⟨path, hpath⟩ := hchange
        rw [Arrival.calls_cons_of_changes hpath, acceptedOf_cons, ← ih, answer_of_changes hpath]
        cases d.isReady path arrival.now <;> rfl
      · have hreply : (d.answer arrival).1.bind Report.changedPath? = none := by
          cases hanswer : (d.answer arrival).1 with
          | none => rfl
          | some report =>
              cases report with
              | failed message => rfl
              | changed path => exact absurd ⟨path, (answer_eq_changed_iff.1 hanswer).1⟩ hchange
        rw [Arrival.calls_cons_of_not_isChange hchange, answer_snd_of_not_isChange hchange, ← ih,
          List.filterMap_cons_none (by rw [hreply, Option.map_none])]
        rfl

theorem mem_reportedChanges_iff {call : String × Nat} :
    call ∈ d.reportedChanges arrivals ↔
      ∃ (place : Nat) (arrival : Arrival), arrivals[place]? = some arrival ∧
        (d.replies arrivals)[place]? = some (some (.changed call.1)) ∧ arrival.now = call.2 := by
  rw [reportedChanges, List.mem_filterMap]
  constructor
  · rintro ⟨⟨arrival, reply⟩, hmem, hcall⟩
    obtain ⟨place, hplace⟩ := List.mem_iff_getElem?.1 hmem
    obtain ⟨harrival, hreply⟩ := List.getElem?_zip_eq_some.1 hplace
    obtain ⟨path, hpath, rfl⟩ := Option.map_eq_some_iff.1 hcall
    obtain ⟨report, rfl, hreport⟩ := Option.bind_eq_some_iff.1 hpath
    refine ⟨place, arrival, harrival, hreply.trans ?_, rfl⟩
    cases report with
    | changed other => rw [Option.some.inj hreport]
    | failed message => contradiction
  · rintro ⟨place, arrival, harrival, hreply, hnow⟩
    refine ⟨(arrival, some (.changed call.1)), ?_, ?_⟩
    · exact List.mem_of_getElem? (List.getElem?_zip_eq_some.2 ⟨harrival, hreply⟩)
    · exact congrArg (fun now => some (call.1, now)) hnow

theorem replies_take (d : Debouncer) (arrivals : List Arrival) (count : Nat) :
    d.replies (arrivals.take count) = (d.replies arrivals).take count := by
  induction arrivals generalizing d count with
  | nil => rw [List.take_nil, replies, List.take_nil]
  | cons arrival arrivals ih =>
      cases count with
      | zero => rfl
      | succ count => rw [List.take_succ_cons, replies_cons, replies_cons, List.take_succ_cons, ih]

/-- The arrival at a place is answered with this report. -/
def Answers (window : Nat) (arrivals : List Arrival) (place : Nat) (report : Report) : Prop :=
  ((fresh window).replies arrivals)[place]? = some (some report)

/-- What is kept when an arrival comes are the changes that were reported before. -/
theorem mem_accepted_afterAll_take {call : String × Nat} {place : Nat} :
    call ∈ ((fresh window).afterAll (arrivals.take place)).accepted ↔
      ∃ earlier < place, ∃ before, arrivals[earlier]? = some before ∧
        Answers window arrivals earlier (.changed call.1) ∧ before.now = call.2 := by
  rw [afterAll_eq, accepted_after, fresh, List.append_nil, List.mem_reverse, ← fresh,
    ← reportedChanges_eq, mem_reportedChanges_iff]
  simp only [replies_take, List.getElem?_take, Option.ite_none_right_eq_some, Answers]
  constructor
  · rintro ⟨earlier, before, ⟨hlt, hbefore⟩, ⟨-, hreply⟩, hnow⟩
    exact ⟨earlier, hlt, before, hbefore, hreply, hnow⟩
  · rintro ⟨earlier, hlt, before, hbefore, hreply, hnow⟩
    exact ⟨earlier, before, ⟨hlt, hbefore⟩, ⟨hlt, hreply⟩, hnow⟩

theorem ordered_afterAll (h : arrivals.Pairwise fun earlier later => earlier.now ≤ later.now) :
    ((fresh window).afterAll arrivals).Ordered := by
  rw [afterAll_eq]
  refine ordered_after (List.Pairwise.filterMap _ ?_ h)
  intro earlier later hle call hcall call' hcall'
  obtain ⟨-, -, rfl⟩ := Option.map_eq_some_iff.1 hcall
  obtain ⟨-, -, rfl⟩ := Option.map_eq_some_iff.1 hcall'
  exact hle

/-- While time does not go back, a change is reported if it is a window away from all changes of its
path that were reported before. -/
theorem answers_changed_iff (hmono : arrivals.Pairwise fun earlier later => earlier.now ≤ later.now)
    {place : Nat} (harrival : arrivals[place]? = some arrival) :
    Answers window arrivals place (.changed path) ↔
      arrival.Changes path ∧ ¬ ∃ earlier < place, ∃ before other,
        arrivals[earlier]? = some before ∧ Answers window arrivals earlier (.changed other) ∧
          Path.same other path = true ∧ arrival.now - before.now < window := by
  have hordered : ((fresh window).afterAll (arrivals.take place)).Ordered :=
    ordered_afterAll (hmono.sublist (List.take_sublist place arrivals))
  have hwindow : ((fresh window).afterAll (arrivals.take place)).window = window := by
    rw [afterAll_eq, window_after]
    rfl
  rw [Answers, getElem?_replies harrival, Option.some_inj, answer_eq_changed_iff,
    hordered.isReady_iff, hwindow]
  refine and_congr_right fun _ => ?_
  constructor
  · rintro haway ⟨earlier, hearlier, before, other, hbefore, hreply, hsame, hnear⟩
    have hmem : (other, before.now) ∈ ((fresh window).afterAll (arrivals.take place)).accepted :=
      mem_accepted_afterAll_take.2 ⟨earlier, hearlier, before, hbefore, hreply, rfl⟩
    exact Nat.not_lt.2 (haway _ hmem hsame) hnear
  · intro haway call hcall hsame
    obtain ⟨earlier, hearlier, before, hbefore, hreply, hnow⟩ := mem_accepted_afterAll_take.1 hcall
    refine Nat.not_lt.1 fun hnear => haway ⟨earlier, hearlier, before, call.1, hbefore, hreply,
      hsame, ?_⟩
    rw [hnow]
    exact hnear

/-! ### The reports -/

/-- The reports on some arrivals, in order. -/
def reports (d : Debouncer) (arrivals : List Arrival) : List Report :=
  (d.replies arrivals).reduceOption

/-- The paths that are reported as changed, in order. -/
def changedPaths (d : Debouncer) (arrivals : List Arrival) : List String :=
  (d.reports arrivals).filterMap Report.changedPath?

theorem changedPaths_eq (d : Debouncer) (arrivals : List Arrival) :
    d.changedPaths arrivals = (d.reportedChanges arrivals).map (·.1) := by
  have hreplies : (arrivals.zip (d.replies arrivals)).map (·.2) = d.replies arrivals :=
    List.map_snd_zip (Nat.le_of_eq (d.length_replies arrivals))
  rw [changedPaths, reports, List.reduceOption, List.filterMap_filterMap, ← hreplies,
    List.filterMap_map, reportedChanges, List.map_filterMap]
  refine List.filterMap_congr fun answered _ => ?_
  dsimp only [Function.comp_apply, id]
  cases answered.2.bind Report.changedPath? <;> rfl

/-- Notices that arrive one after another while the directories stay the same. -/
def arrivalsOf (isDirectory : String → Bool) (notices : List (Nat × Notice)) : List Arrival :=
  notices.map fun notice => ⟨notice.1, isDirectory, notice.2⟩

theorem reports_cons (d : Debouncer) (arrival : Arrival) (arrivals : List Arrival) :
    d.reports (arrival :: arrivals)
      = (d.answer arrival).1.toList ++ (d.answer arrival).2.reports arrivals := by
  rw [reports, replies_cons]
  cases (d.answer arrival).1 <;> rfl

theorem receiveAll_eq (d : Debouncer) (isDirectory : String → Bool)
    (notices : List (Nat × Notice)) :
    d.receiveAll isDirectory notices
      = (d.reports (arrivalsOf isDirectory notices),
          d.afterAll (arrivalsOf isDirectory notices)) := by
  induction notices generalizing d with
  | nil => rfl
  | cons notice notices ih =>
      have hstep : d.receiveAll isDirectory (notice :: notices)
          = ((d.receive isDirectory notice.1 notice.2).1.toList
              ++ ((d.receive isDirectory notice.1 notice.2).2.receiveAll isDirectory notices).1,
            ((d.receive isDirectory notice.1 notice.2).2.receiveAll isDirectory notices).2) := rfl
      have harrivals : arrivalsOf isDirectory (notice :: notices)
          = ⟨notice.1, isDirectory, notice.2⟩ :: arrivalsOf isDirectory notices := rfl
      rw [hstep, ih, harrivals, reports_cons]
      rfl

/-- **What is reported.** The reports come in the order of the notices, at most one for each. A
failure is always reported, and what is reported as a failure is one. While time does not go back, a
path is reported as changed exactly if it is the first one of a notice of a change that is no
directory, and no change of the same path was reported less than a window before. All other notices
leave the debouncer alone, whatever it keeps; with more or fewer of them, the same changes are
reported. -/
theorem reports_failures_and_spaced_changes (window : Nat) (arrivals : List Arrival) :
    (∀ isDirectory notices, ((fresh window).receiveAll isDirectory notices).1
      = (fresh window).reports (arrivalsOf isDirectory notices)) ∧
    ((fresh window).replies arrivals).length = arrivals.length ∧
    (∀ place arrival, arrivals[place]? = some arrival → ∀ message,
      Answers window arrivals place (.failed message) ↔ arrival.notice = .failure message) ∧
    ((arrivals.Pairwise fun earlier later => earlier.now ≤ later.now) →
      ∀ place arrival, arrivals[place]? = some arrival → ∀ path,
        (Answers window arrivals place (.changed path) ↔
          arrival.Changes path ∧ ¬ ∃ earlier < place, ∃ before other,
            arrivals[earlier]? = some before ∧ Answers window arrivals earlier (.changed other) ∧
              Path.same other path = true ∧ arrival.now - before.now < window)) ∧
    (∀ arrival : Arrival, ¬ arrival.IsChange → ∀ d : Debouncer,
      (d.receive arrival.isDirectory arrival.now arrival.notice).2 = d) ∧
    ∀ arrivals', arrivals'.filter (·.IsChange) = arrivals.filter (·.IsChange) →
      (fresh window).changedPaths arrivals' = (fresh window).changedPaths arrivals := by
  refine ⟨fun isDirectory notices => by rw [receiveAll_eq], length_replies _ _,
    fun place arrival harrival message => ?_,
    fun hmono place arrival harrival path => answers_changed_iff hmono harrival,
    fun arrival harrival d => answer_snd_of_not_isChange harrival, fun arrivals' hchanges => ?_⟩
  · rw [Answers, getElem?_replies harrival, Option.some_inj, answer_eq_failed_iff]
  · rw [changedPaths_eq, changedPaths_eq, reportedChanges_eq, reportedChanges_eq,
      ← Arrival.calls_filter, hchanges, Arrival.calls_filter]

/-- A file in a directory is removed and saved again twice, among notices of other kinds. -/
def saveAfterRemoval : List Arrival :=
  arrivalsOf (· == "in")
    [(0, .event .remove ["in/a"]), (10, .event .modify ["in", "in/a"]), (20, .failure "lost"),
     (30, .event .modify ["in"]), (50, .event .create ["in//a"])]

theorem saveAfterRemoval_reported_once :
    saveAfterRemoval.Pairwise (fun earlier later => earlier.now ≤ later.now) ∧
    Answers 100 saveAfterRemoval 1 (.changed "in/a") ∧
    Answers 100 saveAfterRemoval 2 (.failed "lost") ∧
    ¬ Answers 100 saveAfterRemoval 4 (.changed "in//a") ∧
    (fresh 100).changedPaths (saveAfterRemoval.filter (·.IsChange))
      = (fresh 100).changedPaths saveAfterRemoval := by
  have hmono : saveAfterRemoval.Pairwise fun earlier later => earlier.now ≤ later.now := by decide
  obtain ⟨-, -, hfailures, hchanges, -, hothers⟩ :=
    reports_failures_and_spaced_changes 100 saveAfterRemoval
  have hfirst : Answers 100 saveAfterRemoval 1 (.changed "in/a") := by
    rw [hchanges hmono 1 _ rfl "in/a"]
    refine ⟨⟨.modify, ["in"], [], rfl, .inr rfl, by decide, by decide⟩, ?_⟩
    rintro ⟨earlier, hearlier, before, other, hbefore, hanswer, -⟩
    obtain rfl : earlier = 0 := by omega
    obtain ⟨⟨happening, paths, more, hnotice, hhappening, -⟩, -⟩ :=
      (hchanges hmono 0 _ rfl other).1 hanswer
    obtain ⟨rfl, -⟩ := Notice.event.inj hnotice
    simp at hhappening
  refine ⟨hmono, hfirst, (hfailures 2 _ rfl "lost").2 rfl, ?_, hothers _ ?_⟩
  · rw [hchanges hmono 4 _ rfl "in//a"]
    rintro ⟨-, haway⟩
    exact haway ⟨1, by decide, _, "in/a", rfl, hfirst, by decide +kernel, by decide⟩
  · rw [List.filter_filter]
    simp only [Bool.and_self]

end Debouncer

end ShaderAssembly
