import ShaderAssembly.CommandLine.Session
import ShaderAssembly.Proofs.Watch.Coverage
import ShaderAssembly.Proofs.Watch.Reports

/-!
# What a session does

A session runs its pipeline on the files as they are when a report comes in. A run that fails leaves
the files and the session alone, and one that succeeds writes to the output and to nothing else. So
whatever others do to the files in between, a session keeps what it assembles and where the code
goes, and only ever watches more. A change of a covered file leads to a run unless it is of the
output or comes too soon after another one; a notice of anything else leads to none.
-/

namespace ShaderAssembly

variable {tree after : FileTree}

/-! ### Operations and what is told of them -/

/-- A tree stays proper whatever happens in it. -/
theorem FileOperation.proper_perform (htree : tree.Proper) {operation : FileOperation}
    {after : FileTree} {happenings : List (Happening × Location)}
    (h : operation.perform tree = .ok (after, happenings)) : after.Proper := by
  cases operation with
  | read path =>
      obtain ⟨text, -, h⟩ := bind_eq_ok_iff.1 h
      obtain ⟨location, -, h⟩ := bind_eq_ok_iff.1 h
      obtain ⟨rfl, -⟩ := Prod.mk.inj (Except.ok.inj h)
      exact htree
  | write path text =>
      obtain ⟨place, -, h⟩ := bind_eq_ok_iff.1 h
      obtain ⟨written, hwrite, h⟩ := bind_eq_ok_iff.1 h
      obtain ⟨rfl, -⟩ := Prod.mk.inj (Except.ok.inj h)
      exact htree.write hwrite
  | append path text =>
      obtain ⟨appended, happend, h⟩ := bind_eq_ok_iff.1 h
      obtain ⟨location, -, h⟩ := bind_eq_ok_iff.1 h
      obtain ⟨rfl, -⟩ := Prod.mk.inj (Except.ok.inj h)
      exact htree.append happend
  | remove path =>
      obtain ⟨place, -, h⟩ := bind_eq_ok_iff.1 h
      obtain ⟨removed, hremove, h⟩ := bind_eq_ok_iff.1 h
      obtain ⟨rfl, -⟩ := Prod.mk.inj (Except.ok.inj h)
      exact htree.remove hremove
  | rename path newPath =>
      obtain ⟨source, -, h⟩ := bind_eq_ok_iff.1 h
      obtain ⟨target, -, h⟩ := bind_eq_ok_iff.1 h
      obtain ⟨renamed, hrename, h⟩ := bind_eq_ok_iff.1 h
      obtain ⟨rfl, -⟩ := Prod.mk.inj (Except.ok.inj h)
      exact htree.rename hrename
  | makeDirectory path =>
      obtain ⟨place, -, h⟩ := bind_eq_ok_iff.1 h
      obtain ⟨made, hmake, h⟩ := bind_eq_ok_iff.1 h
      obtain ⟨rfl, -⟩ := Prod.mk.inj (Except.ok.inj h)
      exact htree.makeDirectory hmake

/-- A report answers one of the notices. -/
theorem Debouncer.exists_answer_of_mem_receiveAll {d : Debouncer} {isDirectory : String → Bool}
    {notices : List (Nat × Notice)} {report : Report}
    (h : report ∈ (d.receiveAll isDirectory notices).1) :
    ∃ (before : Debouncer) (now : Nat) (notice : Notice), (now, notice) ∈ notices ∧
      (before.answer ⟨now, isDirectory, notice⟩).1 = some report := by
  induction notices generalizing d with
  | nil => exact absurd h List.not_mem_nil
  | cons arrival notices ih =>
      rcases List.mem_append.1 h with hfirst | hrest
      · exact ⟨d, arrival.1, arrival.2, List.mem_cons_self, Option.mem_toList.1 hfirst⟩
      · obtain ⟨before, now, notice, hmem, hanswer⟩ := ih hrest
        exact ⟨before, now, notice, List.mem_cons_of_mem _ hmem, hanswer⟩

namespace Watcher

variable {watcher : Watcher}

/-- A change of a covered file is reported, unless a report of the same path is too recent. -/
theorem observe_of_covers {happening : Happening} {location : Location} {now : Nat}
    (hcovers : watcher.covers location = true) (hchange : happening.isChange = true)
    (hfile : tree.isDirectory location.path = false)
    (hready : watcher.debouncer.isReady location.path now = true) :
    watcher.observe tree now [(happening, location)]
      = ([.changed location.path],
        { watcher with debouncer := (watcher.debouncer.ready location.path now).2 }) := by
  simp [observe, hcovers, Debouncer.receiveAll, Debouncer.receive, Notice.changedPath?, hchange,
    hfile, Debouncer.ready, hready]

theorem covers_of_prefix {later : Watcher} (h : watcher.watched <+: later.watched)
    {location : Location} (hcovers : watcher.covers location = true) :
    later.covers location = true := by
  obtain ⟨dir, hdir, hbelow⟩ := covers_iff.1 hcovers
  exact covers_iff.2 ⟨dir, h.subset hdir, hbelow⟩

/-- What is reported is a change of a covered file. -/
theorem mem_observe {now : Nat} {happenings : List (Happening × Location)} {report : Report}
    (h : report ∈ (watcher.observe tree now happenings).1) :
    ∃ happening location, (happening, location) ∈ happenings ∧ happening.isChange = true ∧
      watcher.covers location = true ∧ report = .changed location.path := by
  obtain ⟨before, _, notice, harrival, hanswer⟩ := Debouncer.exists_answer_of_mem_receiveAll h
  obtain ⟨⟨happening, location⟩, hmem, heq⟩ := List.mem_map.1 harrival
  obtain ⟨-, rfl⟩ := Prod.mk.inj heq
  obtain ⟨hmem, hcovers⟩ := List.mem_filter.1 hmem
  cases report with
  | failed message => cases Debouncer.answer_eq_failed_iff.1 hanswer
  | changed path =>
      obtain ⟨⟨there, before, after, hevent, hchange, -⟩, -⟩ :=
        Debouncer.answer_eq_changed_iff.1 hanswer
      obtain ⟨rfl, hpaths⟩ := Notice.event.inj hevent
      have hpath : path ∈ [location.path] :=
        hpaths ▸ List.mem_append_right before List.mem_cons_self
      obtain rfl := List.mem_singleton.1 hpath
      exact ⟨happening, location, hmem, Arrival.isChange_iff.2 hchange, hcovers, rfl⟩

/-- After some calls the directory of each of them is watched. -/
theorem mem_watchAll {calls : List (FileTree × String)} {dir : String} {place : Location}
    (hcall : (tree, dir) ∈ calls) (hplace : tree.canonicalDirectory? dir = some place) :
    place ∈ (watcher.watchAll calls).watched := by
  induction calls generalizing watcher with
  | nil => exact absurd hcall List.not_mem_nil
  | cons call calls ih =>
      rcases List.mem_cons.1 hcall with rfl | hcall
      · refine (prefix_watchAll _ calls).subset ?_
        rcases watch_cases watcher tree dir with ⟨there, hthere, -, hwatch⟩ | ⟨hold, hwatch⟩
        · obtain rfl := Option.some.inj (hplace.symm.trans hthere)
          simp only [hwatch]
          exact List.mem_append_right _ List.mem_cons_self
        · simp only [hwatch]
          exact hold place hplace
      · exact ih hcall

end Watcher

namespace CommandLine

variable {pipeline : Pipeline} {assembly : Assembly}

/-! ### One run -/

theorem emit_of_error {e : PipelineError} (h : pipeline.run tree = .error e)
    (output : Option String) : emit tree pipeline output = (tree, .error e.chain) := by
  rw [emit, h]

theorem emit_none (h : pipeline.run tree = .ok assembly) :
    emit tree pipeline none = (tree, .ok ⟨assembly.code, assembly.dirs⟩) := by
  rw [emit, h]

theorem emit_some_of_ok {path : String} (h : pipeline.run tree = .ok assembly)
    (hwrite : tree.write path (.text assembly.code) = .ok after) :
    emit tree pipeline (some path) = (after, .ok ⟨"", assembly.dirs⟩) := by
  simp only [emit, h, hwrite]

theorem emit_some_of_error {path : String} {e : FileError} (h : pipeline.run tree = .ok assembly)
    (hwrite : tree.write path (.text assembly.code) = .error e) :
    emit tree pipeline (some path)
      = (tree, .error ["Failed to write " ++ Text.quoted path, e.message]) := by
  simp only [emit, h, hwrite]

/-- All the code of an assembly is printed, or it is written to the output file. -/
inductive Delivers (tree : FileTree) (code : String) :
    Option String → FileTree → String → Prop where
  | printed : Delivers tree code none tree code
  | written {path : String} {after : FileTree} (h : tree.write path (.text code) = .ok after) :
      Delivers tree code (some path) after ""

theorem Delivers.proper {code text : String} {output : Option String}
    (h : Delivers tree code output after text) (htree : tree.Proper) : after.Proper := by
  cases h with
  | printed => exact htree
  | written hwrite => exact htree.write hwrite

/-- There is no code, or the output file cannot be written. -/
def Fails (tree : FileTree) (pipeline : Pipeline) (output : Option String) : Prop :=
  ∀ assembly, pipeline.run tree = .ok assembly → ∀ after text,
    ¬ Delivers tree assembly.code output after text

/-- An assembly that fails changes nothing, and one that succeeds gives away all of its code. -/
theorem emit_cases (tree : FileTree) (pipeline : Pipeline) (output : Option String) :
    (Fails tree pipeline output ∧ ∃ messages, emit tree pipeline output = (tree, .error messages)) ∨
    ∃ assembly after text, pipeline.run tree = .ok assembly ∧
      Delivers tree assembly.code output after text ∧
      emit tree pipeline output = (after, .ok ⟨text, assembly.dirs⟩) := by
  cases hrun : pipeline.run tree with
  | error e =>
      refine .inl ⟨fun assembly hassembly => ?_, e.chain, emit_of_error hrun output⟩
      rw [hrun] at hassembly
      contradiction
  | ok assembly =>
      cases output with
      | none => exact .inr ⟨assembly, tree, assembly.code, rfl, .printed, emit_none hrun⟩
      | some path =>
          cases hwrite : tree.write path (.text assembly.code) with
          | error e =>
              refine .inl ⟨fun other hother after text hdelivers => ?_, _,
                emit_some_of_error hrun hwrite⟩
              obtain rfl := Except.ok.inj (hrun.symm.trans hother)
              cases hdelivers with
              | written hwritten =>
                  rw [hwrite] at hwritten
                  contradiction
          | ok after =>
              exact .inr ⟨assembly, after, "", rfl, .written hwrite, emit_some_of_ok hrun hwrite⟩

namespace Session

variable {session later : Session} {now : Nat}

/-- What one run of a session comes to. -/
theorem rebuild_cases (session : Session) (tree : FileTree) :
    (Fails tree session.pipeline session.output ∧
      ∃ line, session.rebuild tree = (tree, session, .log line)) ∨
    ∃ assembly after text, session.pipeline.run tree = .ok assembly ∧
      Delivers tree assembly.code session.output after text ∧
      session.rebuild tree =
        (after,
          { session with
            watcher := session.watcher.watchAll (assembly.dirs.map fun dir => (after, dir.path)) },
          .code text) := by
  rcases emit_cases tree session.pipeline session.output with
    ⟨hfails, messages, hemit⟩ | ⟨assembly, after, text, hrun, hdelivers, hemit⟩
  · exact .inl ⟨hfails, _, by rw [rebuild, hemit]⟩
  · refine .inr ⟨assembly, after, text, hrun, hdelivers, ?_⟩
    rw [rebuild, hemit, Watcher.watchAll, List.foldl_map]

/-! ### Which notices lead to a run -/

/-- What one run leads to. If it succeeds, the directories of its manifests are watched from then on,
unless they are not there any more. -/
inductive Answered (tree : FileTree) (pipeline : Pipeline) (output : Option String) :
    FileTree × Session × List Utterance → Prop where
  | failed (later : Session) (line : String) (h : Fails tree pipeline output) :
      Answered tree pipeline output (tree, later, [.log line])
  | done {assembly : Assembly} {after : FileTree} {later : Session} {text : String}
      (code : pipeline.run tree = .ok assembly)
      (delivered : Delivers tree assembly.code output after text)
      (watched : ∀ dir ∈ assembly.dirs, after.canonicalDirectory? dir.path = some dir →
        dir ∈ later.watcher.watched) :
      Answered tree pipeline output (after, later, [.code text])

theorem answered_answer (session : Session) (tree : FileTree) {path : String}
    (hown : session.owns path = false) :
    Answered tree session.pipeline session.output (session.answer tree (.changed path)) := by
  rw [answer, if_neg (Bool.eq_false_iff.1 hown)]
  rcases rebuild_cases session tree with
    ⟨hfails, line, hrebuild⟩ | ⟨assembly, after, text, hrun, hdelivers, hrebuild⟩
  · rw [hrebuild]
    exact .failed session line hfails
  · rw [hrebuild]
    refine .done hrun hdelivers fun dir hdir hplace => ?_
    exact Watcher.mem_watchAll (List.mem_map.2 ⟨dir, hdir, rfl⟩) hplace

/-- A change of a covered file that is not the output leads to one run on the files as they are. -/
theorem notice_of_covers {happening : Happening} {location : Location}
    (hcovers : session.watcher.covers location = true) (hchange : happening.isChange = true)
    (hfile : tree.isDirectory location.path = false)
    (hready : session.watcher.debouncer.isReady location.path now = true)
    (hown : session.owns location.path = false) :
    Answered tree session.pipeline session.output
      (session.notice tree now [(happening, location)]) := by
  rw [notice, Watcher.observe_of_covers hcovers hchange hfile hready]
  have hanswered := answered_answer
    { session with watcher := { session.watcher with
        debouncer := (session.watcher.debouncer.ready location.path now).2 } } tree hown
  simpa only [answerAll, List.append_nil] using hanswered

theorem answerAll_of_owns {reports : List Report}
    (h : ∀ report ∈ reports, ∃ path, report = .changed path ∧ session.owns path = true)
    (tree : FileTree) : session.answerAll tree reports = (tree, session, []) := by
  induction reports with
  | nil => rfl
  | cons report reports ih =>
      obtain ⟨⟨path, rfl, hown⟩, hrest⟩ := List.forall_mem_cons.1 h
      rw [answerAll, answer, if_pos hown]
      simp only [ih hrest, List.append_nil]

/-- Nothing is done about what changes nothing, is not covered or is the output. -/
theorem notice_of_quiet {happenings : List (Happening × Location)}
    (h : ∀ happening location, (happening, location) ∈ happenings → happening.isChange = true →
      session.watcher.covers location = true → session.owns location.path = true) :
    ∃ later, session.notice tree now happenings = (tree, later, []) ∧
      later.watcher.watched = session.watcher.watched := by
  refine ⟨{ session with watcher := (session.watcher.observe tree now happenings).2 }, ?_, rfl⟩
  rw [notice]
  refine answerAll_of_owns (fun report hreport => ?_) tree
  obtain ⟨happening, location, hmem, hchange, hcovers, rfl⟩ := Watcher.mem_observe hreport
  exact ⟨location.path, rfl, h happening location hmem hchange hcovers⟩

/-! ### What is kept -/

/-- What holds between a tree with a session and what becomes of them. -/
structure Leads (tree : FileTree) (session : Session) (after : FileTree) (later : Session) :
    Prop where
  proper : tree.Proper → after.Proper
  pipeline : later.pipeline = session.pipeline
  output : later.output = session.output
  own : later.own = session.own
  watched : session.watcher.watched <+: later.watcher.watched
  nodup : session.watcher.watched.Nodup → later.watcher.watched.Nodup

namespace Leads

variable {last : FileTree} {final : Session}

theorem refl (tree : FileTree) (session : Session) : Leads tree session tree session :=
  ⟨id, rfl, rfl, rfl, List.prefix_refl _, id⟩

theorem trans (h : Leads tree session after later) (h' : Leads after later last final) :
    Leads tree session last final where
  proper htree := h'.proper (h.proper htree)
  pipeline := h'.pipeline.trans h.pipeline
  output := h'.output.trans h.output
  own := h'.own.trans h.own
  watched := h.watched.trans h'.watched
  nodup hnodup := h'.nodup (h.nodup hnodup)

end Leads

theorem leads_rebuild (session : Session) (tree : FileTree) :
    Leads tree session (session.rebuild tree).1 (session.rebuild tree).2.1 := by
  rcases rebuild_cases session tree with
    ⟨-, line, hrebuild⟩ | ⟨assembly, after, text, -, hdelivers, hrebuild⟩
  · rw [hrebuild]
    exact .refl tree session
  · rw [hrebuild]
    exact ⟨hdelivers.proper, rfl, rfl, rfl, Watcher.prefix_watchAll _ _,
      fun hnodup => Watcher.nodup_watchAll hnodup _⟩

theorem leads_answer (session : Session) (tree : FileTree) (report : Report) :
    Leads tree session (session.answer tree report).1 (session.answer tree report).2.1 := by
  cases report with
  | failed message => exact .refl tree session
  | changed path =>
      rw [answer]
      split
      · exact .refl tree session
      · exact leads_rebuild session tree

theorem leads_answerAll (session : Session) (tree : FileTree) (reports : List Report) :
    Leads tree session (session.answerAll tree reports).1 (session.answerAll tree reports).2.1 := by
  induction reports generalizing session tree with
  | nil => exact .refl tree session
  | cons report reports ih => exact (leads_answer session tree report).trans (ih _ _)

theorem leads_notice (session : Session) (tree : FileTree) (now : Nat)
    (happenings : List (Happening × Location)) :
    Leads tree session (session.notice tree now happenings).1
      (session.notice tree now happenings).2.1 :=
  -- Observing moves the debouncer only, of which nothing is said.
  have h := leads_answerAll
    { session with watcher := (session.watcher.observe tree now happenings).2 } tree
    (session.watcher.observe tree now happenings).1
  ⟨h.proper, h.pipeline, h.output, h.own, h.watched, h.nodup⟩

/-- Somebody tries an operation, and the session is told what happened. -/
def round (session : Session) (tree : FileTree) (now : Nat) (operation : FileOperation) :
    FileTree × Session × List Utterance :=
  match operation.perform tree with
  | .error _ => (tree, session, [])
  | .ok (after, happenings) => session.notice after now happenings

theorem leads_round (session : Session) (tree : FileTree) (now : Nat) (operation : FileOperation) :
    Leads tree session (session.round tree now operation).1
      (session.round tree now operation).2.1 := by
  rw [round]
  split
  · exact .refl tree session
  · rename_i after happenings hperform
    have h := leads_notice session after now happenings
    exact { h with proper := fun htree => h.proper (FileOperation.proper_perform htree hperform) }

/-- What becomes of a tree and a session while others operate on the files. -/
def run (session : Session) (tree : FileTree) : List (Nat × FileOperation) → FileTree × Session
  | [] => (tree, session)
  | (now, operation) :: rounds =>
    let (after, later, _) := session.round tree now operation
    later.run after rounds

theorem leads_run (session : Session) (tree : FileTree) (rounds : List (Nat × FileOperation)) :
    Leads tree session (session.run tree rounds).1 (session.run tree rounds).2 := by
  induction rounds generalizing session tree with
  | nil => exact .refl tree session
  | cons round rounds ih => exact (leads_round session tree round.1 round.2).trans (ih _ _)

theorem eq_and_nodup_of_start {output : Option String}
    (h : start tree pipeline output = .ok session) :
    session.pipeline = pipeline ∧ session.output = output ∧ session.watcher.watched.Nodup := by
  obtain ⟨watcher, hwatcher, h⟩ := bind_eq_ok_iff.1 h
  obtain rfl := Except.ok.inj h
  refine ⟨rfl, rfl, ?_⟩
  have hinitial := Watcher.initiallyWatched_of_start hwatcher
  cases htop : tree.canonicalize pipeline.manifest with
  | error e =>
      obtain ⟨e', he⟩ := Watcher.start_eq_error_iff.2 ⟨e, htop⟩
      rw [hwatcher] at he
      contradiction
  | ok top =>
      obtain heq := Except.ok.inj ((initiallyWatched_eq htop _).symm.trans hinitial)
      rw [← heq]
      exact nodup_eraseDups _

/-- **What a session keeps up with.** Whatever others do to the files after a session has started,
it keeps its pipeline and its output, watches each directory once and never less than before. So
what is covered at the start stays covered: where such a file changes, is not the output and did
not change a moment ago, the session runs its pipeline on the files as they are. A notice of the
output, of a file that is not covered or of anything but a change leads to nothing. -/
theorem run_keeps_up (htree : tree.Proper) {output : Option String}
    (hstart : start tree pipeline output = .ok session) {rounds : List (Nat × FileOperation)}
    (hrun : session.run tree rounds = (after, later)) :
    after.Proper ∧ session.watcher.watched <+: later.watcher.watched ∧
    later.watcher.watched.Nodup ∧
    (∀ now happening location, session.watcher.covers location = true →
      happening.isChange = true → after.isDirectory location.path = false →
      later.watcher.debouncer.isReady location.path now = true →
      session.owns location.path = false →
        Answered after pipeline output (later.notice after now [(happening, location)])) ∧
    ∀ now happenings,
      (∀ happening location, (happening, location) ∈ happenings → happening.isChange = true →
        later.watcher.covers location = true → session.owns location.path = true) →
      ∃ next, later.notice after now happenings = (after, next, []) ∧
        next.watcher.watched = later.watcher.watched := by
  obtain ⟨rfl, rfl, hnodup⟩ := eq_and_nodup_of_start hstart
  have hleads := leads_run session tree rounds
  rw [hrun] at hleads
  have howns : later.owns = session.owns := by
    funext path
    rw [owns, hleads.own, owns]
  refine ⟨hleads.proper htree, hleads.watched, hleads.nodup hnodup, ?_, ?_⟩
  · intro now happening location hcovers hchange hfile hready hown
    rw [← hleads.pipeline, ← hleads.output]
    exact notice_of_covers (Watcher.covers_of_prefix hleads.watched hcovers) hchange hfile hready
      (by rw [howns, hown])
  · intro now happenings hquiet
    refine notice_of_quiet fun happening location hmem hchange hcovers => ?_
    rw [howns]
    exact hquiet happening location hmem hchange hcovers

end Session

end CommandLine

end ShaderAssembly
