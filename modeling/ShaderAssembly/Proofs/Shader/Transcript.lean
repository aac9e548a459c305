import ShaderAssembly.Proofs.Shader.Resolution

/-!
# What leaves no trace

Asking a shader something changes nothing, nor does assembling it, nor does asking it for its code
when that fails: a shader without remembered code is left as it was if it cannot be assembled. That
is a fact about one call. A whole run is written down as a transcript of its calls and their
replies, and by induction any of the calls that change nothing can be left out of it: all that is
still called gives the reply that stands in the transcript, and the shaders are the same in the end.
-/

namespace ShaderAssembly

/-- What can be asked of a shader without a resolver. -/
inductive Question where
  | version
  | keepsPrelude
  | extensions
  | extensionMode (name : String)
  | macros
  | blocks
  | isEmpty
  | remembered
  deriving DecidableEq, Repr

inductive Reply where
  | nothing
  | code (result : Except AssemblyError String)
  | version (version : String)
  | holds (answer : Bool)
  | extensions (mentions : List (String × ExtensionMode))
  | extensionMode (mode : Option ExtensionMode)
  | macros (macros : List MacroOp)
  | blocks (blocks : List Block)
  | remembered (code : Option String)

def Shader.reply (shader : Shader) : Question → Reply
  | .version => .version shader.version
  | .keepsPrelude => .holds shader.prelude
  | .extensions => .extensions shader.extensions.toList
  | .extensionMode name => .extensionMode (shader.extensionMode? name)
  | .macros => .macros shader.macros
  | .blocks => .blocks shader.blocks
  | .isEmpty => .holds shader.isEmpty
  | .remembered => .remembered shader.assembled

/-- A step, or a question to the shader of a name. -/
inductive Call where
  | step (step : Step)
  | ask (name : String) (question : Question)

/-- A call with the reply that it got. -/
structure Exchange where
  call : Call
  reply : Reply

/-- Whether the call asks without changing anything, or is one for code that failed. -/
def Exchange.isIdle : Exchange → Bool
  | ⟨.ask _ _, _⟩ => true
  | ⟨.step (.assemble _ _), _⟩ => true
  | ⟨.step (.code _ _), .code (.error _)⟩ => true
  | _ => false

/-- The first list is the second one with some of the idle exchanges left out. -/
inductive Thinned : List Exchange → List Exchange → Prop where
  | nil : Thinned [] []
  | keep (exchange : Exchange) {kept all : List Exchange} (rest : Thinned kept all) :
      Thinned (exchange :: kept) (exchange :: all)
  | leaveOut {exchange : Exchange} {kept all : List Exchange} (idle : exchange.isIdle = true)
      (rest : Thinned kept all) : Thinned kept (exchange :: all)

theorem thinned_filter (exchanges : List Exchange) :
    Thinned (exchanges.filter (!·.isIdle)) exchanges := by
  induction exchanges with
  | nil => exact .nil
  | cons exchange exchanges ih =>
      cases hidle : exchange.isIdle with
      | true =>
          rw [List.filter_cons_of_neg (by simp [hidle])]
          exact .leaveOut hidle ih
      | false =>
          rw [List.filter_cons_of_pos (by simp [hidle])]
          exact .keep exchange ih

namespace Shader

variable {shader : Shader} {resolver : Resolver} {e : AssemblyError}

/-- Asking for code fails if none is remembered and none can be assembled. -/
theorem assembledCode_eq_error_iff :
    (shader.assembledCode resolver).1 = .error e
      ↔ shader.assembled = none ∧ shader.assemble resolver = .error e := by
  rw [assembledCode]
  cases shader.assembled with
  | some code => simp
  | none => cases shader.assemble resolver <;> simp

theorem assembledCode_of_error (h : shader.assemble resolver = .error e)
    (hforgotten : shader.assembled = none) :
    shader.assembledCode resolver = (.error e, shader) := by
  simp only [assembledCode, hforgotten, h]

end Shader

namespace Workbench

variable {bench : Workbench} {name : String} {resolver : Resolver} {e : AssemblyError}

def call (bench : Workbench) : Call → Workbench × Reply
  | .step step => ((bench.step step).1, (bench.step step).2.elim .nothing .code)
  | .ask name question => (bench, (bench name).reply question)

/-- The calls of a run with their replies. -/
def transcript (bench : Workbench) : List Call → List Exchange
  | [] => []
  | c :: calls => ⟨c, (bench.call c).2⟩ :: (bench.call c).1.transcript calls

/-- The workbench after some calls. -/
def after (bench : Workbench) (calls : List Call) : Workbench :=
  calls.foldl (fun bench c => (bench.call c).1) bench

theorem put_self (bench : Workbench) (name : String) : bench.put name (bench name) = bench := by
  funext other
  rw [put]
  split
  · rename_i hname
    rw [hname]
  · rfl

theorem step_code_eq_error_iff :
    (bench.step (.code name resolver)).2 = some (.error e)
      ↔ (bench name).assembled = none ∧ (bench name).assemble resolver = .error e := by
  rw [← Shader.assembledCode_eq_error_iff]
  exact Option.some_inj

theorem step_code_of_error (h : (bench.step (.code name resolver)).2 = some (.error e)) :
    (bench.step (.code name resolver)).1 = bench := by
  obtain ⟨hforgotten, hassemble⟩ := step_code_eq_error_iff.1 h
  have hcode := Shader.assembledCode_of_error hassemble hforgotten
  have hput : (bench.step (.code name resolver)).1
      = bench.put name ((bench name).assembledCode resolver).2 := rfl
  rw [hput, hcode, put_self]

/-- An idle call changes nothing. -/
theorem call_of_isIdle {c : Call} (h : (Exchange.mk c (bench.call c).2).isIdle = true) :
    (bench.call c).1 = bench := by
  cases c with
  | ask name question => rfl
  | step step =>
      cases step with
      | assemble name resolver => rfl
      | code name resolver =>
          cases hcode : ((bench name).assembledCode resolver).1 with
          | ok code =>
              have hreply : (bench.call (.step (.code name resolver))).2 = .code (.ok code) :=
                congrArg Reply.code hcode
              rw [hreply] at h
              cases h
          | error e => exact step_code_of_error (congrArg some hcode)
      | change | copy | swap => cases h

/-- Idle calls can be left out of a run. -/
theorem transcript_of_thinned {calls : List Call} {kept : List Exchange}
    (h : Thinned kept (bench.transcript calls)) :
    bench.transcript (kept.map Exchange.call) = kept ∧
      bench.after (kept.map Exchange.call) = bench.after calls := by
  induction calls generalizing bench kept with
  | nil =>
      cases h
      exact ⟨rfl, rfl⟩
  | cons c calls ih =>
      cases h with
      | keep _ rest =>
          obtain ⟨htranscript, hafter⟩ := ih rest
          rw [List.map_cons, transcript, htranscript]
          exact ⟨rfl, hafter⟩
      | leaveOut idle rest =>
          have hcall := call_of_isIdle idle
          rw [hcall] at rest
          obtain ⟨htranscript, hafter⟩ := ih rest
          refine ⟨htranscript, ?_⟩
          rw [hafter, after, after, List.foldl_cons, hcall]

/-- **Failed calls and questions leave no trace.** A call for code fails if the shader remembers
none and cannot be assembled, with the same error, and then it changes nothing, so that a call with
a better resolver gets what it would have got at first. In a run, therefore, any of the failed calls
for code and of the calls that only ask can be left out, and all of them too: the other calls get
the same replies, and all shaders are the same in the end. -/
theorem transcript_without_idle (bench : Workbench) (calls : List Call) :
    (∀ name resolver e, (bench.step (.code name resolver)).2 = some (.error e)
      ↔ (bench name).assembled = none ∧ (bench name).assemble resolver = .error e) ∧
    (∀ name resolver e, (bench.step (.code name resolver)).2 = some (.error e) →
      (bench.step (.code name resolver)).1 = bench ∧
      ∀ better, (bench.step (.code name resolver)).1.step (.code name better)
          = bench.step (.code name better) ∧
        (bench.step (.code name better)).2 = some ((bench name).assemble better)) ∧
    (∀ kept, Thinned kept (bench.transcript calls) →
      bench.transcript (kept.map Exchange.call) = kept ∧
        bench.after (kept.map Exchange.call) = bench.after calls) ∧
    bench.transcript (((bench.transcript calls).filter (!·.isIdle)).map Exchange.call)
      = (bench.transcript calls).filter (!·.isIdle) ∧
    bench.after (((bench.transcript calls).filter (!·.isIdle)).map Exchange.call)
      = bench.after calls := by
  refine ⟨fun _ _ _ => step_code_eq_error_iff, fun name resolver e h => ?_,
    fun kept => transcript_of_thinned, transcript_of_thinned (thinned_filter _)⟩
  have hforgotten := (step_code_eq_error_iff.1 h).1
  have hbench := step_code_of_error h
  refine ⟨hbench, fun better => ⟨by rw [hbench], ?_⟩⟩
  exact congrArg some (Shader.assembledCode_of_forgotten hforgotten better)

def tooEarly : Resolver := ⟨fun _ => .error .notFound, fun _ => none⟩

def inTime : Resolver := ⟨fun _ => .ok "x", fun _ => none⟩

/-- A shader whose file is not there yet. -/
def unready : List Call :=
  [.step (.change "a" .dropPrelude), .step (.change "a" (.addBlock (.file "f") .back))]

def askedTooEarly : List Call :=
  unready ++ [.step (.code "a" tooEarly), .ask "a" .remembered, .step (.assemble "a" inTime),
    .step (.copy "a" "b"), .step (.code "a" inTime), .ask "b" .remembered, .ask "a" .remembered]

/-- What is left without the failed call and the first two that only ask. -/
def askedInTime : List Exchange :=
  unready.map (⟨·, .nothing⟩) ++ [⟨.step (.copy "a" "b"), .nothing⟩,
    ⟨.step (.code "a" inTime), .code (.ok "x\n")⟩, ⟨.ask "b" .remembered, .remembered none⟩,
    ⟨.ask "a" .remembered, .remembered (some "x\n")⟩]

theorem transcript_askedTooEarly :
    ((empty.after unready).step (.code "a" tooEarly)).2
      = some (.error (.unresolvedFile "f" .notFound)) ∧
    ((empty.after unready).step (.code "a" tooEarly)).1.step (.code "a" inTime)
      = (empty.after unready).step (.code "a" inTime) ∧
    Thinned askedInTime (empty.transcript askedTooEarly) ∧
    empty.transcript (askedInTime.map Exchange.call) = askedInTime ∧
    empty.after (askedInTime.map Exchange.call) = empty.after askedTooEarly := by
  have hfails : ((empty.after unready).step (.code "a" tooEarly)).2
      = some (.error (.unresolvedFile "f" .notFound)) := rfl
  have hthinned : Thinned askedInTime (empty.transcript askedTooEarly) :=
    .keep _ (.keep _ (.leaveOut rfl (.leaveOut rfl (.leaveOut rfl
      (.keep _ (.keep _ (.keep _ (.keep _ .nil))))))))
  refine ⟨hfails, ?_, hthinned, (transcript_without_idle empty askedTooEarly).2.2.1 _ hthinned⟩
  exact (((transcript_without_idle (empty.after unready) []).2.1 _ _ _ hfails).2 inTime).1

end Workbench

end ShaderAssembly
