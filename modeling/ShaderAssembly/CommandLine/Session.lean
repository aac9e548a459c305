import ShaderAssembly.Pipeline.Basic
import ShaderAssembly.Watch.Operation

/-!
# Sessions

A command that watches assembles once when it starts, and again after each report of a change. Each
time it succeeds it takes up the directories of libraries that are new; each time it fails it leaves
all as it was and waits for the next report. The output may lie in a watched directory itself, so a
report of the output is passed over, or a session would keep itself busy.
-/

namespace ShaderAssembly

namespace CommandLine

/-- What one assembly gives away: the text for the standard output, and the directories of the
manifests. -/
structure Emission where
  output : String
  dirs : List Location

/-- Assembles once and gives the code to the output file or to the standard output. The messages of
a failure go from the step that failed down to the cause. -/
def emit (tree : FileTree) (pipeline : Pipeline) (output : Option String) :
    FileTree × Except (List String) Emission :=
  match pipeline.run tree with
  | .error e => (tree, .error e.chain)
  | .ok assembly =>
    match output with
    | none => (tree, .ok ⟨assembly.code, assembly.dirs⟩)
    | some path =>
      match tree.write path (.text assembly.code) with
      | .ok after => (after, .ok ⟨"", assembly.dirs⟩)
      | .error e => (tree, .error ["Failed to write " ++ Text.quoted path, e.message])

/-- What a session lets know. -/
inductive Utterance where
  /-- A text for the standard output. -/
  | code (text : String)
  /-- A line for the log. -/
  | log (line : String)

structure Session where
  pipeline : Pipeline
  output : Option String
  /-- Where the output was when the session started. -/
  own : Option Location
  watcher : Watcher

namespace Session

/-- Changes of one path are reported once in so many milliseconds. -/
def window : Nat := 100

def start (tree : FileTree) (pipeline : Pipeline) (output : Option String) :
    Except SetupError Session := do
  let watcher ← Watcher.start tree pipeline.manifest pipeline.config window
  return ⟨pipeline, output, output.bind fun path => (tree.canonicalize path).toOption, watcher⟩

/-- Assembles once and takes up directories that are new. -/
def rebuild (session : Session) (tree : FileTree) : FileTree × Session × Utterance :=
  match emit tree session.pipeline session.output with
  | (after, .ok emission) =>
    let watcher :=
      emission.dirs.foldl (fun watcher dir => (watcher.watch after dir.path).2) session.watcher
    (after, { session with watcher }, .code emission.output)
  | (after, .error messages) => (after, session, .log (String.intercalate ": " messages))

/-- Whether a path is that of the output. -/
def owns (session : Session) (path : String) : Bool :=
  session.own.any fun location => Path.same location.path path

def answer (session : Session) (tree : FileTree) :
    Report → FileTree × Session × List Utterance
  | .changed path =>
    if session.owns path then (tree, session, [])
    else
      let (after, session, utterance) := session.rebuild tree
      (after, session, [utterance])
  | .failed message => (tree, session, [.log ("Watcher: " ++ message)])

/-- Answers reports in their order. -/
def answerAll (session : Session) (tree : FileTree) :
    List Report → FileTree × Session × List Utterance
  | [] => (tree, session, [])
  | report :: reports =>
    let (after, session, utterances) := session.answer tree report
    let (last, session, rest) := session.answerAll after reports
    (last, session, utterances ++ rest)

/-- What a session does after something happened in the tree. -/
def notice (session : Session) (tree : FileTree) (now : Nat)
    (happenings : List (Happening × Location)) : FileTree × Session × List Utterance :=
  let (reports, watcher) := session.watcher.observe tree now happenings
  { session with watcher }.answerAll tree reports

end Session

end CommandLine

end ShaderAssembly
