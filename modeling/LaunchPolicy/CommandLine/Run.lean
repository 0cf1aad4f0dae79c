import LaunchPolicy.CommandLine.Request
import LaunchPolicy.Compile.Stream
import LaunchPolicy.Files.Tree
import LaunchPolicy.Log.Event
import LaunchPolicy.Settings.Environment

/-!
A compilation from the command line: settings, the text of manifests or the reference of an
image, the policies, and the files and lines that tell of them. The file of the policies is
written before that of the manifests, and the first that cannot be written ends the run.
-/

namespace LaunchPolicy.CommandLine

/-- What a run finds. -/
structure Host where
  files : Files
  environment : Environment
  world : World
  /-- The time on log lines, where there is a clock. -/
  time : Option String := none
  /-- Whether errors are shown on a terminal. -/
  terminal : Bool := false

def Host.machine (host : Host) : Machine := host.world.machine

/-- A file to be written. -/
structure Writing where
  path : String
  text : String
deriving DecidableEq, Repr

/-- What a run leaves, and the files that it has still to write. -/
structure Outcome where
  exit : Nat := 0
  output : String := ""
  errors : String := ""
  calls : List Call := []
  writings : List Writing := []

namespace Outcome

def fail (outcome : Outcome) (report : Text) : Outcome :=
  { outcome with exit := 1, errors := outcome.errors ++ "Error: " ++ report.streamed ++ "\n", writings := [] }

def wrote (outcome : Outcome) (writing : Writing) : Outcome :=
  { outcome with output := outcome.output ++ writing.path ++ " created.\n" }

def writeAll (outcome : Outcome) (tree : FileTree) : List Writing → Except Fault (Outcome × FileTree)
  | [] => .ok (outcome, tree)
  | writing :: rest =>
      match tree.writeText writing.path writing.text with
      | .ok tree => writeAll (outcome.wrote writing) tree rest
      | .error (.refused refusal) => .ok (outcome.fail (refusal.text writing.path), tree)
      | .error (.faulty fault) => .error fault

def complete (outcome : Outcome) (tree : FileTree) : Except Fault (Outcome × FileTree) :=
  { outcome with writings := [] : Outcome }.writeAll tree outcome.writings

end Outcome

inductive Source where
  | manifests (text : String)
  | image (reference : String)

structure Product where
  /-- The JSON text of the policies. -/
  policy : String
  base64 : String
  manifests : String := ""

def Source.compile (compiler : WorkloadCompiler) : Source → Compile Product
  | .manifests text => do
      let result ← compiler.streamText text
      let machine ← Compile.machine
      Compile.ofFault do
        return {
          policy := ← result.text machine
          base64 := ← result.base64 machine
          manifests := ← result.yaml machine }
  | .image reference => do
      let document ← compiler.ofImage reference
      let machine ← Compile.machine
      Compile.ofFault do
        return { policy := ← document.text machine, base64 := ← document.toBase64 machine }

namespace Invocation

/-- The settings of the configuration file that is named, or else of the environment. -/
def settings (i : Invocation) (host : Host) : Except Failure Settings := do
  let settings ← match i.config with
    | none | some "" => Settings.ofEnvironment host.machine host.files host.environment
    | some path => Settings.ofFile host.machine host.files path
  return { settings with withRuntime := i.withRuntime || settings.withRuntime }

/-- The text to compile, or the image where no file is named. -/
def source (i : Invocation) (files : Files) : Except FileProblem Source :=
  match i.input, i.image with
  | none, some reference | some "", some reference => .ok (.image reference)
  | none, none | some "", none => .error (.faulty .noFields)
  | some path, _ => .manifests <$> files.text path

def threshold (i : Invocation) : Log.Level :=
  match i.verbosity with
  | 0 => Log.Level.warning
  | 1 => Log.Level.info
  | _ => Log.Level.debug

def logStyle (i : Invocation) (host : Host) : Log.LineStyle :=
  match i.logFormat with
  | .human => .plain { coloured := host.terminal }
  | .json => .structured { showsTime := host.time.isSome }

def logText (i : Invocation) (host : Host) (wording : Wording) (events : List Event) : String :=
  let lines := Log.lines (i.logStyle host) host.machine i.threshold wording (host.time.getD "") events
  String.join (lines.map fun line => line.streamed ++ "\n")

def tell (i : Invocation) (product : Product) : String :=
  if i.verbosity = 0 then ""
  else
    "Security Policy: " ++ product.policy ++ "\nBase64 encoding: " ++ product.base64 ++
    "\nEncoding size: " ++ toString product.base64.length ++ "\n"

/-- A file that is asked for; an empty path asks for none. -/
def writing? (path : Option String) (text : String) : Option Writing :=
  match path with
  | none | some "" => none
  | some path => some { path, text }

def writings (i : Invocation) (product : Product) : List Writing :=
  [writing? i.policy product.policy, writing? i.output product.manifests].filterMap id

def compile (i : Invocation) (host : Host) (wording : Wording) (settings : Settings) (source : Source) :
    Except Fault Outcome :=
  let compiler := WorkloadCompiler.ofSettings settings
  let (r, session) := (source.compile compiler).run host.world {}
  let outcome : Outcome :=
    { errors := i.logText host wording session.events, calls := session.calls }
  match r with
  | .error (.data fault) => .error fault
  | .error (.policy e) => .ok (outcome.fail (e.message wording))
  | .ok product => .ok { outcome with output := i.tell product, writings := i.writings product }

def run (i : Invocation) (host : Host) (wording : Wording) : Except Fault Outcome :=
  match i.settings host with
  | .error (.data fault) => .error fault
  | .error (.policy e) => .ok (Outcome.fail {} (e.message wording))
  | .ok settings =>
      match i.source host.files with
      | .ok source => i.compile host wording settings source
      | .error (.faulty fault) => .error fault
      | .error (.refused refusal) =>
          let path := i.input.getD ""
          .ok (Outcome.fail {} ("cannot read " ++ path ++ ": " ++ refusal.text path))

end Invocation

end LaunchPolicy.CommandLine
