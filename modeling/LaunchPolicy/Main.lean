import LaunchPolicy.CommandLine.Run

/-!
The command line program. It reads the files and variables that a run can ask for, runs,
and writes what the run leaves. It starts no other program: images are not inspected, and no
cluster is reached.
-/

namespace LaunchPolicy.CommandLine

/-- Nothing outside the files can be asked. -/
def closedWorld : World where
  inspect _ := .refused Inspection.noSuchFile ""
  clusterFailure := some "no cluster"
  configMap _ _ := .refused "no cluster"

/-- The contents of a file, or why they cannot be read. -/
def readOctets (path : String) : IO (Except FileProblem (List UInt8)) := do
  try
    return .ok (← IO.FS.readBinFile path).toList
  catch
    | .noFileOrDirectory .. => return .error (.refused .missing)
    | .inappropriateType .. => return .error (.refused .isDirectory)
    | e => throw e

def readFiles (home : String) (paths : List String) : IO Files := do
  let found ← paths.mapM fun path => do return (path, ← readOctets path)
  return { home, octets := fun path => ((found.find? (·.1 = path)).map (·.2)).getD (.error (.refused .missing)) }

/-- The paths that an invocation may read. -/
def Invocation.paths (i : Invocation) (environment : Environment) (home : String) : List String :=
  let expand := Files.expand { home, octets := fun _ => .error (.refused .missing) }
  i.input.toList ++ (i.config.toList ++ (environment "CCPOLICY_CONFIG_FILE").toList).map expand

def readEnvironment : IO Environment := do
  let found ← Settings.names.mapM fun name => do return (name, ← IO.getEnv name)
  return fun name => (found.find? (·.1 = name)).bind (·.2)

def writeFiles (outcome : Outcome) : List Writing → IO Outcome
  | [] => return outcome
  | writing :: rest => do
      try
        IO.FS.writeFile writing.path writing.text
        writeFiles (outcome.wrote writing) rest
      catch e => return outcome.fail e.toString

def compileFiles (i : Invocation) : IO UInt32 := do
  let environment ← readEnvironment
  let home := (← IO.getEnv "HOME").getD "/"
  let files ← readFiles home (i.paths environment home)
  let terminal ← (← IO.getStderr).isTty
  let host : Host := { files, environment, world := closedWorld, terminal }
  match i.run host Fault.text with
  | .ok outcome =>
      let outcome ← writeFiles { outcome with writings := [] } outcome.writings
      IO.print outcome.output
      IO.eprint outcome.errors
      return outcome.exit.toUInt32
  | .error fault =>
      IO.eprintln fault.text.streamed
      return 1

end LaunchPolicy.CommandLine

open LaunchPolicy.CommandLine in
def main (arguments : List String) : IO UInt32 := do
  match Request.ofArguments arguments with
  | .ok (.compile i) => compileFiles i
  | .ok .showHelp =>
      IO.print helpText
      return 0
  | .ok .showVersion =>
      IO.print versionText
      return 0
  | .error problem =>
      IO.eprint usageText
      IO.eprintln problem.report
      return 2
