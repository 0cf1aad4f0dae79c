import LaunchPolicy.Error.Basic
import LaunchPolicy.Policy.Spec
import LaunchPolicy.Rules.SharedPath

/-!
The configuration of an image: what it runs, where, with which environment and volumes.
Fields that are absent or empty in any way count as not declared.
-/

namespace LaunchPolicy

structure ImageConfig where
  entrypoint : List Text := []
  cmd : List Text := []
  workingDir : Text := ""
  env : List Text := []
  volumes : List Text := []
deriving DecidableEq, Repr

namespace ImageConfig

/-- The field of a section, the default where it is absent or empty in any way. -/
def declared (config : Value) (name : String) (default : Value) : Value :=
  let value := (config.get? name).getD .null
  if value.truthy then value else default

def declaredTexts (config : Value) (name : String) : Except Failure (List Text) :=
  match (declared config name (.list [])).texts? with
  | some texts => .ok texts
  | none => .error (.policy (.image (.notTexts name)))

/-- The keys of a mapping whose keys are all texts. -/
def textKeys? : Value → Option (List Text)
  | .map fields => fields.mapM fun field => Value.text? (.scalar field.1)
  | _ => none

def ofValue (document : Value) : Except Failure ImageConfig :=
  match document with
  | .map _ =>
      match declared document "config" (.map []) with
      | config@(.map _) =>
          match declared config "WorkingDir" (.text "") with
          | .text workingDir =>
              match textKeys? (declared config "Volumes" (.map [])) with
              | none => .error (.policy (.image .volumesNotMapping))
              | some volumes => do
                  let entrypoint ← declaredTexts config "Entrypoint"
                  let cmd ← declaredTexts config "Cmd"
                  let env ← declaredTexts config "Env"
                  return { entrypoint, cmd, workingDir, env, volumes }
          | _ => .error (.policy (.image .workingDirNotText))
      | _ => .error (.policy (.image .configNotMapping))
  | _ => .error (.data .noFields)

def toValue (config : ImageConfig) : Value :=
  .object [("config", .object
    [("Entrypoint", .texts config.entrypoint), ("Cmd", .texts config.cmd),
     ("WorkingDir", .text config.workingDir), ("Env", .texts config.env),
     ("Volumes", .object (config.volumes.map fun volume => (volume, .map [])))])]

/-- Each declared variable between anchors. -/
def envRules (config : ImageConfig) : List Text := config.env.map fun entry => "^" ++ entry ++ "$"

/-- The last segment of a path, trailing slashes not counted. -/
def lastSegment (path : Text) : Text :=
  Text.ofPoints ((path.points.reverse.dropWhile (· = .char '/')).takeWhile (· ≠ .char '/')).reverse

/-- A writable bind mount for a declared volume. -/
def volumeMount (volume : Text) : Mount where
  destination := .text volume
  source := .text (sharedContainerPath ++ lastSegment volume ++ "$")
  type := .text "bind"
  options := ["rbind", "rprivate", "rw"]

def volumeMounts (config : ImageConfig) : List Mount := config.volumes.map volumeMount

end ImageConfig

end LaunchPolicy
