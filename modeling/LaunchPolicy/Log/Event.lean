import LaunchPolicy.Log.Message
import LaunchPolicy.Session.Basic

/-!
The log records of a compilation, in the order of its events.
-/

namespace LaunchPolicy

open Log (Level Record)

namespace Event

open Log.Message (remark)

def source : Event → String
  | .extracted .. => "ccpolicy.manifest.workload"
  | .inspecting .. => "ccpolicy.image.registry"
  | .readingConfigMap .. => "ccpolicy.cluster.configmap"
  | .madeWritable .. => "ccpolicy.engine.merge"
  | .buildingSandbox .. => "ccpolicy.compiler.builder"
  | .annotated .. => "ccpolicy.manifest.annotate"
  | _ => "ccpolicy.compiler.assembler"

/-- What is logged of an event, errors being worded as told. -/
def message (wording : Wording) : Event → Log.Message
  | .extracted kind workload containers initContainers volumes =>
      remark ("Extracted " ++ kind ++ " " ++ workload ++ ": " ++ toString containers ++
        " containers, " ++ toString initContainers ++ " init containers, " ++ toString volumes ++ " volumes")
  | .inspecting command => remark ("Running skopeo: " ++ Text.intercalate " " command)
  | .readingConfigMap space map => remark ("Reading configMap " ++ space ++ "/" ++ map)
  | .madeWritable destination => remark ("Privileged mode: " ++ destination.plain ++ " is writable")
  | .buildingSandbox image => remark ("Building sandbox policy from " ++ image)
  | .annotated kind size =>
      remark ("Injected policy annotation into " ++ kind ++ " (" ++ toString size ++ " bytes)")
  | .documentStarted kind workload => Log.Message.documentStarted (.text kind) (.text workload)
  | .containerCompiled container args env mounts =>
      Log.Message.containerCompiled (.text container) (.int args) (.int env) (.int mounts)
  | .documentCompiled kind workload containers =>
      Log.Message.documentCompiled (.text kind) (.text workload) (.int containers)
  | .documentSkipped index reason => Log.Message.documentSkipped (.int index) (.text (reason.message wording))
  | .documentFailed kind workload reason =>
      Log.Message.documentFailed (.text kind) (.text workload) (.text (reason.message wording))

def record (wording : Wording) (time : String) (event : Event) : Record :=
  let message := event.message wording
  { logger := event.source, level := message.level, message := message.text, time,
    fields := message.fields }

end Event

namespace Log

/-- The lines of the events that matter enough. -/
def lines (style : LineStyle) (machine : Machine) (threshold : Level) (wording : Wording) (time : String)
    (events : List Event) : List Text :=
  ((events.map (Event.record wording time)).filter fun r => threshold ≤ r.level).filterMap fun r =>
    (style.line machine r).toOption

end Log

end LaunchPolicy
