import LaunchPolicy.Error.Basic
import LaunchPolicy.Files.Basic
import LaunchPolicy.Machine
import LaunchPolicy.Settings.Basic
import LaunchPolicy.Yaml.Stream

/-!
Settings from a file: JSON when its name ends in ".json", and YAML otherwise. An empty
document holds no settings.
-/

namespace LaunchPolicy.Settings

def isJson (path : String) : Bool := ".json".toList.isSuffixOf path.toList

/-- The document of a YAML file, null where there is none. What is no YAML text fails at the first thing
that is found wrong in it. -/
def yamlDocument (machine : Machine) (octets : List UInt8) : Except Fault Value :=
  match Files.decode octets with
  | .error _ => .error (machine.garbled octets)
  | .ok text =>
      if Yaml.isText text.toList then do
        match ← Yaml.document? machine text with
        | some graph => return graph.view graph.fullDepth
        | none => return .null
      else .error (machine.garbled octets)

def documentOf (machine : Machine) (path : String) (octets : List UInt8) : Except Fault Value :=
  if isJson path then do Json.read machine.jsonRead (← Files.decode octets)
  else yamlDocument machine octets

/-- Faults of a document that are reported as the configuration's. -/
def isReported : Fault → Bool
  | .wrongType | .badValue | .noFields => true
  | _ => false

def ofDocument (machine : Machine) (path : String) (document : Value) : Except Failure Settings :=
  match document with
  | .null | .map _ =>
      match Settings.ofValue machine (if document = .null then .map [] else document) with
      | .ok settings => .ok settings
      | .error fault =>
          .error (if isReported fault then .policy (.settings (.invalid path fault)) else .data fault)
  | _ => .error (.policy (.settings (.notMapping path)))

def ofOctets (machine : Machine) (path : String) (octets : List UInt8) : Except Failure Settings :=
  match documentOf machine path octets with
  | .ok document => ofDocument machine path document
  | .error fault =>
      match fault with
      | .notJson | .notYaml => .error (.policy (.settings (.notLoaded path (.faulty fault))))
      | _ => .error (.data fault)

def ofFile (machine : Machine) (files : Files) (path : String) : Except Failure Settings :=
  let path := files.expand path
  match files.octets path with
  | .ok octets => ofOctets machine path octets
  | .error (.refused refusal) => .error (.policy (.settings (.notLoaded path (.refused refusal))))
  | .error (.faulty fault) => .error (.data fault)

end LaunchPolicy.Settings
