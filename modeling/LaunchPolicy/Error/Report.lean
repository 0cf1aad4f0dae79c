import LaunchPolicy.Value.Arguments
import LaunchPolicy.Value.Coerce

/-!
Error reports: a kind, the message shown to people, and the attributes kept for programs.
A report about a manifest puts the path of the field in front of its message, a report
about another service puts that service's own diagnostic behind it.
-/

namespace LaunchPolicy

inductive ErrorKind where
  | policy
  | ruleTemplate
  | settings
  | noCommand
  | manifest
  | unsupportedKind
  | unsupportedReference
  | volumeNotFound
  | mountPropagation
  | collaborator
  | imageInspect
  | configMapLookup
deriving DecidableEq, Repr

namespace ErrorKind

def all : List ErrorKind :=
  [.policy, .ruleTemplate, .settings, .noCommand, .manifest, .unsupportedKind, .unsupportedReference,
    .volumeNotFound, .mountPropagation, .collaborator, .imageInspect, .configMapLookup]

/-- The kinds that a kind is a case of, itself first and the most general last. -/
def lineage : ErrorKind → List ErrorKind
  | .policy => [.policy]
  | .unsupportedKind => [.unsupportedKind, .manifest, .policy]
  | .unsupportedReference => [.unsupportedReference, .manifest, .policy]
  | .volumeNotFound => [.volumeNotFound, .manifest, .policy]
  | .mountPropagation => [.mountPropagation, .manifest, .policy]
  | .imageInspect => [.imageInspect, .collaborator, .policy]
  | .configMapLookup => [.configMapLookup, .collaborator, .policy]
  | kind => [kind, .policy]

theorem mem_all (kind : ErrorKind) : kind ∈ all := by cases kind <;> simp [all]

end ErrorKind

structure Report where
  kind : ErrorKind
  message : Text
  attributes : List (Text × Value) := []
deriving DecidableEq, Repr

namespace Report

/-- A path before its message; a path that is absent or empty is left out. -/
def withPath (path : Value) (message : Text) : Text :=
  if path.truthy then path.plain ++ ": " ++ message else message

/-- A diagnostic after its message, unless it is empty. -/
def withDiagnostic (message : Text) (diagnostic : Value) : Text :=
  if diagnostic.truthy then message ++ ": " ++ diagnostic.plain else message

def manifest (kind : ErrorKind) (message path : Value) : Report :=
  { kind, message := withPath path message.plain, attributes := [("field_path", path)] }

def unsupportedKind (workload : Value) : Report :=
  { kind := .unsupportedKind
    message := withPath (.text "kind") ("unsupported kind: " ++ workload.plain)
    attributes := [("field_path", .text "kind"), ("kind", workload)] }

def collaborator (kind : ErrorKind) (message diagnostic : Value) : Report :=
  { kind, message := withDiagnostic message.plain diagnostic, attributes := [("diagnostic", diagnostic)] }

/-- The text of free arguments: none is empty, one is itself, more stand in parentheses. -/
def freeText : List Value → Text
  | [] => ""
  | [v] => v.plain
  | vs => "(" ++ (", ".intercalate (vs.map Value.quoted) : String) ++ ")"

def ofArguments (kind : ErrorKind) (arguments : Arguments) : Except Fault Report :=
  match kind with
  | .policy | .ruleTemplate | .settings =>
      if arguments.named.isEmpty then .ok { kind, message := freeText arguments.positional }
      else .error .wrongType
  | .noCommand => do
      let _ ← arguments.bind []
      return { kind, message := "no command specified" }
  | .unsupportedKind => do
      match ← arguments.bind [{ name := "kind" }] with
      | [workload] => return unsupportedKind workload
      | _ => throw .wrongType
  | .manifest | .unsupportedReference | .volumeNotFound | .mountPropagation => do
      match ← arguments.bind [{ name := "message" }, { name := "field_path", default := some .null }] with
      | [message, path] => return manifest kind message path
      | _ => throw .wrongType
  | .collaborator | .imageInspect | .configMapLookup => do
      match ← arguments.bind [{ name := "message" }, { name := "diagnostic", default := some (.text "") }] with
      | [message, diagnostic] => return collaborator kind message diagnostic
      | _ => throw .wrongType

end Report

end LaunchPolicy
