import LaunchPolicy.Compile.Workload
import LaunchPolicy.Manifest.SharedAnnotation
import LaunchPolicy.Yaml.Stream
import LaunchPolicy.Yaml.Writer

/-!
Streams of manifests. Each supported document is compiled and gets its policy as an
annotation; empty documents and documents of other kinds pass unchanged. The order of the
stream is kept.
-/

namespace LaunchPolicy

/-- Documents that are read as trees and can be annotated. -/
class ManifestDocument (D : Type) where
  view : D → Value
  annotate : WorkloadKind → String → D → Except Failure D

instance : ManifestDocument Value where
  view document := document
  annotate kind policy document := Manifest.annotateValue document kind policy

/-- The depth to which a manifest is read; no field that matters is as deep. -/
def manifestDepth : Nat := 16

instance : ManifestDocument Yaml.Graph where
  view document := document.view manifestDepth
  annotate kind policy document := (document.annotate kind policy).mapError .policy

/-- The documents of a stream after compilation, and the policies of the supported ones. -/
structure StreamResult (D : Type) where
  policies : List PolicyDocument := []
  documents : List D := []

namespace StreamResult

variable {D : Type}

def text (machine : Machine) (result : StreamResult D) : Except Fault String := do
  return "\n".intercalate (← result.policies.mapM (PolicyDocument.text machine))

def base64 (machine : Machine) (result : StreamResult D) : Except Fault String := do
  return "\n".intercalate (← result.policies.mapM (PolicyDocument.toBase64 machine))

def yaml (machine : Machine) (result : StreamResult Yaml.Graph) : Except Fault String :=
  Yaml.write machine.yamlWritten result.documents

end StreamResult

namespace WorkloadCompiler

variable {D : Type} [ManifestDocument D]

/-- Compiles the document at a place of the stream, unless its kind has no policy. -/
def compile? (compiler : WorkloadCompiler) (index : Nat) (manifest : Value) :
    Compile (Option (Workload × PolicyDocument)) :=
  tryCatch (some <$> compiler.ofManifest manifest) fun failure => do
    match failure with
    | .policy reason =>
        if reason.isUnsupportedKind then
          Compile.note (.documentSkipped index reason)
          return none
        else throw failure
    | .data _ => throw failure

/-- Compiles and annotates the document at a place of the stream. -/
def streamDocument (compiler : WorkloadCompiler) (index : Nat) (document : D) :
    Compile (D × Option PolicyDocument) := do
  match ManifestDocument.view document with
  | .null => return (document, none)
  | manifest =>
      match ← compiler.compile? index manifest with
      | none => return (document, none)
      | some (workload, policy) =>
          let encoded ← Compile.ofFault (policy.toBase64 (← Compile.machine))
          let annotated ← Compile.ofExcept (ManifestDocument.annotate workload.kind encoded document)
          Compile.note (.annotated workload.kind.name encoded.length)
          return (annotated, some policy)

def stream (compiler : WorkloadCompiler) (documents : List D) : Compile (StreamResult D) := do
  let compiled ← documents.zipIdx.mapM fun (document, index) => compiler.streamDocument index document
  return { policies := compiled.filterMap (·.2), documents := compiled.map (·.1) }

def readStream (machine : Machine) (text : String) : Except Failure (List Yaml.Graph) :=
  match Yaml.documents machine text with
  | .ok documents => .ok documents
  | .error .notYaml => .error (.policy (.manifest ⟨.unreadable .notYaml, none⟩))
  | .error fault => .error (.data fault)

def streamText (compiler : WorkloadCompiler) (text : String) : Compile (StreamResult Yaml.Graph) := do
  compiler.stream (← Compile.ofExcept (readStream (← Compile.machine) text))

end WorkloadCompiler

end LaunchPolicy
