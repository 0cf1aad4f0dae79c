import LaunchPolicy.Files.Basic
import LaunchPolicy.Image.Config
import LaunchPolicy.Image.Reference
import LaunchPolicy.Json.Reader

/-!
How an image is inspected: the command that prints the image's document, what can come of
running it, and the configuration that its output stands for.
-/

namespace LaunchPolicy

inductive Inspection where
  | exited (status : Int) (output complaint : String)
  | timedOut
  /-- The system did not start the command. -/
  | refused (number : Int) (reason : String)
  /-- There is no such command to start: a word of it is none. -/
  | unstarted (fault : Fault)
  /-- The command was started, and its outcome was lost: it printed no text, or had no time limit. -/
  | lost (fault : Fault)
deriving DecidableEq, Repr

/-- Settings of the inspector. Parts of the command are texts only if they turn out so. -/
structure InspectorSettings where
  path : Value := .text "skopeo"
  transport : Value := .text ImageReference.defaultTransport
  registry : Value := .text ImageReference.defaultRegistry
  timeout : Value := .int 120
  extraArguments : List Value := []
deriving DecidableEq, Repr

namespace InspectorSettings

def uri (settings : InspectorSettings) (reference : Text) : Text :=
  ImageReference.uri settings.transport.plain settings.registry.plain reference

def command (settings : InspectorSettings) (uri : Text) : List Value :=
  [settings.path, .text "inspect"] ++ settings.extraArguments ++ [.text uri, .text "--config"]

end InspectorSettings

namespace Inspection

/-- The number by which the system says that there is no such file. -/
def noSuchFile : Int := 2

def isBlankText (s : String) : Bool := s.toList.all Text.isBlank

def stripped (s : String) : String := String.ofList (Text.strip s.toList)

/-- The document that an inspector printed. -/
def document (room : Nat) (uri : Text) (output : String) : Except Failure Value :=
  match Json.read room output with
  | .ok document => .ok document
  | .error .notJson => .error (.policy (.image (.notJson uri .notJson)))
  | .error fault => .error (.data fault)

/-- The configuration that an inspection tells, its document being read with room for a number of
levels. -/
def config (room : Nat) (settings : InspectorSettings) (uri : Text) (inspection : Inspection) :
    Except Failure ImageConfig :=
  match inspection with
  | .unstarted fault | .lost fault => .error (.data fault)
  | .timedOut => .error (.policy (.image (.timedOut uri settings.timeout.plain)))
  | .refused number reason =>
      if number = noSuchFile then .error (.policy (.image (.inspectorMissing settings.path.plain)))
      else
        let reason := "[Errno " ++ toString number ++ "] " ++ reason
        .error (.policy (.image (.inspectorNotRun reason)))
  | .exited status output complaint =>
      if status ≠ 0 ∨ isBlankText output then
        .error (.policy (.image (.unavailable uri (stripped complaint))))
      else
        match document room uri output with
        | .error failure => .error failure
        | .ok document@(.map _) => ImageConfig.ofValue document
        | .ok _ => .error (.policy (.image (.notDocument uri)))

end Inspection

/-! Commands as the system runs them. A command cannot be started if a word of it has no octets or a null
character, a process is waited for no longer than the clock counts, and what it prints must be UTF-8. -/

namespace Process

/-- What comes of starting a command, apart from what is made of it here. -/
inductive Ending where
  | exited (status : Int) (output complaint : List UInt8)
  /-- It did not end in time. -/
  | outlasted
  /-- The system did not start it. -/
  | refused (number : Int) (reason : String)
deriving DecidableEq, Repr

/-- The longest time limit, in seconds. -/
def longestTime : Int := 2147483

def isTooLong (timeout : Value) : Bool :=
  match timeout with
  | .int seconds => longestTime < seconds
  | _ => false

/-- Points that words of a command can have: characters, and the halves that stand for octets beyond ASCII. -/
def isEncodable : Point → Bool
  | .char _ => true
  | .half (.high _) => false
  | .half (.low n) => 0x80 ≤ n.val && n.val < 0x100

/-- Why a word is none of a command, if it is none. -/
def wordFault? (word : Text) : Option Fault :=
  if !word.points.all isEncodable then some .unencodable
  else if word.points.contains (.char '\x00') then some .badValue
  else none

def Ending.inspection : Ending → Inspection
  | .outlasted => .timedOut
  | .refused number reason => .refused number reason
  | .exited status output complaint =>
      match Files.decode output, Files.decode complaint with
      | .ok output, .ok complaint => .exited status output complaint
      | .error fault, _ | _, .error fault => .lost fault

/-- Runs a command within a time limit. -/
def run (start : List Text → Ending) (words : List Text) (timeout : Value) : Inspection :=
  match words.findSome? wordFault? with
  | some fault => .unstarted fault
  | none =>
      match start words with
      | .refused number reason => .refused number reason
      | ending => if isTooLong timeout then .lost .overflow else ending.inspection

end Process

/-- The inspections of images by their URIs, when the inspector's command is run. -/
def InspectorSettings.inspections (settings : InspectorSettings) (start : List Text → Process.Ending)
    (uri : Text) : Inspection :=
  Process.run start ((settings.command uri).filterMap Value.text?) settings.timeout

end LaunchPolicy
