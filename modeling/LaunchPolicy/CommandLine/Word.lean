import LaunchPolicy.CommandLine.Usage
import LaunchPolicy.Text.Numeral

/-!
The words of a command line. A word is a flag, in full or cut short but unmistakable,
perhaps with a value attached, or it is a value. Negative numbers and words with spaces are
values, and so is every word after a double dash.
-/

namespace LaunchPolicy.CommandLine

/-- A value in the same word as its flag; marked when an equals sign stands between them. -/
structure Attached where
  marked : Bool
  text : String
deriving DecidableEq, Repr

inductive Word where
  | plain (text : String)
  | separator
  | flag (flag : Flag) (spelling : String) (attached : Option Attached)
  | unknown (text : String)
deriving DecidableEq, Repr

namespace Word

/-- The word as it was written, for those that are no flags. -/
def text : Word → String
  | .plain text | .unknown text => text
  | .separator => "--"
  | .flag _ spelling _ => spelling

/-- The parts before and after the first equals sign, if there is one. -/
def splitMark (cs : List Char) : List Char × Option (List Char) :=
  match cs.dropWhile (· ≠ '=') with
  | _ :: rest => (cs.takeWhile (· ≠ '='), some rest)
  | [] => (cs, none)

/-- A minus sign and a number, perhaps with a line feed at the end. -/
def isNegativeNumber (cs : List Char) : Bool :=
  let cs := if cs.getLast? = some '\n' then cs.dropLast else cs
  let isDigit (c : Char) : Bool := (Text.digitValue? c).isSome
  match cs with
  | '-' :: number =>
      match number.dropWhile isDigit with
      | [] => !number.isEmpty
      | '.' :: places => !places.isEmpty && places.all isDigit
      | _ => false
  | _ => false

/-- The flags that a word with one or two dashes could stand for. -/
def candidates (cs : List Char) : List Word :=
  if "--".toList.isPrefixOf cs then
    let (start, value) := splitMark cs
    let attached := value.map fun text => ⟨true, String.ofList text⟩
    (Flag.table.filter fun entry => start.isPrefixOf entry.1.toList).map fun entry =>
      .flag entry.2 entry.1 attached
  else
    (Flag.table.filter fun entry => entry.1.toList = cs.take 2).map fun entry =>
      .flag entry.2 entry.1 (some ⟨false, String.ofList (cs.drop 2)⟩)

/-- A word with a flag in full before an equals sign. -/
def marked? (cs : List Char) : Option Word :=
  match splitMark cs with
  | (start, some value) =>
      (Flag.ofSpelling? (String.ofList start)).map fun known =>
        .flag known (String.ofList start) (some ⟨true, String.ofList value⟩)
  | (_, none) => none

def ofCandidates (text : String) : List Word → Except UsageProblem Word
  | [word] => .ok word
  | [] =>
      if isNegativeNumber text.toList ∨ text.toList.contains ' ' then .ok (.plain text)
      else .ok (.unknown text)
  | words => .error (.ambiguous text (words.map Word.text))

def ofText (text : String) : Except UsageProblem Word :=
  if text.toList.head? ≠ some '-' then .ok (.plain text)
  else
    match Flag.ofSpelling? text with
    | some known => .ok (.flag known text none)
    | none =>
        if text = "-" then .ok (.plain text)
        else
          match marked? text.toList with
          | some word => .ok word
          | none => ofCandidates text (candidates text.toList)

def ofArguments : List String → Except UsageProblem (List Word)
  | [] => .ok []
  | text :: rest =>
      if text = "--" then .ok (.separator :: rest.map .plain)
      else do
        let word ← ofText text
        return word :: (← ofArguments rest)

end Word

end LaunchPolicy.CommandLine
