import LaunchPolicy.CommandLine.Word

/-!
What a command line asks for. Flags take effect in their order, so that the first that asks
for help or for the version ends the reading. Of a flag that is repeated the last value counts.
-/

namespace LaunchPolicy.CommandLine

/-- A compilation as it is asked for. -/
structure Invocation where
  input : Option String := none
  image : Option String := none
  output : Option String := none
  policy : Option String := none
  withRuntime : Bool := false
  config : Option String := none
  logFormat : LogFormat := .human
  verbosity : Nat := 0
deriving DecidableEq, Repr

inductive Request where
  | compile (invocation : Invocation)
  | showHelp
  | showVersion
deriving DecidableEq, Repr

/-- Why the reading of a command line ends early. -/
inductive Stop where
  | misused (problem : UsageProblem)
  | answered (request : Request)
deriving DecidableEq, Repr

abbrev Reading := Except Stop

def misuse {α : Type} (problem : UsageProblem) : Reading α := .error (.misused problem)

namespace Invocation

/-- The effect of a flag with its value, which is empty for flags that take none. -/
def apply (i : Invocation) (flag : Flag) (value : String) : Reading Invocation :=
  match flag with
  | .help => .error (.answered .showHelp)
  | .version => .error (.answered .showVersion)
  | .input =>
      if i.image.isSome then misuse (.excluded .input .image) else .ok { i with input := some value }
  | .image =>
      if i.input.isSome then misuse (.excluded .image .input) else .ok { i with image := some value }
  | .output => .ok { i with output := some value }
  | .policy => .ok { i with policy := some value }
  | .withRuntime => .ok { i with withRuntime := true }
  | .config => .ok { i with config := some value }
  | .logFormat => match LogFormat.ofName? value with
      | some logFormat => .ok { i with logFormat }
      | none => misuse (.unknownFormat value)
  | .verbose => .ok { i with verbosity := i.verbosity + 1 }

end Invocation

/-- The flags of one word with their values, the part of it that is no flag, and the words
that follow. -/
structure Taken where
  flags : List (Flag × String)
  surplus : List String := []
  rest : List Word

/-- A flag without an attached value takes the next word if it needs one. -/
def takeNext (flag : Flag) (rest : List Word) : Reading Taken :=
  if flag.takesValue then
    match rest with
    | .plain value :: rest => .ok { flags := [(flag, value)], rest }
    | _ => misuse (.valueMissing flag)
  else .ok { flags := [(flag, "")], rest }

/-- Takes the flags of a word. After a short flag without a value more short flags may
follow in the word; `fuel` bounds their number. -/
def takeFlags : Nat → Flag → String → Option Attached → List Word → Reading Taken
  | _, flag, _, none, rest => takeNext flag rest
  | 0, _, _, some _, rest => .ok { flags := [], rest }
  | fuel + 1, flag, spelling, some attached, rest =>
      if flag.takesValue then .ok { flags := [(flag, attached.text)], rest }
      else
        match attached.text.toList with
        | [] => misuse (.valueUnwanted flag attached.text)
        | letter :: tail =>
            if "--".toList.isPrefixOf spelling.toList ∨ attached.marked ∨ letter = '-' then
              misuse (.valueUnwanted flag attached.text)
            else
              let next := String.ofList ['-', letter]
              match Flag.ofSpelling? next with
              | none => .ok { flags := [(flag, "")], surplus := ["-" ++ attached.text], rest }
              | some nextFlag => do
                  let attached := match tail with
                    | [] => none
                    | '=' :: value => some ⟨true, String.ofList value⟩
                    | text => some ⟨false, String.ofList text⟩
                  let taken ← takeFlags fuel nextFlag next attached rest
                  return { taken with flags := (flag, "") :: taken.flags }

/-- Reads words in order; words that belong to no flag are kept aside. `fuel` is at least
the number of words. -/
def readWords : Nat → Invocation → List String → List Word → Reading (Invocation × List String)
  | 0, i, aside, _ => .ok (i, aside)
  | _, i, aside, [] => .ok (i, aside)
  | fuel + 1, i, aside, .flag flag spelling attached :: rest => do
      let length := (attached.map (·.text.length)).getD 0
      let taken ← takeFlags (length + 1) flag spelling attached rest
      let i ← taken.flags.foldlM (fun i entry => i.apply entry.1 entry.2) i
      readWords fuel i (aside ++ taken.surplus) taken.rest
  | fuel + 1, i, aside, word :: rest => readWords fuel i (aside ++ [word.text]) rest

def read (arguments : List String) : Reading Request := do
  let words ← (Word.ofArguments arguments).mapError .misused
  let (i, aside) ← readWords words.length {} [] words
  if i.input.isNone && i.image.isNone then misuse .nothingToCompile
  else if !aside.isEmpty then misuse (.unrecognized aside)
  else return .compile i

def Request.ofArguments (arguments : List String) : Except UsageProblem Request :=
  match read arguments with
  | .ok request | .error (.answered request) => .ok request
  | .error (.misused problem) => .error problem

end LaunchPolicy.CommandLine
