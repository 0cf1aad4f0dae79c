/-!
The flags of the command line, and what can be wrong with their use.
-/

namespace LaunchPolicy.CommandLine

inductive Flag where
  | help
  | version
  | input
  | image
  | output
  | policy
  | withRuntime
  | config
  | logFormat
  | verbose
deriving DecidableEq, Repr

namespace Flag

def all : List Flag :=
  [.help, .version, .input, .image, .output, .policy, .withRuntime, .config, .logFormat, .verbose]

theorem mem_all (flag : Flag) : flag ∈ all := by cases flag <;> simp [all]

def spellings : Flag → List String
  | .help => ["-h", "--help"]
  | .version => ["--version"]
  | .input => ["-i", "--input"]
  | .image => ["--image-ref", "--image_ref"]
  | .output => ["-o", "--output"]
  | .policy => ["-p", "--policy"]
  | .withRuntime => ["--with-default-rules", "--with_default_rules"]
  | .config => ["--config"]
  | .logFormat => ["--log-format"]
  | .verbose => ["-v", "--verbose"]

def takesValue : Flag → Bool
  | .help | .version | .withRuntime | .verbose => false
  | _ => true

/-- All spellings of a flag, as reports name it. -/
def title (flag : Flag) : String := "/".intercalate flag.spellings

def table : List (String × Flag) := all.flatMap fun flag => flag.spellings.map fun s => (s, flag)

def ofSpelling? (spelling : String) : Option Flag := (table.find? (·.1 = spelling)).map (·.2)

theorem of_spelling_of_mem (flag : Flag) : ∀ s ∈ flag.spellings, ofSpelling? s = some flag := by
  cases flag <;> decide

end Flag

inductive LogFormat where
  | human
  | json
deriving DecidableEq, Repr

namespace LogFormat

def all : List LogFormat := [.human, .json]

def name : LogFormat → String
  | .human => "human"
  | .json => "json"

def ofName? (name : String) : Option LogFormat := all.find? (·.name = name)

end LogFormat

end LaunchPolicy.CommandLine
