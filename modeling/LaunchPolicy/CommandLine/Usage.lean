import LaunchPolicy.CommandLine.Flag
import LaunchPolicy.Value.Display

/-!
Help on the command line, and reports of its misuse.
-/

namespace LaunchPolicy.CommandLine

inductive UsageProblem where
  /-- A flag is cut so short that it could be one of several. -/
  | ambiguous (given : String) (candidates : List String)
  | valueMissing (flag : Flag)
  | valueUnwanted (flag : Flag) (value : String)
  | unknownFormat (value : String)
  /-- Two flags exclude each other. -/
  | excluded (flag other : Flag)
  | nothingToCompile
  | unrecognized (arguments : List String)
deriving DecidableEq, Repr

namespace UsageProblem

private def about (flag : Flag) (text : String) : String := "argument " ++ flag.title ++ ": " ++ text

def text : UsageProblem → String
  | .ambiguous given candidates =>
      "ambiguous option: " ++ given ++ " could match " ++ ", ".intercalate candidates
  | .valueMissing flag => about flag "expected one argument"
  | .valueUnwanted flag value => about flag ("ignored explicit argument " ++ Scalar.quoted (.text value))
  | .unknownFormat value =>
      let names := LogFormat.all.map fun format => Scalar.quoted (.text format.name)
      about .logFormat ("invalid choice: " ++ Scalar.quoted (.text value) ++ " (choose from " ++
        ", ".intercalate names ++ ")")
  | .excluded flag other => about flag ("not allowed with argument " ++ other.title)
  | .nothingToCompile =>
      "one of the arguments " ++ Flag.input.title ++ " " ++ Flag.image.title ++ " is required"
  | .unrecognized arguments => "unrecognized arguments: " ++ " ".intercalate arguments

end UsageProblem

def programName : String := "ccpolicy"

def programVersion : String := "0.1.0"

def versionText : String := programName ++ " " ++ programVersion ++ "\n"

def usageText : String :=
  "usage: ccpolicy [-h] [--version] (-i INPUT_YAML | --image-ref IMAGE_REF)\n" ++
  "                [-o OUTPUT_YAML] [-p OUTPUT_POLICY] [--with-default-rules]\n" ++
  "                [--config CONFIG] [--log-format \x7bhuman,json\x7d] [-v]\n"

def helpText : String :=
  usageText ++ "\n" ++
  "Compile confidential container security policies from Kubernetes manifests\n\n" ++
  "options:\n" ++
  "  -h, --help            show this help message and exit\n" ++
  "  --version             show program's version number and exit\n" ++
  "  -i INPUT_YAML, --input INPUT_YAML\n" ++
  "                        Workload manifest (YAML, may hold several documents)\n" ++
  "  --image-ref IMAGE_REF, --image_ref IMAGE_REF\n" ++
  "                        Compile a policy for a single image instead of a\n" ++
  "                        manifest\n" ++
  "  -o OUTPUT_YAML, --output OUTPUT_YAML\n" ++
  "                        Write the manifest with the policy annotation to this\n" ++
  "                        file\n" ++
  "  -p OUTPUT_POLICY, --policy OUTPUT_POLICY\n" ++
  "                        Write the policy documents (JSON) to this file\n" ++
  "  --with-default-rules, --with_default_rules\n" ++
  "                        Include container runtime defaults and the sandbox\n" ++
  "                        policy\n" ++
  "  --config CONFIG       Configuration file (JSON or YAML)\n" ++
  "  --log-format \x7bhuman,json\x7d\n" ++
  "                        Log output format (default: human)\n" ++
  "  -v, --verbose         Print the compiled policy; repeat for debug logs\n\n" ++
  "Examples:\n" ++
  "  ccpolicy -i pod.yaml -o pod-with-policy.yaml\n" ++
  "  ccpolicy -i deployment.yaml -p policy.json --with-default-rules\n" ++
  "  ccpolicy --image-ref nginx:1.25 -v\n"

def UsageProblem.report (problem : UsageProblem) : String := programName ++ ": error: " ++ problem.text

end LaunchPolicy.CommandLine
