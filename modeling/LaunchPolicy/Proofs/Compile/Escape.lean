import LaunchPolicy.Proofs.Compile.Stream

/-!
What escapes from the compilation of a stream. Where the settings are texts, a fault that is no
reported error comes from a reference whose names cannot be listed in the report, or from an inspection
of an image that comes to no image and no problem of one.
-/

namespace LaunchPolicy

namespace WorkloadCompiler

variable {compiler : WorkloadCompiler} {world : World} {session after : Session} {fault : Fault}

/-- The failure of a run, if it fails. -/
def failure? {α : Type} (outcome : Except Failure α × Session) : Option Failure :=
  match outcome.1 with
  | .ok _ => none
  | .error failure => some failure

theorem run_of_failure {α : Type} {outcome : Except Failure α × Session} {failure : Failure}
    (failed : failure? outcome = some failure) : outcome = (.error failure, outcome.2) := by
  obtain ⟨r, after⟩ := outcome
  cases r with
  | ok a => contradiction
  | error other => rw [Option.some.inj failed]

end WorkloadCompiler

end LaunchPolicy
