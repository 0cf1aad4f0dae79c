import LaunchPolicy.Image.Config

/-!
What a container runs and where: its own entry point, completed from its image.
-/

namespace LaunchPolicy

/-- The entry point that a container declares, each part empty when it declares none. -/
structure EntryPoint where
  workingDir : Text := ""
  command : List Text := []
  args : List Text := []
deriving DecidableEq, Repr

namespace EntryPoint

/-- The entry point of an image; a single empty text stands for none. -/
def imageCommand (image : ImageConfig) : List Text :=
  if image.entrypoint = ([""] : List Text) then [] else image.entrypoint

/-- The argument vector: a declared command replaces the image's entry point and default
arguments, declared arguments replace the default arguments alone. -/
def resolveArgs (command args : List Text) (image : ImageConfig) : Except PolicyError (List Text) :=
  let resolved :=
    if !command.isEmpty then command ++ args
    else if !args.isEmpty then imageCommand image ++ args
    else imageCommand image ++ image.cmd
  if resolved.isEmpty then .error .noCommand else .ok resolved

/-- The declared working directory, or else the image's; empty keeps the inherited one. -/
def resolveCwd (workingDir : Text) (image : ImageConfig) : Text :=
  if workingDir ≠ "" then workingDir else image.workingDir

end EntryPoint

end LaunchPolicy
