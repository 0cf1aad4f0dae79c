import LaunchPolicy.Session.Basic

/-!
Fetching the configuration of an image from its registry.
-/

namespace LaunchPolicy.InspectorSettings

/-- Notes and runs the inspection command, whose words must be texts. -/
def fetch (settings : InspectorSettings) (reference : Text) : Compile ImageConfig := do
  let uri := settings.uri reference
  let command := settings.command uri
  match command.mapM Value.text? with
  | none => Compile.ofFault (.error .wrongType)
  | some words => do
      Compile.note (.inspecting words)
      Compile.ask (.inspect command settings.timeout)
      let world ← read
      Compile.ofExcept ((world.inspect uri).config world.machine.jsonRead settings uri)

end LaunchPolicy.InspectorSettings
