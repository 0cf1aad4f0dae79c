import LaunchPolicy.Machine
import LaunchPolicy.Yaml.Node.Grammar
import LaunchPolicy.Yaml.Node.Graph
import LaunchPolicy.Yaml.Token.Stream

/-!
The documents of a YAML text.
-/

namespace LaunchPolicy.Yaml

/-- Documents up to the end of the stream. Each is complete before the next is begun, so the
first fault in the order of the text counts. -/
def documentsFrom (machine : Machine) : Nat → Compose (Option Written) → Composing → Except Fault (List Graph)
  | 0, _, _ => .error .notYaml
  | fuel + 1, next?, state => do
      match ← next?.run state with
      | (none, _) => return []
      | (some written, state) =>
          let graph ← written.graph machine
          return graph :: (← documentsFrom machine fuel Compose.markedDocument? state)

def documents (machine : Machine) (text : String) : Except Fault (List Graph) :=
  let cs := text.toList
  if isText cs then
    let tokens := Tokens.ofText cs
    documentsFrom machine (tokens.items.length + 2) Compose.firstDocument?
      (Composing.start machine.yamlRead tokens)
  else .error .notYaml

/-- The only document of a text, which may have none. -/
def document? (machine : Machine) (text : String) : Except Fault (Option Graph) := do
  let cs := text.toList
  if isText cs then
    match ← Compose.firstDocument?.run (Composing.start machine.yamlRead (Tokens.ofText cs)) with
    | (none, _) => return none
    | (some written, state) =>
        match ← Compose.atEnd.run state with
        | (true, _) => return some (← written.graph machine)
        | (false, _) => throw .notYaml
  else throw .notYaml

end LaunchPolicy.Yaml
