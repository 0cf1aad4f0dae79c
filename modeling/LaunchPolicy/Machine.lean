import LaunchPolicy.Fault
import LaunchPolicy.Yaml.Graph

/-!
What the program runs on, as far as documents can tell: how many collections within each other it
follows before it gives up, in which order it goes through a set, and what it makes of a file that is
no text all the way.
-/

namespace LaunchPolicy

/-- What is wrong with octets that are no YAML text, if nothing else in them is. -/
def garbledFault (octets : List UInt8) : Fault :=
  if (String.fromUTF8? ⟨octets.toArray⟩).isNone then .notUtf8 else .notYaml

theorem garbled_fault_cases (octets : List UInt8) :
    garbledFault octets ∈ [.notUtf8, .notYaml, .overflow, .badValue, .tooDeep] := by
  rw [garbledFault]
  split <;> simp

structure Machine where
  /-- Levels of nesting down to which JSON is read. -/
  jsonRead : Nat := 900
  jsonWritten : Nat := 900
  yamlRead : Nat := 400
  yamlWritten : Nat := 300
  /-- Levels of nesting down to which a value is shown in a text. -/
  shown : Nat := 900
  /-- The order of the members of a set, given the order in which they were put into it. -/
  arrange : List Yaml.Key → List Yaml.Key := id
  /-- What is found wrong first with octets that are no YAML text: they are read in blocks, so that what
  stands before may count. -/
  garbled : List UInt8 → Fault := garbledFault
  /-- Policies can be read and written. -/
  follows : 8 ≤ jsonRead ∧ 8 ≤ jsonWritten := by decide
  /-- A fault of a document or its undecodable octets. -/
  garbled_cases (octets : List UInt8) :
      garbled octets ∈ [.notUtf8, .notYaml, .overflow, .badValue, .tooDeep] := by
    exact garbled_fault_cases
  arrange_perm (members : List Yaml.Key) : (arrange members).Perm members := by
    intro members
    exact .refl members

def Machine.standard : Machine := {}

end LaunchPolicy
