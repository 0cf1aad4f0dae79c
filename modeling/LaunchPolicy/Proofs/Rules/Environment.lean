import LaunchPolicy.Proofs.Policy.Variable
import LaunchPolicy.Rules.Kubelet
import LaunchPolicy.Rules.Runtime

/-!
The environment rules of the runtime and the kubelet by their names and values.
-/

namespace LaunchPolicy

namespace Env

def ofParts (parts : List (Text × Text)) : List Text :=
  parts.map fun part => part.1 ++ "=" ++ part.2

theorem names_of_parts {parts : List (Text × Text)}
    (plain : ∀ part ∈ parts, Point.char '=' ∉ part.1.points) :
    (ofParts parts).map name = parts.map (·.1) := by
  rw [ofParts, List.map_map]
  exact List.map_congr_left fun part member => name_literal (plain part member) part.2

/-- Rules that no entry of an image removes: an entry without a value asks for the removal of a
name that ends in the closing anchor. -/
def Lasting (rules : List Text) : Prop :=
  ∀ rule ∈ rules, hasValue rule = true ∧ (name rule).points.getLast? ≠ some (.char '$')

theorem lasting_of_parts {parts : List (Text × Text)}
    (plain : ∀ part ∈ parts, Point.char '=' ∉ part.1.points)
    (open_ : ∀ part ∈ parts, part.1.points.getLast? ≠ some (.char '$')) : Lasting (ofParts parts) := by
  intro rule member
  obtain ⟨part, within, rfl⟩ := List.mem_map.mp member
  rw [name_literal (plain part within)]
  exact ⟨has_value_literal part.1 part.2, open_ part within⟩

end Env

namespace Kubelet

def serviceParts : List (Text × Text) :=
  [("^[A-Z0-9_]+_SERVICE_HOST", addressPattern ++ "$"),
   ("^[A-Z0-9_]+_SERVICE_PORT", "[0-9]+"),
   ("^[A-Z0-9_]+_SERVICE_PORT_[A-Z]+", "[0-9]+"),
   ("^[A-Z0-9_]+_SERVICE_PORT_[A-Z0-9_]+", "[0-9]+"),
   ("^[A-Z0-9_]+_PORT", "[a-z]+://" ++ addressPattern ++ ":[0-9]+"),
   ("^[A-Z0-9_]+_PORT_[0-9]+_[A-Z]+", "[a-z]+://" ++ addressPattern ++ ":[0-9]+"),
   ("^[A-Z0-9_]+_PORT_[0-9]+_[A-Z]+_PROTO", "[a-z]+"),
   ("^[A-Z0-9_]+_PORT_[0-9]+_[A-Z]+_PORT", "[0-9]+"),
   ("^[A-Z0-9_]+_PORT_[0-9]+_[A-Z]+_ADDR", addressPattern ++ "$")]

theorem service_env_eq_parts : serviceEnv = Env.ofParts serviceParts := by
  simp [serviceEnv, serviceParts, Env.ofParts, ← String.append_assoc]

private theorem service_names : ∀ part ∈ serviceParts,
    Point.char '=' ∉ part.1.points ∧ part.1.points.getLast? ≠ some (.char '$') ∧
      part.1.points.head? = some (.char '^') := by
  decide

theorem service_env_names : serviceEnv.map Env.name = serviceParts.map (·.1) := by
  rw [service_env_eq_parts, Env.names_of_parts fun part member => (service_names part member).1]

theorem service_env_lasting : Env.Lasting serviceEnv := by
  rw [service_env_eq_parts]
  exact Env.lasting_of_parts (fun part member => (service_names part member).1)
    fun part member => (service_names part member).2.1

theorem service_env_patterns : ∀ n ∈ serviceEnv.map Env.name, n.points.head? = some (.char '^') := by
  rw [service_env_names]
  intro n member
  obtain ⟨part, within, rfl⟩ := List.mem_map.mp member
  exact (service_names part within).2.2

end Kubelet

namespace Runtime

def containerParts (tty : Bool) : List (Text × Text) :=
  ("^HOSTNAME", ".+") ::
   ("^PATH", "/usr/local/sbin:/usr/local/bin:/usr/sbin:/usr/bin:/sbin:/bin$") ::
    if tty then [("TERM", "xterm")] else []

theorem container_env_eq_parts (tty : Bool) : containerEnv tty = Env.ofParts (containerParts tty) := by
  cases tty <;> simp [containerEnv, hostnameEnv, pathEnv, termEnv, containerParts, Env.ofParts]

private theorem container_names (tty : Bool) : ∀ part ∈ containerParts tty,
    Point.char '=' ∉ part.1.points ∧ part.1.points.getLast? ≠ some (.char '$') := by
  cases tty <;> decide

theorem container_env_names (tty : Bool) :
    (containerEnv tty).map Env.name = (containerParts tty).map (·.1) := by
  rw [container_env_eq_parts, Env.names_of_parts fun part member => (container_names tty part member).1]

theorem container_env_lasting (tty : Bool) : Env.Lasting (containerEnv tty) := by
  rw [container_env_eq_parts]
  exact Env.lasting_of_parts (fun part member => (container_names tty part member).1)
    fun part member => (container_names tty part member).2

end Runtime

/-- No two rules of the runtime and the kubelet have one name. -/
theorem lower_env_distinct (withRuntime tty : Bool) :
    (((if withRuntime then Runtime.containerEnv tty else []) ++ Kubelet.serviceEnv).map
      Env.name).Nodup := by
  have all : (((Runtime.containerEnv true) ++ Kubelet.serviceEnv).map Env.name).Nodup := by
    rw [List.map_append, Runtime.container_env_names, Kubelet.service_env_names]
    decide
  refine List.Nodup.sublist ?_ all
  refine List.Sublist.map Env.name (List.Sublist.append ?_ (List.Sublist.refl _))
  cases withRuntime with
  | false => exact List.nil_sublist _
  | true =>
      refine List.Sublist.append (List.Sublist.refl _) ?_
      cases tty with
      | false => exact List.nil_sublist _
      | true => exact List.Sublist.refl _

end LaunchPolicy
