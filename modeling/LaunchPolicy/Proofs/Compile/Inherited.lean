import LaunchPolicy.Compile.Workload
import LaunchPolicy.Proofs.Session.Milestones

/-!
What the compilation of a container inherits from its steps. A property of actions that every reading and
every question has, and that one action hands on to the next, is one of the whole compilation.
-/

namespace LaunchPolicy

open Compile Manifest

/-- A property of actions that is handed on, and that the readings, the questions and the remarks of a
compilation have, as far as they ask one cluster. -/
structure Inherited (cluster : Option ClusterSettings) (holds : ∀ {α : Type}, Compile α → Prop) : Prop where
  of_except : ∀ {α : Type} (r : Except Failure α), holds (Compile.ofExcept r)
  bind : ∀ {α β : Type} {action : Compile α} {next : α → Compile β}, holds action →
    (∀ a, holds (next a)) → holds (action >>= next)
  remark : ∀ {event : Event}, event.isMilestone = false → holds (note event)
  ask : ∀ call, holds (Compile.ask call)
  read : holds (read : Compile World)
  value : ∀ settings, cluster = some settings → ∀ space map key, holds (settings.value space map key)

variable {cluster : Option ClusterSettings} {holds : ∀ {α : Type}, Compile α → Prop} {α β : Type}

theorem inherited_steady (cluster : Option ClusterSettings) (world : World) :
    Inherited cluster fun action => action.Steady cluster world where
  of_except := steady_of_except
  bind := Steady.bind
  remark _ := steady_note _
  ask := steady_ask
  read := steady_read
  value := by
    rintro settings rfl
    exact steady_value settings

/-- Reading a config map is remarked on, if it is not known yet. -/
theorem ClusterSettings.remarks_map_data (settings : ClusterSettings) (space : Scalar) (map : Text) :
    (settings.mapData space map).Remarks := by
  intro world session
  obtain ⟨outcome, asked, after, ran, reads⟩ := map_data_reading settings world space map session
  rw [ran]
  cases reads with
  | known => rfl
  | unreachable => rfl
  | refused => exact (session.milestones_append _).trans (List.append_nil _)
  | found => exact (session.milestones_append _).trans (List.append_nil _)

theorem ClusterSettings.remarks_value (settings : ClusterSettings) (space : Option Text) (map key : Text) :
    (settings.value space map key).Remarks := by
  rw [value]
  split
  · exact (settings.remarks_map_data _ map).bind fun _ => remarks_of_except _
  · exact remarks_of_except _

theorem inherited_remarks (cluster : Option ClusterSettings) :
    Inherited cluster fun action => action.Remarks where
  of_except := remarks_of_except
  bind := Remarks.bind
  remark := remarks_note
  ask := remarks_ask
  read := remarks_read
  value settings _ := settings.remarks_value

namespace Inherited

variable (inherited : Inherited cluster holds)
include inherited

theorem pure (a : α) : holds (Pure.pure a : Compile α) := inherited.of_except (.ok a)

theorem map_m {f : α → Compile β} {items : List α} (each : ∀ item ∈ items, holds (f item)) :
    holds (items.mapM f) := by
  induction items with
  | nil => exact inherited.pure []
  | cons item items ih =>
      obtain ⟨here, rest⟩ := List.forall_mem_cons.mp each
      rw [List.mapM_cons]
      exact inherited.bind here fun result => inherited.bind (ih rest) fun results =>
        inherited.pure (result :: results)

theorem each_item {path : FieldPath} {items : List Value} {read : FieldPath → Value → Compile α}
    (each : ∀ path item, holds (read path item)) : holds (eachItem path items read) :=
  inherited.map_m fun (item, _) _ => each _ item

theorem for_each {items : List α} {step : α → PUnit → Compile (ForInStep PUnit)}
    (each : ∀ item ∈ items, holds (step item ⟨⟩)) : holds (forIn items ⟨⟩ step) := by
  induction items with
  | nil => exact inherited.pure PUnit.unit
  | cons item items ih =>
      obtain ⟨here, rest⟩ := List.forall_mem_cons.mp each
      rw [List.forIn_cons]
      refine inherited.bind here fun last => ?_
      cases last with
      | done => exact inherited.pure PUnit.unit
      | yield => exact ih rest

/-! The parts of a container's compilation -/

section Entry

variable {entry : ContainerEntry}

theorem config_map_value (resolved : cluster = entry.cluster) (reference : Value) (path : FieldPath) :
    holds (entry.configMapValue reference path) := by
  cases reference with
  | map fields =>
      refine inherited.bind (inherited.of_except _) fun map => inherited.bind (inherited.of_except _) fun key => ?_
      split
      · exact inherited.of_except _
      · rename_i settings known
        exact inherited.value settings (resolved.trans known) entry.space map key
  | _ => exact inherited.of_except _

theorem reference_rule (resolved : cluster = entry.cluster) (fields : Fields) (name : Text)
    (path : FieldPath) : holds (entry.referenceRule fields name path) := by
  refine inherited.bind (inherited.of_except _) fun sources => ?_
  split
  · exact inherited.pure _
  · split
    · exact inherited.bind (inherited.config_map_value resolved _ _) fun _ => inherited.pure _
    · split
      · exact inherited.pure _
      · split
        · split
          · exact inherited.of_except _
          · exact inherited.of_except _
        · exact inherited.of_except _

theorem environment_rule (resolved : cluster = entry.cluster) (path : FieldPath) (item : Value) :
    holds (entry.environmentRule path item) := by
  cases item with
  | map fields =>
      refine inherited.bind (inherited.of_except _) fun name => ?_
      split
      · exact inherited.bind (inherited.of_except _) fun _ => inherited.pure _
      · exact inherited.reference_rule resolved _ name _
  | _ => exact inherited.of_except _

theorem environment (resolved : cluster = entry.cluster) : holds entry.environment :=
  inherited.bind (inherited.of_except _) fun _ => inherited.each_item (inherited.environment_rule resolved)

theorem declared (resolved : cluster = entry.cluster) (volumes : Option Volumes) :
    holds (Declared.ofEntry entry volumes) := by
  refine inherited.bind (inherited.of_except _) fun entryPoint =>
    inherited.bind (inherited.environment resolved) fun env => ?_
  cases volumes with
  | none => exact inherited.bind (inherited.pure _) fun _ => inherited.pure _
  | some volumes => exact inherited.bind (inherited.of_except _) fun _ => inherited.pure _

end Entry

theorem fetch (settings : InspectorSettings) (reference : Text) : holds (settings.fetch reference) := by
  rw [InspectorSettings.fetch]
  split
  · exact inherited.of_except _
  · exact inherited.bind (inherited.remark rfl) fun _ => inherited.bind (inherited.ask _) fun _ =>
      inherited.bind inherited.read fun _ => inherited.of_except _

theorem runtime_rules (privileged tty : Bool) : holds (Compiler.runtimeRules privileged tty) := by
  have rules : holds (Pure.pure (Runtime.containerRules privileged tty) : Compile LaunchSpec) := inherited.pure _
  rw [Compiler.runtimeRules]
  split
  · refine inherited.bind (inherited.for_each fun mount _ => ?_) fun _ => rules
    split
    · exact inherited.bind (inherited.remark rfl) fun _ => inherited.pure _
    · exact inherited.pure _
  · exact rules

theorem container (compiler : Compiler) {entry : ContainerEntry} (resolved : cluster = entry.cluster)
    (volumes : Volumes) (withRuntime : Bool) : holds (compiler.container entry volumes withRuntime) :=
  inherited.bind (inherited.of_except _) fun context => inherited.bind (inherited.of_except _) fun tty =>
    inherited.bind (inherited.of_except _) fun reference =>
      inherited.bind (inherited.fetch compiler.inspector reference) fun _ =>
        inherited.bind (inherited.runtime_rules context.privileged tty) fun _ =>
          inherited.bind (inherited.declared resolved volumes) fun _ => inherited.of_except _

theorem sandbox (compiler : Compiler) : holds compiler.sandbox :=
  inherited.bind (inherited.remark rfl) fun _ => inherited.bind (inherited.fetch _ _) fun _ =>
    inherited.bind (inherited.pure _) fun _ => inherited.of_except _

end Inherited

end LaunchPolicy
