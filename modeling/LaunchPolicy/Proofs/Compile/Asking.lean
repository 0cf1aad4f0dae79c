import LaunchPolicy.Proofs.Cluster.Snapshot
import LaunchPolicy.Proofs.Compile.Steps

/-!
The calls of a compilation. Each step asks the questions that its part of the manifest has, and no
others: a run that succeeds makes the calls that the manifests fix, and one that fails makes those of the
steps that it has taken and, of the step that it fails in, a first part.
-/

namespace LaunchPolicy

open Compile Manifest

variable {α β : Type}

/-- What a field holds, if it is a text. -/
def textOf? : Option Value → Option Text
  | some (.text s) => some s
  | _ => none

def scalarOf? : Value → Option Scalar
  | .scalar s => some s
  | _ => none

/-- The config map that the value of a variable comes from. -/
def mapOf? (item : Value) : Option Text :=
  if (item.get? "value").isSome then none
  else textOf? (item.at? ["valueFrom", "configMapKeyRef", "name"])

namespace WorkloadCompiler

/-- The namespace in which the config maps of a workload are found. -/
def spaceFor? (compiler : WorkloadCompiler) (space : Option Text) : Option Scalar :=
  compiler.cluster.bind fun settings => scalarOf? (settings.spaceFor space)

def mapQuestions (compiler : WorkloadCompiler) (space map : Option Text) : List Question :=
  match compiler.spaceFor? space, map with
  | some space, some map => [.configMap space map]
  | _, _ => []

/-- The questions of a step. -/
def questions (compiler : WorkloadCompiler) : Step → List Question
  | .inspection reference => [.image reference]
  | .rule entry _ item => compiler.mapQuestions entry.space (mapOf? item)
  | _ => []

/-- A session that follows on another when some questions have been answered. -/
structure Asked (compiler : WorkloadCompiler) (before : Session) (questions : List Question)
    (after : Session) : Prop where
  calls : after.calls = before.calls ++ compiler.asked before.reach questions
  reach : after.reach = questions.foldl Reach.next before.reach

/-- A session in which some questions are being answered: a first part of their calls is made. -/
def Asking (compiler : WorkloadCompiler) (before : Session) (questions : List Question)
    (after : Session) : Prop :=
  ∃ own, own <+: compiler.asked before.reach questions ∧ after.calls = before.calls ++ own

variable {compiler : WorkloadCompiler} {world : World} {session middle after : Session}
  {questions more : List Question}

theorem asked_of_quiet (quiet : session.Quiet after) : compiler.Asked session [] after := by
  constructor
  · rw [quiet]
    exact (List.append_nil _).symm
  · rw [quiet]
    rfl

theorem Asked.append (first : compiler.Asked session questions middle)
    (second : compiler.Asked middle more after) : compiler.Asked session (questions ++ more) after where
  calls := by rw [second.calls, first.calls, first.reach, asked_append, List.append_assoc]
  reach := by rw [second.reach, first.reach, List.foldl_append]

theorem Asked.asking (asks : compiler.Asked session questions after) :
    compiler.Asking session questions after := ⟨_, List.prefix_rfl, asks.calls⟩

theorem asking_self (session : Session) (questions : List Question) :
    compiler.Asking session questions session := ⟨[], List.nil_prefix, (List.append_nil _).symm⟩

/-- An action asks some questions, one after another, and no others. -/
structure Asks (compiler : WorkloadCompiler) (world : World) (questions : List Question)
    (action : Compile α) : Prop where
  asked : ∀ {session a after}, action.run world session = (.ok a, after) →
    compiler.Asked session questions after
  asking : ∀ {session failure after}, action.run world session = (.error failure, after) →
    compiler.Asking session questions after

/-- What only reads fails before any question. -/
theorem asks_of_except_bind {r : Except Failure α} {next : α → Compile β}
    (then_ : ∀ a, r = .ok a → compiler.Asks world questions (next a)) :
    compiler.Asks world questions (Compile.ofExcept r >>= next) := by
  cases r with
  | error failure =>
      constructor
      · intro session b after ran
        exact absurd (congrArg Prod.fst ran) (by simp [run_bind])
      · intro session other after ran
        rw [run_bind, run_of_except] at ran
        obtain ⟨-, rfl⟩ := Prod.mk.inj ran
        exact asking_self _ _
  | ok a => exact then_ a rfl

theorem asks_of_policy_bind {r : Read α} {next : α → Compile β}
    (then_ : ∀ a, r = .ok a → compiler.Asks world questions (next a)) :
    compiler.Asks world questions (ofPolicy r >>= next) :=
  asks_of_except_bind fun a read => then_ a (Outcome.map_error_ok_iff.mp read)

theorem asks_pure (a : α) : compiler.Asks world [] (pure a : Compile α) where
  asked {session _ _} ran := by
    obtain ⟨-, rfl⟩ := Prod.mk.inj ran
    exact asked_of_quiet session.quiet_refl
  asking ran := absurd (congrArg Prod.fst ran) (by simp)

theorem map_questions_none (compiler : WorkloadCompiler) (space : Option Text) :
    compiler.mapQuestions space none = [] := by
  unfold mapQuestions
  cases compiler.spaceFor? space <;> rfl

theorem asks_error (failure : Failure) (questions : List Question) :
    compiler.Asks world questions (Compile.ofExcept (.error failure) : Compile α) where
  asked ran := absurd (congrArg Prod.fst ran) (by simp)
  asking ran := by
    obtain ⟨-, rfl⟩ := Prod.mk.inj ran
    exact asking_self _ _

/-- What is read from an answer asks nothing more. -/
theorem Asks.bind_except {action : Compile α} {next : α → Except Failure β}
    (first : compiler.Asks world questions action) :
    compiler.Asks world questions (action >>= fun a => Compile.ofExcept (next a)) where
  asked ran := by
    obtain ⟨a, middle, start, ran⟩ := run_bind_ok_iff.mp ran
    obtain ⟨-, rfl⟩ := Prod.mk.inj ran
    exact first.asked start
  asking ran := by
    rcases run_bind_error_iff.mp ran with ran | ⟨a, middle, start, ran⟩
    · exact first.asking ran
    · obtain ⟨-, rfl⟩ := Prod.mk.inj ran
      exact (first.asked start).asking

theorem asks_fetch (reference : Text) :
    compiler.Asks world [.image reference] (compiler.inspector.fetch reference) := by
  rw [InspectorSettings.fetch]
  split
  · exact asks_error _ _
  · constructor
    · intro session a after ran
      simp only [run_bind, run_note, run_ask, run_read, run_of_except] at ran
      obtain ⟨-, rfl⟩ := Prod.mk.inj ran
      exact ⟨rfl, rfl⟩
    · intro session failure after ran
      simp only [run_bind, run_note, run_ask, run_read, run_of_except] at ran
      obtain ⟨-, rfl⟩ := Prod.mk.inj ran
      exact ⟨_, List.prefix_rfl, rfl⟩

theorem asked_map {space : Scalar} {map : Text} (reach : Reach) :
    compiler.asked reach [.configMap space map] = compiler.calls reach (.configMap space map) :=
  List.append_nil _

/-- A config map that is not known is asked for, after the configuration where that is not loaded. -/
theorem asked_unknown {settings : ClusterSettings} {space : Scalar} {map : Text}
    (cluster : compiler.cluster = some settings)
    (unknown : ClusterSettings.known? session space map = none) :
    compiler.asked session.reach [.configMap space map] =
        settings.loadings session ++ [.readConfigMap map (.scalar space)] ∧
      session.reach.next (.configMap space map) =
        { connected := true, maps := session.reach.maps ++ [(space, map)] } := by
  have notKnown : session.reach.knows space map = false := by
    rw [Session.knows_reach, unknown]
    rfl
  rw [asked_map, calls, Reach.next, notKnown, loading, cluster]
  exact ⟨rfl, rfl⟩

theorem asks_map_data {settings : ClusterSettings} (cluster : compiler.cluster = some settings)
    (space : Scalar) (map : Text) :
    compiler.Asks world [.configMap space map] (settings.mapData space map) := by
  have reading := fun session => ClusterSettings.map_data_reading settings world space map session
  constructor
  · intro session data after ran
    obtain ⟨outcome, asked, last, ranToo, reads⟩ := reading session
    obtain ⟨rfl, rfl⟩ := Prod.mk.inj (ranToo.symm.trans ran)
    cases reads with
    | known known =>
        have knows : session.reach.knows space map = true := by
          rw [Session.knows_reach, known]
          rfl
        constructor
        · rw [asked_map, calls, if_pos knows, List.append_nil]
        · rw [List.foldl_cons, List.foldl_nil, Reach.next, if_pos knows]
    | found unknown =>
        obtain ⟨calls, next⟩ := asked_unknown cluster unknown
        constructor
        · rw [calls]
        · rw [List.foldl_cons, List.foldl_nil, next]
          simp [Session.reach]
  · intro session failure after ran
    obtain ⟨outcome, asked, last, ranToo, reads⟩ := reading session
    obtain ⟨rfl, rfl⟩ := Prod.mk.inj (ranToo.symm.trans ran)
    cases reads with
    | unreachable unknown apart =>
        refine ⟨[settings.loading], ?_, rfl⟩
        rw [(asked_unknown cluster unknown).1, ClusterSettings.loadings, apart]
        exact List.prefix_append _ _
    | refused unknown =>
        exact ⟨_, (asked_unknown cluster unknown).1 ▸ List.prefix_rfl, rfl⟩

theorem asks_value {settings : ClusterSettings} (cluster : compiler.cluster = some settings)
    {name : Option Text} {space : Scalar} (here : settings.spaceFor name = .scalar space)
    (map key : Text) :
    compiler.Asks world [.configMap space map] (settings.value name map key) := by
  rw [ClusterSettings.value, here]
  exact (asks_map_data cluster space map).bind_except

/-! The questions of a variable -/

/-- An item of the environment that has a value is no question. -/
theorem map_of_valued {fields : Fields} (valued : Fields.contains fields (.text "value") = true) :
    mapOf? (.map fields) = none := by
  have given : ((Value.map fields).get? "value").isSome = true := valued
  rw [mapOf?, if_pos given]

theorem map_of_reference {fields sources : Fields}
    (unvalued : Fields.contains fields (.text "value") = false)
    (present : present? fields "valueFrom" = some (.map sources)) :
    mapOf? (.map fields) =
      textOf? ((sources.get? (.text "configMapKeyRef")).bind fun reference => reference.get? "name") := by
  have absent : ¬((Value.map fields).get? "value").isSome = true := by
    have same : ((Value.map fields).get? "value").isSome = false := unvalued
    simp [same]
  have found : (Value.map fields).get? "valueFrom" = some (.map sources) := present_of_get present
  have reference : (Value.map sources).get? "configMapKeyRef" =
      sources.get? (.text "configMapKeyRef") := rfl
  rw [mapOf?, if_neg absent, Value.at?, found, Option.bind_some, Value.at?, reference]
  rcases sources.get? (.text "configMapKeyRef") with _ | named
  · rfl
  · cases named.get? "name" with
    | none => simp [Value.at?]
    | some v => simp [Value.at?]

theorem map_of_unset {fields : Fields} (unset : present? fields "valueFrom" = none) :
    mapOf? (.map fields) = none := by
  rw [mapOf?]
  split
  · rfl
  · rw [present?] at unset
    have empty : ((Value.map fields).get? "valueFrom").getD .null = .null := by
      rw [Value.get?]
      split at unset
      · rename_i null
        rw [null]
        rfl
      · rw [unset]
        rfl
    rw [Value.at?]
    cases found : (Value.map fields).get? "valueFrom" with
    | none => rfl
    | some v =>
        rw [found] at empty
        obtain rfl : v = .null := empty
        rfl

variable {entry : ContainerEntry}

theorem asks_config_map_value (resolved : entry.cluster = compiler.cluster) (reference : Value)
    (path : FieldPath) :
    compiler.Asks world (compiler.mapQuestions entry.space (textOf? (reference.get? "name")))
      (entry.configMapValue reference path) := by
  cases reference with
  | map fields =>
      rw [ContainerEntry.configMapValue]
      refine asks_of_policy_bind fun map named => asks_of_policy_bind fun key _ => ?_
      have name : (Value.map fields).get? "name" = some (.text map) :=
        present_of_get (string_ok_iff.mp named)
      rw [name, resolved]
      unfold mapQuestions spaceFor?
      cases cluster : compiler.cluster with
      | none => exact asks_error _ _
      | some settings =>
          rw [Option.bind_some]
          cases here : settings.spaceFor entry.space with
          | scalar space => exact asks_value cluster here map key
          | _ =>
              simp only [ClusterSettings.value, here]
              exact asks_error _ _
  | _ => exact asks_error _ _

theorem asks_reference_rule (resolved : entry.cluster = compiler.cluster) {fields : Fields}
    (unvalued : Fields.contains fields (.text "value") = false) (name : Text) (path : FieldPath) :
    compiler.Asks world (compiler.mapQuestions entry.space (mapOf? (.map fields)))
      (entry.referenceRule fields name path) := by
  rw [ContainerEntry.referenceRule]
  refine asks_of_policy_bind fun sources? read => ?_
  cases sources? with
  | none =>
      have unset : present? fields "valueFrom" = none := by
        rw [mapping?] at read
        split at read
        · assumption
        · cases read
        · cases read
      rw [map_of_unset unset, map_questions_none]
      exact asks_pure _
  | some sources =>
      rw [map_of_reference unvalued (mapping_some_iff.mp read)]
      cases found : sources.get? (.text "configMapKeyRef") with
      | some reference =>
          simp only [found]
          exact (asks_config_map_value resolved reference _).bind_except
      | none =>
          have nothing : textOf? ((none : Option Value).bind fun reference => reference.get? "name") =
              none := rfl
          rw [nothing, map_questions_none]
          simp only [found]
          split
          · exact asks_pure _
          · split
            · split <;> exact asks_error _ _
            · exact asks_error _ _

theorem asks_environment_rule (resolved : entry.cluster = compiler.cluster) (path : FieldPath)
    (item : Value) :
    compiler.Asks world (compiler.mapQuestions entry.space (mapOf? item))
      (entry.environmentRule path item) := by
  cases item with
  | map fields =>
      rw [ContainerEntry.environmentRule]
      refine asks_of_policy_bind fun name _ => ?_
      cases valued : Fields.contains fields (.text "value") with
      | true =>
          rw [map_of_valued valued, map_questions_none]
          exact asks_of_policy_bind fun value _ => asks_pure _
      | false => exact asks_reference_rule resolved valued name _
  | _ => exact asks_error _ _

/-! The questions of steps -/

theorem done_ok_iff {r : Except Failure α} : done r = .ok () ↔ ∃ a, r = .ok a := by
  cases r <;> simp [done, Except.map]

theorem done_error_iff {r : Except Failure α} {failure : Failure} :
    done r = .error failure ↔ r = .error failure := by
  cases r <;> simp [done, Except.map]

theorem ends_asked {step : Step} (ends : compiler.Ends world step session (.ok ()) after) :
    compiler.Asked session (compiler.questions step) after := by
  cases step with
  | reading outcome => exact asked_of_quiet ends.2
  | inspection reference =>
      obtain ⟨image, ran, succeeded⟩ := ends
      obtain ⟨made, rfl⟩ := done_ok_iff.mp succeeded.symm
      exact (asks_fetch reference).asked ran
  | rule entry path item =>
      obtain ⟨resolved, rule, ran, succeeded⟩ := ends
      obtain ⟨made, rfl⟩ := done_ok_iff.mp succeeded.symm
      exact (asks_environment_rule resolved path item).asked ran
  | completion => exact asked_of_quiet ends.1
  | annotating => exact asked_of_quiet ends.1

theorem ends_asking {step : Step} {failure : Failure}
    (ends : compiler.Ends world step session (.error failure) after) :
    compiler.Asking session (compiler.questions step) after := by
  cases step with
  | reading outcome => exact (asked_of_quiet ends.2).asking
  | inspection reference =>
      obtain ⟨image, ran, failed⟩ := ends
      obtain rfl := done_error_iff.mp failed.symm
      exact (asks_fetch reference).asking ran
  | rule entry path item =>
      obtain ⟨resolved, rule, ran, failed⟩ := ends
      obtain rfl := done_error_iff.mp failed.symm
      exact (asks_environment_rule resolved path item).asking ran
  | completion => exact (asked_of_quiet ends.1).asking
  | annotating => exact (asked_of_quiet ends.1).asking

theorem taken_asked {steps : List Step} (taken : compiler.Taken world session steps after) :
    compiler.Asked session (steps.flatMap compiler.questions) after := by
  induction taken with
  | nil quiet => exact asked_of_quiet quiet
  | cons quiet ends _ ih =>
      rw [List.flatMap_cons]
      exact (asked_of_quiet quiet).append ((ends_asked ends).append ih)

/-- A run does not get past a part of a manifest that cannot be read. -/
theorem Taken.read {steps : List Step} (taken : compiler.Taken world session steps after)
    (e : PolicyError) : Step.reading (.error e) ∉ steps := by
  induction taken with
  | nil => simp
  | cons _ ends _ ih =>
      rw [List.mem_cons, not_or]
      refine ⟨?_, ih⟩
      rintro rfl
      exact absurd ends.1 (by simp [Except.mapError])

end WorkloadCompiler

end LaunchPolicy
