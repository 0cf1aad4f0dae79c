import LaunchPolicy.Compile.Workload
import LaunchPolicy.Proofs.Session.Steady

/-!
Questions in their order, and the calls that they come to. Every image is inspected anew; a config map
is read when it is first asked for, and before the first reading the cluster's configuration is loaded.
-/

namespace LaunchPolicy

/-- What a compilation has to find out. -/
inductive Question where
  | image (reference : Text)
  | configMap (space : Scalar) (map : Text)
deriving DecidableEq, Repr

/-- Whether the cluster has been reached, and which of its config maps have been read. -/
structure Reach where
  connected : Bool := false
  maps : List (Scalar × Text) := []
deriving DecidableEq, Repr

namespace Reach

def knows (reach : Reach) (space : Scalar) (map : Text) : Bool :=
  reach.maps.any fun known => known.1.sameKey space && known.2 == map

/-- What is known once a question is answered. -/
def next (reach : Reach) : Question → Reach
  | .image _ => reach
  | .configMap space map =>
      if reach.knows space map then reach
      else { connected := true, maps := reach.maps ++ [(space, map)] }

theorem knows_next {reach : Reach} {space : Scalar} {map : Text} (known : reach.knows space map = true)
    (question : Question) : (reach.next question).knows space map = true := by
  cases question with
  | image => exact known
  | configMap =>
      rw [next]
      split
      · exact known
      · rw [knows, List.any_append]
        exact Bool.or_eq_true_iff.mpr (.inl known)

theorem knows_next_map (reach : Reach) (space : Scalar) (map : Text) :
    (reach.next (.configMap space map)).knows space map = true := by
  rw [next]
  split
  · assumption
  · rw [knows, List.any_append]
    exact Bool.or_eq_true_iff.mpr (.inr (by simp [Scalar.same_key_self]))

theorem connected_next {reach : Reach} (connected : reach.connected = true) (question : Question) :
    (reach.next question).connected = true := by
  cases question with
  | image => exact connected
  | configMap =>
      rw [next]
      split
      · exact connected
      · rfl

end Reach

def Session.reach (session : Session) : Reach where
  connected := session.connected
  maps := session.maps.map fun known => (known.space, known.map)

theorem Session.knows_reach (session : Session) (space : Scalar) (map : Text) :
    session.reach.knows space map = (ClusterSettings.known? session space map).isSome := by
  rw [Reach.knows, reach, ClusterSettings.known?, List.any_map, Option.isSome_map, Bool.eq_iff_iff,
    List.any_eq_true, List.find?_isSome]
  rfl

/-- The turn of a container: its image, and the config maps that its variables come from. -/
structure Turn where
  image : Text
  maps : List (Scalar × Text) := []
deriving DecidableEq, Repr

def Turn.questions (turn : Turn) : List Question :=
  .image turn.image :: turn.maps.map fun map => .configMap map.1 map.2

def Call.isInspection : Call → Bool
  | .inspect .. => true
  | _ => false

def Call.isReading : Call → Bool
  | .readConfigMap .. => true
  | _ => false

namespace WorkloadCompiler

def inspection (compiler : WorkloadCompiler) (reference : Text) : Call :=
  .inspect (compiler.inspector.command (compiler.inspector.uri reference)) compiler.inspector.timeout

def loading (compiler : WorkloadCompiler) : Call := (compiler.cluster.getD {}).loading

/-- The calls that one question comes to. -/
def calls (compiler : WorkloadCompiler) (reach : Reach) : Question → List Call
  | .image reference => [compiler.inspection reference]
  | .configMap space map =>
      if reach.knows space map then []
      else (if reach.connected then [] else [compiler.loading]) ++ [.readConfigMap map (.scalar space)]

/-- The calls that questions come to, one after another. -/
def asked (compiler : WorkloadCompiler) : Reach → List Question → List Call
  | _, [] => []
  | reach, question :: questions =>
      compiler.calls reach question ++ compiler.asked (reach.next question) questions

variable {compiler : WorkloadCompiler} {reach : Reach}

theorem asked_append (compiler : WorkloadCompiler) (reach : Reach) (front questions : List Question) :
    compiler.asked reach (front ++ questions) =
      compiler.asked reach front ++ compiler.asked (front.foldl Reach.next reach) questions := by
  induction front generalizing reach with
  | nil => rfl
  | cons question front ih =>
      rw [List.cons_append, asked, asked, ih, List.append_assoc, List.foldl_cons]

theorem loading_cases (compiler : WorkloadCompiler) :
    compiler.loading.isInspection = false ∧ compiler.loading.isReading = false := by
  rw [loading, ClusterSettings.loading]
  split <;> exact ⟨rfl, rfl⟩

/-- What is asked of the cluster: loadings and readings alone. -/
theorem calls_config_map {space : Scalar} {map : Text} {call : Call}
    (member : call ∈ compiler.calls reach (.configMap space map)) :
    call = compiler.loading ∨ call = .readConfigMap map (.scalar space) := by
  rw [calls] at member
  split at member
  · contradiction
  · split at member
    · exact .inr (List.mem_singleton.mp member)
    · simpa using member

theorem asked_config_maps {maps : List (Scalar × Text)} {call : Call}
    (member : call ∈ compiler.asked reach (maps.map fun map => .configMap map.1 map.2)) :
    call = compiler.loading ∨ ∃ map ∈ maps, call = .readConfigMap map.2 (.scalar map.1) := by
  induction maps generalizing reach with
  | nil => contradiction
  | cons map maps ih =>
      rw [List.map_cons, asked, List.mem_append] at member
      rcases member with here | later
      · rcases calls_config_map here with loads | reads
        · exact .inl loads
        · exact .inr ⟨map, List.mem_cons_self, reads⟩
      · rcases ih later with loads | ⟨other, within, reads⟩
        · exact .inl loads
        · exact .inr ⟨other, List.mem_cons_of_mem _ within, reads⟩

/-- The calls of a turn: its image is inspected, then config maps of its own are read. -/
def IsTurn (compiler : WorkloadCompiler) (turn : Turn) (calls : List Call) : Prop :=
  ∃ others, calls = compiler.inspection turn.image :: others ∧ ∀ call ∈ others,
    call = compiler.loading ∨ ∃ map ∈ turn.maps, call = .readConfigMap map.2 (.scalar map.1)

theorem asked_turns (compiler : WorkloadCompiler) (reach : Reach) (turns : List Turn) :
    ∃ parts, List.Forall₂ compiler.IsTurn turns parts ∧
      compiler.asked reach (turns.flatMap Turn.questions) = parts.flatten := by
  induction turns generalizing reach with
  | nil => exact ⟨[], .nil, rfl⟩
  | cons turn turns ih =>
      obtain ⟨parts, each, same⟩ := ih (turn.questions.foldl Reach.next reach)
      refine ⟨compiler.asked reach turn.questions :: parts, .cons ?_ each, ?_⟩
      · exact ⟨_, rfl, fun call member => asked_config_maps member⟩
      · rw [List.flatMap_cons, asked_append, same, List.flatten_cons]

theorem inspections_of_turn {turn : Turn} {calls : List Call} (isTurn : compiler.IsTurn turn calls) :
    calls.filter Call.isInspection = [compiler.inspection turn.image] := by
  obtain ⟨others, rfl, each⟩ := isTurn
  rw [List.filter_cons_of_pos rfl, List.filter_eq_nil_iff.mpr]
  intro call member
  rcases each call member with rfl | ⟨map, -, rfl⟩
  · simp [compiler.loading_cases.1]
  · simp [Call.isInspection]

/-- Images are inspected turn by turn. -/
theorem inspections_of_turns {turns : List Turn} {parts : List (List Call)}
    (each : List.Forall₂ compiler.IsTurn turns parts) :
    parts.flatten.filter Call.isInspection = turns.map fun turn => compiler.inspection turn.image := by
  induction each with
  | nil => rfl
  | cons first _ ih =>
      rw [List.flatten_cons, List.filter_append, inspections_of_turn first, ih]
      rfl

/-- The config maps that a question makes read. -/
theorem readings_of_map (compiler : WorkloadCompiler) (reach : Reach) (space : Scalar) (map : Text) :
    (compiler.calls reach (.configMap space map)).filter Call.isReading =
      if reach.knows space map then [] else [.readConfigMap map (.scalar space)] := by
  rw [calls]
  split
  · rfl
  · rw [List.filter_append, List.filter_cons_of_pos rfl]
    split
    · rfl
    · rw [List.filter_cons_of_neg (by simp [compiler.loading_cases.2])]
      rfl

/-- A config map that is read was not known before. -/
theorem not_known_of_asked {questions : List Question} {space : Scalar} {map : Text}
    (asks : .readConfigMap map (.scalar space) ∈
      (compiler.asked reach questions).filter Call.isReading) : reach.knows space map = false := by
  induction questions generalizing reach with
  | nil => contradiction
  | cons question questions ih =>
      rw [asked, List.filter_append, List.mem_append] at asks
      rcases asks with here | later
      · cases question with
        | image => contradiction
        | configMap other otherMap =>
            rw [readings_of_map] at here
            split at here
            · contradiction
            · rename_i unknown
              cases List.mem_singleton.mp here
              simpa using unknown
      · by_contra known
        have stays := Reach.knows_next (by simpa using known) question
        rw [ih later] at stays
        contradiction

/-- No config map is read twice. -/
theorem readings_nodup (compiler : WorkloadCompiler) (reach : Reach) (questions : List Question) :
    ((compiler.asked reach questions).filter Call.isReading).Nodup := by
  induction questions generalizing reach with
  | nil => exact .nil
  | cons question questions ih =>
      rw [asked, List.filter_append]
      cases question with
      | image => exact ih _
      | configMap space map =>
          rw [readings_of_map]
          split
          · exact ih _
          · refine List.nodup_cons.mpr ⟨fun later => ?_, ih _⟩
            have unknown := not_known_of_asked later
            rw [Reach.knows_next_map] at unknown
            contradiction

theorem not_loading_of_connected {questions : List Question} (connected : reach.connected = true) :
    compiler.loading ∉ compiler.asked reach questions := by
  induction questions generalizing reach with
  | nil => simp [asked]
  | cons question questions ih =>
      rw [asked, List.mem_append, not_or]
      refine ⟨?_, ih (Reach.connected_next connected question)⟩
      cases question with
      | image =>
          intro member
          have same := congrArg Call.isInspection (List.mem_singleton.mp member)
          rw [compiler.loading_cases.1] at same
          contradiction
      | configMap space map =>
          intro member
          rw [calls, if_pos connected] at member
          split at member
          · contradiction
          · have same := congrArg Call.isReading (List.mem_singleton.mp member)
            rw [compiler.loading_cases.2] at same
            contradiction

/-- The cluster's configuration is loaded right before the first reading, and never again. -/
theorem loading_first {questions : List Question} (apart : reach.connected = false) :
    (∀ call ∈ compiler.asked reach questions, call.isInspection = true) ∨
      ∃ before map space rest,
        compiler.asked reach questions = before ++ compiler.loading :: .readConfigMap map space :: rest ∧
        (∀ call ∈ before, call.isInspection = true) ∧ compiler.loading ∉ rest := by
  induction questions with
  | nil => exact .inl (by simp [asked])
  | cons question questions ih =>
      cases question with
      | image reference =>
          have same : compiler.asked reach (.image reference :: questions) =
              compiler.inspection reference :: compiler.asked reach questions := rfl
          rw [same]
          rcases ih with inspections | ⟨before, map, space, rest, split, inspections, once⟩
          · exact .inl (List.forall_mem_cons.mpr ⟨rfl, inspections⟩)
          · refine .inr ⟨compiler.inspection reference :: before, map, space, rest, ?_,
              List.forall_mem_cons.mpr ⟨rfl, inspections⟩, once⟩
            rw [split, List.cons_append]
      | configMap space map =>
          by_cases known : reach.knows space map = true
          · rwa [asked, calls, Reach.next, if_pos known, if_pos known]
          · have connected : (reach.next (.configMap space map)).connected = true := by
              rw [Reach.next, if_neg known]
            have once : compiler.loading ∉ compiler.asked (reach.next (.configMap space map)) questions :=
              not_loading_of_connected connected
            refine .inr ⟨[], map, .scalar space, _, ?_, by simp, once⟩
            rw [asked, calls, if_neg known, apart]
            rfl

/-- Calls in the order of turns: each turn inspects its image and then reads config maps of its own; no
config map is read twice or again; and the cluster's configuration is loaded right before the first
reading, unless that was done before. -/
structure Orderly (compiler : WorkloadCompiler) (reach : Reach) (turns : List Turn)
    (calls : List Call) : Prop where
  parts : ∃ parts, List.Forall₂ compiler.IsTurn turns parts ∧ calls = parts.flatten
  inspections : calls.filter Call.isInspection = turns.map fun turn => compiler.inspection turn.image
  once : (calls.filter Call.isReading).Nodup
  fresh : ∀ space map, .readConfigMap map (.scalar space) ∈ calls → reach.knows space map = false
  connected : reach.connected = true → compiler.loading ∉ calls
  loaded : reach.connected = false → (∀ call ∈ calls, call.isInspection = true) ∨
    ∃ before map space rest, calls = before ++ compiler.loading :: .readConfigMap map space :: rest ∧
      (∀ call ∈ before, call.isInspection = true) ∧ compiler.loading ∉ rest

theorem asked_orderly (compiler : WorkloadCompiler) (reach : Reach) (turns : List Turn) :
    compiler.Orderly reach turns (compiler.asked reach (turns.flatMap Turn.questions)) := by
  obtain ⟨parts, each, same⟩ := asked_turns compiler reach turns
  exact {
    parts := ⟨parts, each, same⟩
    inspections := same ▸ inspections_of_turns each
    once := readings_nodup compiler reach _
    fresh := fun space map member => not_known_of_asked (List.mem_filter.mpr ⟨member, rfl⟩)
    connected := not_loading_of_connected
    loaded := loading_first }

end WorkloadCompiler

end LaunchPolicy
