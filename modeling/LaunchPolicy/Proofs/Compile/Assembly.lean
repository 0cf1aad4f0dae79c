import LaunchPolicy.Proofs.Compile.Steady
import LaunchPolicy.Proofs.Compile.Typed
import LaunchPolicy.Proofs.Keyed

/-!
What the document of a workload is made of. Its containers come one after another, then the sandbox,
each under its name. A name stays where it was first added, with the policy that was added last; yet
every container has to compile, also one whose policy another replaces.
-/

namespace LaunchPolicy

open Compile

/-- The containers of a workload in the order in which they are compiled. -/
def Workload.entries (workload : Workload) : List ContainerEntry :=
  workload.containers ++ workload.initContainers

namespace PolicyDocument

/-- The document of policies that are added one after another. -/
def ofItems (items : List (Text × ContainerPolicy)) : PolicyDocument :=
  items.foldl (fun document item => document.add item.1 item.2) {}

theorem containers_of_items (items : List (Text × ContainerPolicy)) :
    (ofItems items).containers = items.foldl (Keyed.put Prod.fst) [] := by
  have added : ∀ document : PolicyDocument,
      (items.foldl (fun document item => document.add item.1 item.2) document).containers =
        items.foldl (Keyed.put Prod.fst) document.containers := by
    induction items with
    | nil => exact fun document => rfl
    | cons item items ih =>
        intro document
        rw [List.foldl_cons, List.foldl_cons, ih, add, insert_eq_put]
  exact added {}

theorem names_of_items (items : List (Text × ContainerPolicy)) :
    (ofItems items).names = (items.map (·.1)).eraseDups := by
  rw [names, containers_of_items]
  exact (Keyed.keeps_fold items).keys

theorem get_of_items (items : List (Text × ContainerPolicy)) (name : Text) :
    (ofItems items).get? name = (Keyed.last? Prod.fst items name).map (·.2) := by
  rw [get?, containers_of_items, Keyed.find_fold, List.find?_nil, Option.or_none]

end PolicyDocument

namespace WorkloadCompiler

/-- The policy of a container by itself. -/
def entryPolicy (compiler : WorkloadCompiler) (workload : Workload) (world : World)
    (session : Session) (entry : ContainerEntry) : Except Failure ContainerPolicy :=
  ((compiler.container entry workload.volumes compiler.withRuntime).run world session).1

/-- The policy of the sandbox. No workload and no session has a part in it. -/
def sandboxPolicy (compiler : WorkloadCompiler) (world : World) : Except Failure ContainerPolicy :=
  (compiler.sandbox.run world {}).1

/-- The names that are not for the containers of a workload. -/
def reserved (compiler : WorkloadCompiler) : List Text :=
  if compiler.withRuntime then [sandboxName] else []

def entryItem (compiler : WorkloadCompiler) (workload : Workload) (world : World)
    (session : Session) (entry : ContainerEntry) : Except Failure (Text × ContainerPolicy) := do
  let name ← entry.name.mapError .policy
  let policy ← compiler.entryPolicy workload world session entry
  return (name, policy)

def reservedItem (compiler : WorkloadCompiler) (world : World) (name : Text) :
    Except Failure (Text × ContainerPolicy) :=
  (compiler.sandboxPolicy world).map fun policy => (name, policy)

/-- All that is added to the document of a workload. -/
def additions (compiler : WorkloadCompiler) (workload : Workload) (world : World)
    (session : Session) : Except Failure (List (Text × ContainerPolicy)) := do
  let own ← workload.entries.mapM (compiler.entryItem workload world session)
  let others ← compiler.reserved.mapM (compiler.reservedItem world)
  return own ++ others

variable {compiler : WorkloadCompiler} {manifest : Value} {workload : Workload} {world : World}
  {session : Session}

theorem sandbox_result (compiler : WorkloadCompiler) (world : World) (session : Session) :
    (compiler.sandbox.run world session).1 = compiler.sandboxPolicy world := by
  have steady : compiler.sandbox.Steady none world := compiler.toCompiler.steady_sandbox
  exact steady.decides {} session rfl

theorem add_container_result (document : PolicyDocument) (entry : ContainerEntry) :
    ((compiler.addContainer workload.volumes document entry).run world session).1 =
      (compiler.entryItem workload world session entry).map fun item =>
        document.add item.1 item.2 := by
  rw [addContainer, entryItem, entryPolicy, run_bind, run_of_policy]
  cases entry.name.mapError Failure.policy with
  | error failure => rfl
  | ok name =>
      simp only [run_bind]
      rcases (compiler.container entry workload.volumes compiler.withRuntime).run world session with
        ⟨r, after⟩
      cases r <;> rfl

theorem reserved_result (document : PolicyDocument) :
    ((if compiler.withRuntime then do return document.add sandboxName (← compiler.sandbox)
      else return document : Compile PolicyDocument).run world session).1 =
      (compiler.reserved.mapM (compiler.reservedItem world)).map fun items =>
        items.foldl (fun document item => document.add item.1 item.2) document := by
  unfold reserved
  cases compiler.withRuntime with
  | false => rfl
  | true =>
      have result := compiler.sandbox_result world session
      rw [if_pos rfl, if_pos rfl, run_bind, List.mapM_cons, reservedItem, ← result]
      rcases compiler.sandbox.run world session with ⟨r, after⟩
      cases r <;> rfl

theorem policies_result
    (resolved : ∀ entry ∈ workload.entries, entry.cluster = compiler.cluster) :
    ((compiler.policies workload).run world session).1 =
      (compiler.additions workload world session).map PolicyDocument.ofItems := by
  have own : ((workload.entries.foldlM (compiler.addContainer workload.volumes) {}).run world
      session).1 = (workload.entries.mapM (compiler.entryItem workload world session)).map
        PolicyDocument.ofItems := by
    have same : world.answers compiler.cluster session = world.answers compiler.cluster session := rfl
    apply run_fold_alone _ same
    intro entry member document
    exact ⟨compiler.steady_add_container (resolved entry member) document,
      add_container_result document entry⟩
  rw [policies, additions, run_bind, ← Workload.entries]
  rcases ran : (workload.entries.foldlM (compiler.addContainer workload.volumes) {}).run world
    session with ⟨r, middle⟩
  rw [ran] at own
  obtain rfl := own
  clear ran
  cases workload.entries.mapM (compiler.entryItem workload world session) with
  | error failure => rfl
  | ok items =>
      change (Compile.run _ world middle).1 = _
      rw [reserved_result]
      cases compiler.reserved.mapM (compiler.reservedItem world) with
      | error failure => rfl
      | ok others => exact congrArg Except.ok (List.foldl_append ..).symm

theorem document_result
    (resolved : ∀ entry ∈ workload.entries, entry.cluster = compiler.cluster) :
    ((compiler.document workload).run world session).1 =
      (compiler.additions workload world session).map PolicyDocument.ofItems := by
  rw [document, run_note_bind, run_bind, run_try_catch, ← policies_result resolved]
  have steady : (compiler.policies workload).Steady compiler.cluster world :=
    compiler.steady_policies resolved
  have noted := steady.decides session
    { session with events := session.events ++ [.documentStarted workload.kind.name workload.title] }
    (World.answers_congr compiler.cluster rfl rfl)
  rw [← noted]
  rcases (compiler.policies workload).run world { session with
    events := session.events ++ [.documentStarted workload.kind.name workload.title] } with ⟨r, after⟩
  cases r with
  | ok document => rfl
  | error failure => cases failure <;> rfl

/-- A name and a policy are what an entry adds. -/
def Adds (compiler : WorkloadCompiler) (workload : Workload) (world : World) (session : Session)
    (entry : ContainerEntry) (item : Text × ContainerPolicy) : Prop :=
  entry.name = .ok item.1 ∧ compiler.entryPolicy workload world session entry = .ok item.2

theorem entry_item_ok_iff {entry : ContainerEntry} {item : Text × ContainerPolicy} :
    compiler.entryItem workload world session entry = .ok item ↔
      compiler.Adds workload world session entry item := by
  rcases item with ⟨name, policy⟩
  rw [entryItem, Adds]
  simp [Outcome.bind_ok_iff, Outcome.map_error_ok_iff, pure, Except.pure]

theorem reserved_item_ok_iff {name : Text} {item : Text × ContainerPolicy} :
    compiler.reservedItem world name = .ok item ↔
      item.1 = name ∧ compiler.sandboxPolicy world = .ok item.2 := by
  rcases item with ⟨added, policy⟩
  rw [reservedItem, Outcome.map_ok_iff]
  constructor
  · rintro ⟨made, result, same⟩
    obtain ⟨rfl, rfl⟩ := Prod.mk.inj same
    exact ⟨rfl, result⟩
  · rintro ⟨rfl, result⟩
    exact ⟨policy, result, rfl⟩

/-- The sandbox's policy is what is added under the names that are not for containers. -/
def Reserves (compiler : WorkloadCompiler) (world : World) (others : List (Text × ContainerPolicy)) : Prop :=
  List.Forall₂ (fun name item => item.1 = name ∧ compiler.sandboxPolicy world = .ok item.2)
    compiler.reserved others

theorem additions_ok_iff {items : List (Text × ContainerPolicy)} :
    compiler.additions workload world session = .ok items ↔
      ∃ own others, List.Forall₂ (compiler.Adds workload world session) workload.entries own ∧
        compiler.Reserves world others ∧ own ++ others = items := by
  simp only [additions, Reserves, Outcome.bind_ok_iff, Outcome.map_m_ok_iff, entry_item_ok_iff,
    reserved_item_ok_iff, pure, Except.pure, Except.ok.injEq]
  exact ⟨fun ⟨own, added, others, reserved, same⟩ => ⟨own, others, added, reserved, same⟩,
    fun ⟨own, others, added, reserved, same⟩ => ⟨own, added, others, reserved, same⟩⟩

theorem document_ok_iff {document : PolicyDocument}
    (resolved : ∀ entry ∈ workload.entries, entry.cluster = compiler.cluster) :
    ((compiler.document workload).run world session).1 = .ok document ↔
      ∃ own others, List.Forall₂ (compiler.Adds workload world session) workload.entries own ∧
        compiler.Reserves world others ∧ PolicyDocument.ofItems (own ++ others) = document := by
  rw [document_result resolved, Outcome.map_ok_iff]
  constructor
  · rintro ⟨items, added, rfl⟩
    obtain ⟨own, others, ownAdded, reserved, rfl⟩ := additions_ok_iff.mp added
    exact ⟨own, others, ownAdded, reserved, rfl⟩
  · rintro ⟨own, others, ownAdded, reserved, rfl⟩
    exact ⟨_, additions_ok_iff.mpr ⟨own, others, ownAdded, reserved, rfl⟩, rfl⟩

section Added

variable {own others : List (Text × ContainerPolicy)}

theorem names_of_added
    (added : List.Forall₂ (compiler.Adds workload world session) workload.entries own) :
    List.Forall₂ (fun entry name => entry.name = .ok name) workload.entries (own.map (·.1)) :=
  List.forall₂_map_right_iff.mpr (added.imp fun _ _ adds => adds.1)

theorem names_of_reserved (added : compiler.Reserves world others) :
    others.map (·.1) = compiler.reserved :=
  List.forall₂_eq_eq_eq ▸ List.forall₂_map_left_iff.mpr (added.flip.imp fun _ _ same => same.1)

theorem get_of_last_entry {before rest : List ContainerEntry} {entry : ContainerEntry} {name : Text}
    (added : List.Forall₂ (compiler.Adds workload world session) workload.entries own)
    (reservedNames : others.map (·.1) = compiler.reserved)
    (listed : workload.entries = before ++ entry :: rest)
    (named : entry.name = .ok name)
    (last : ∀ later ∈ rest, later.name ≠ .ok name)
    (apart : name ∉ compiler.reserved) :
    ∃ policy, compiler.entryPolicy workload world session entry = .ok policy ∧
      (PolicyDocument.ofItems (own ++ others)).get? name = some policy := by
  rw [listed] at added
  obtain ⟨front, items, rfl, -, added⟩ := Outcome.related_append added
  obtain ⟨⟨itemName, policy⟩, later, adds, rests, rfl⟩ := List.forall₂_cons_left_iff.mp added
  obtain rfl : name = itemName := Except.ok.inj (named.symm.trans adds.1)
  -- nothing that is added afterwards has this name
  have noneLater : Keyed.last? Prod.fst later name = none := by
    rw [Keyed.last_eq_none_iff]
    intro member
    obtain ⟨item, within, same⟩ := List.mem_map.mp member
    obtain ⟨other, laterEntry, otherNamed, -⟩ := Outcome.related_result rests within
    exact last other laterEntry (same ▸ otherNamed)
  have noneReserved : Keyed.last? Prod.fst others name = none := by
    rw [Keyed.last_eq_none_iff, reservedNames]
    exact apart
  refine ⟨policy, adds.2, ?_⟩
  rw [PolicyDocument.get_of_items, Keyed.last_append, Keyed.last_append, Keyed.last_cons, noneLater,
    noneReserved, if_pos rfl]
  rfl

theorem get_of_reserved {name : Text}
    (added : compiler.Reserves world others)
    (reserved : name ∈ compiler.reserved) :
    ∃ policy, compiler.sandboxPolicy world = .ok policy ∧
      (PolicyDocument.ofItems (own ++ others)).get? name = some policy := by
  rw [← names_of_reserved added] at reserved
  cases last : Keyed.last? Prod.fst others name with
  | none => exact absurd reserved ((Keyed.last_eq_none_iff Prod.fst others name).mp last)
  | some item =>
      obtain ⟨-, -, -, result⟩ := Outcome.related_result added (Keyed.mem_of_last Prod.fst last)
      refine ⟨item.2, result, ?_⟩
      rw [PolicyDocument.get_of_items, Keyed.last_append, last]
      rfl

end Added

/-- Under each name, where it first occurs, a document has the policy of the last container of that
name, and under the sandbox's name the sandbox whenever there is one. -/
structure Assembles (compiler : WorkloadCompiler) (workload : Workload) (world : World)
    (session : Session) (document : PolicyDocument) : Prop where
  names : ∃ names, List.Forall₂ (fun entry name => entry.name = .ok name) workload.entries names ∧
    document.names = (names ++ compiler.reserved).eraseDups
  last : ∀ before entry rest name, workload.entries = before ++ entry :: rest →
    entry.name = .ok name → (∀ later ∈ rest, later.name ≠ .ok name) → name ∉ compiler.reserved →
    ∃ policy, compiler.entryPolicy workload world session entry = .ok policy ∧
      document.get? name = some policy
  sandbox : ∀ name ∈ compiler.reserved, ∃ policy, compiler.sandboxPolicy world = .ok policy ∧
    document.get? name = some policy

theorem document_assembles {document : PolicyDocument}
    (resolved : ∀ entry ∈ workload.entries, entry.cluster = compiler.cluster)
    (compiled : ((compiler.document workload).run world session).1 = .ok document) :
    compiler.Assembles workload world session document := by
  obtain ⟨own, others, ownAdded, reserved, rfl⟩ := (document_ok_iff resolved).mp compiled
  constructor
  · refine ⟨own.map (·.1), names_of_added ownAdded, ?_⟩
    rw [PolicyDocument.names_of_items, List.map_append, names_of_reserved reserved]
  · intro before entry rest name listed named last apart
    exact get_of_last_entry ownAdded (names_of_reserved reserved) listed named last apart
  · intro name member
    exact get_of_reserved reserved member

theorem has_document_iff
    (resolved : ∀ entry ∈ workload.entries, entry.cluster = compiler.cluster) :
    (∃ document, ((compiler.document workload).run world session).1 = .ok document) ↔
      (∀ entry ∈ workload.entries, (∃ name, entry.name = .ok name) ∧
        ∃ policy, compiler.entryPolicy workload world session entry = .ok policy) ∧
      (compiler.withRuntime = true → ∃ policy, compiler.sandboxPolicy world = .ok policy) := by
  constructor
  · rintro ⟨document, compiled⟩
    obtain ⟨own, others, ownAdded, reserved, rfl⟩ := (document_ok_iff resolved).mp compiled
    constructor
    · intro entry member
      obtain ⟨item, -, named, made⟩ := Outcome.related_item ownAdded member
      exact ⟨⟨item.1, named⟩, item.2, made⟩
    · intro withRuntime
      have member : (sandboxName : Text) ∈ compiler.reserved := by simp [WorkloadCompiler.reserved, withRuntime]
      obtain ⟨item, -, -, made⟩ := Outcome.related_item reserved member
      exact ⟨item.2, made⟩
  · rintro ⟨entries, sandbox⟩
    have own : ∃ own, List.Forall₂ (compiler.Adds workload world session) workload.entries own := by
      apply Outcome.related_of_each
      intro entry member
      obtain ⟨⟨name, named⟩, policy, made⟩ := entries entry member
      exact ⟨(name, policy), named, made⟩
    have others : ∃ others, compiler.Reserves world others := by
      apply Outcome.related_of_each
      intro name member
      have withRuntime : compiler.withRuntime = true := by
        by_contra without
        simp [reserved, without] at member
      obtain ⟨policy, made⟩ := sandbox withRuntime
      exact ⟨(name, policy), rfl, made⟩
    obtain ⟨own, ownAdded⟩ := own
    obtain ⟨others, reserved⟩ := others
    exact ⟨_, (document_ok_iff resolved).mpr ⟨own, others, ownAdded, reserved, rfl⟩⟩

theorem names_unique :
    Relator.RightUnique fun (entry : ContainerEntry) (name : Text) => entry.name = .ok name :=
  fun _ _ _ here there => Except.ok.inj (here.symm.trans there)

/-- No container is lost when all names are different. -/
theorem Assembles.keeps_all {document : PolicyDocument} {names : List Text}
    (assembles : compiler.Assembles workload world session document)
    (named : List.Forall₂ (fun entry name => entry.name = .ok name) workload.entries names)
    (distinct : (names ++ compiler.reserved).Nodup) :
    document.names = names ++ compiler.reserved ∧
      ∀ entry ∈ workload.entries, ∃ name policy, entry.name = .ok name ∧
        compiler.entryPolicy workload world session entry = .ok policy ∧
        document.get? name = some policy := by
  constructor
  · obtain ⟨others, otherNamed, order⟩ := assembles.names
    rw [order, names_unique.forall₂ otherNamed named, Keyed.erase_dups_of_nodup distinct]
  · intro entry member
    obtain ⟨before, rest, listed⟩ := List.append_of_mem member
    rw [listed] at named
    obtain ⟨front, following, rfl, -, named⟩ := Outcome.related_append named
    obtain ⟨name, later, here, rests, rfl⟩ := List.forall₂_cons_left_iff.mp named
    rw [List.append_assoc, List.nodup_append, List.cons_append, List.nodup_cons, List.mem_append,
      not_or] at distinct
    obtain ⟨-, ⟨⟨newLater, newReserved⟩, -⟩, -⟩ := distinct
    have last : ∀ other ∈ rest, other.name ≠ .ok name := by
      intro other within same
      obtain ⟨otherName, laterName, otherNamed⟩ := Outcome.related_item rests within
      exact newLater (Except.ok.inj (same.symm.trans otherNamed) ▸ laterName)
    obtain ⟨policy, made, found⟩ :=
      assembles.last before entry rest name listed here last newReserved
    exact ⟨name, policy, here, made, found⟩

/-- The document of a workload has what each container and the sandbox add to it, and there is one just
when none of them fails, also those that others replace. -/
theorem document_assembled
    {compiler : WorkloadCompiler}
    {manifest : Value}
    {workload : Workload}
    (world : World)
    (session : Session)
    (read : Workload.ofDocument manifest compiler.cluster = .ok workload) :
    (∀ document, ((compiler.document workload).run world session).1 = .ok document →
      compiler.Assembles workload world session document) ∧
    ((∃ document, ((compiler.document workload).run world session).1 = .ok document) ↔
      (∀ entry ∈ workload.entries, (∃ name, entry.name = .ok name) ∧
        ∃ policy, compiler.entryPolicy workload world session entry = .ok policy) ∧
      (compiler.withRuntime = true → ∃ policy, compiler.sandboxPolicy world = .ok policy)) ∧
    ∀ document names, ((compiler.document workload).run world session).1 = .ok document →
      List.Forall₂ (fun entry name => entry.name = .ok name) workload.entries names →
      (names ++ compiler.reserved).Nodup →
      document.names = names ++ compiler.reserved ∧
      ∀ entry ∈ workload.entries, ∃ name policy, entry.name = .ok name ∧
        compiler.entryPolicy workload world session entry = .ok policy ∧
        document.get? name = some policy := by
  have resolved : ∀ entry ∈ workload.entries, entry.cluster = compiler.cluster :=
    fun entry member => Workload.cluster_of_entry read member
  refine ⟨fun document compiled => document_assembles resolved compiled,
    has_document_iff resolved, ?_⟩
  intro document names compiled named distinct
  exact (document_assembles resolved compiled).keeps_all named distinct

/-- A pod whose init container replaces a container, and with a container that the sandbox replaces. -/
def crowdedPod : Value :=
  .object [("kind", .text "Pod"), ("spec", .object [
    ("containers", .list [
      .object [("name", .text "app"), ("image", .text "app")],
      .object [("name", .text sandboxName), ("image", .text "app")]]),
    ("initContainers", .list [
      .object [("name", .text "app"), ("image", .text "app"), ("command", .list [.text "init"])]])])]

def crowdedCompiler : WorkloadCompiler := ofSettings { withRuntime := true }

def crowdedWorkload : Workload :=
  (Workload.ofDocument crowdedPod crowdedCompiler.cluster).toOption.getD { kind := .pod }

theorem crowded_pod_assembled :
    ∃ document app sandbox,
      Workload.ofDocument crowdedPod crowdedCompiler.cluster = .ok crowdedWorkload ∧
      ((crowdedCompiler.document crowdedWorkload).run .shell {}).1 = .ok document ∧
      document.names = [.string "app", .string sandboxName] ∧
      document.get? "app" = some app ∧ app.spec.process.args = [.text "init"] ∧
      document.get? sandboxName = some sandbox ∧
      crowdedCompiler.sandboxPolicy .shell = .ok sandbox := by
  have read : Workload.ofDocument crowdedPod crowdedCompiler.cluster = .ok crowdedWorkload := by
    decide +kernel
  have succeeds : ((crowdedCompiler.document crowdedWorkload).run .shell {}).1.map (·.size) = .ok 2 := by
    decide +kernel
  have entryNames : crowdedWorkload.entries.map (·.name) =
      [.ok "app", .ok sandboxName, .ok "app"] := by decide +kernel
  have replacing : (crowdedWorkload.initContainers.map fun init => (init.name,
      (crowdedCompiler.entryPolicy crowdedWorkload .shell {} init).map (·.spec.process.args))) =
      [(.ok "app", .ok [.text "init"])] := by decide +kernel
  obtain ⟨document, made, -⟩ := Outcome.map_ok_iff.mp succeeds
  obtain ⟨init, listed, facts⟩ := List.map_eq_singleton_iff.mp replacing
  obtain ⟨named, compiled⟩ := Prod.mk.inj facts
  have entries : crowdedWorkload.entries = crowdedWorkload.containers ++ init :: [] := by
    rw [Workload.entries, listed]
  obtain ⟨assembles, -⟩ := document_assembled .shell {} read
  obtain ⟨⟨names, allNamed, order⟩, last, sandbox⟩ := assembles document made
  obtain ⟨app, own, appFound⟩ := last _ init [] "app" entries named (by simp) (by decide)
  obtain ⟨pause, pauseMade, pauseFound⟩ := sandbox sandboxName (by decide)
  rw [own] at compiled
  refine ⟨document, app, pause, read, made, ?_, appFound, Except.ok.inj compiled, pauseFound, pauseMade⟩
  have expected : List.Forall₂ (fun (reading : Manifest.Read Text) name => reading = .ok name)
      [.ok "app", .ok sandboxName, .ok "app"] ["app", sandboxName, "app"] :=
    .cons rfl (.cons rfl (.cons rfl .nil))
  rw [← entryNames, List.forall₂_map_left_iff] at expected
  rw [order, names_unique.forall₂ allNamed expected]
  decide

end WorkloadCompiler

end LaunchPolicy
