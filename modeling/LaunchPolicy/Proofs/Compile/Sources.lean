import LaunchPolicy.Proofs.Compile.Precedence
import LaunchPolicy.Proofs.Compile.Steady

/-!
What the policy of a container is made of: what is read from its entry, what its image declares and
what the cluster answers, each as it is when the compilation starts. All that can fail is to gather
this and to find something to run; the policy itself is then a matter of merging.
-/

namespace LaunchPolicy

namespace Compile

variable {α β : Type} {cluster : Option ClusterSettings} {world : World}

/-- Steps that are steady come to what each comes to at the start. -/
theorem Steady.result_bind {action : Compile α} {next : α → Compile β}
    (first : action.Steady cluster world) (then_ : ∀ a, (next a).Steady cluster world)
    (session : Session) :
    ((action >>= next).run world session).1 =
      (action.run world session).1 >>= fun a => ((next a).run world session).1 := by
  rw [run_bind]
  rcases ran : action.run world session with ⟨r, middle⟩
  cases r with
  | error failure => rfl
  | ok a => exact (then_ a).decides session middle (first.leaves ran)

end Compile

/-- What is known of a container when its policy is put together. -/
structure Gathered where
  privileged : Bool
  tty : Bool
  image : ImageConfig
  declared : Declared
deriving DecidableEq, Repr

namespace Gathered

variable (gathered : Gathered) (withRuntime : Bool)

def defaults : LaunchSpec :=
  if withRuntime then Runtime.containerRules gathered.privileged gathered.tty else {}

def args : Except Failure (List Text) :=
  (EntryPoint.resolveArgs gathered.declared.entryPoint.command gathered.declared.entryPoint.args
    gathered.image).mapError .policy

def cwd : Text := EntryPoint.resolveCwd gathered.declared.entryPoint.workingDir gathered.image

def env : List Text :=
  ContainerPolicy.finalEnv withRuntime gathered.tty gathered.image gathered.declared.env

/-- The mounts by rising precedence. -/
def layers : List (List Mount) :=
  [(gathered.defaults withRuntime).mounts, gathered.image.volumeMounts, Kubelet.mounts,
    gathered.declared.mounts]

def mounts : List Mount := (gathered.layers withRuntime).flatten.foldl Mounts.place []

/-- The policy, once it is known what to run. -/
def policy (args : List Text) : ContainerPolicy where
  spec := { gathered.defaults withRuntime with
    mounts := gathered.mounts withRuntime
    process := { (gathered.defaults withRuntime).process with
      args := args.map .text
      cwd := if gathered.cwd = "" then (gathered.defaults withRuntime).process.cwd
        else .text gathered.cwd
      env := (gathered.env withRuntime).map .text } }

/-- What an entry declares is read as texts; its rules have values, and its mounts are no file systems
of the kernel. -/
structure Sound : Prop where
  valued : ∀ rule ∈ gathered.declared.env, Env.hasValue rule = true
  typed : ∀ mount ∈ gathered.declared.mounts, mount.Typed
  bound : ∀ mount ∈ gathered.declared.mounts, mount.isWritableWhenPrivileged = false

variable {gathered}

theorem defaults_at_texts : Mounts.AtTexts (gathered.defaults withRuntime).mounts := by
  cases withRuntime with
  | false => simp [defaults, Mounts.AtTexts]
  | true => exact Mounts.at_texts_of_typed (Runtime.container_rules_sound _ _).typed.mounts

theorem kubelet_at_texts : Mounts.AtTexts Kubelet.mounts :=
  Mounts.at_texts_of_typed Kubelet.mounts_typed

theorem Sound.mounts_merge (sound : gathered.Sound) :
    ContainerPolicy.mergeMounts (gathered.defaults withRuntime).mounts gathered.declared.mounts
      Kubelet.mounts gathered.image = .ok (gathered.mounts withRuntime) :=
  ContainerPolicy.merge_mounts_at_texts gathered.image (defaults_at_texts withRuntime)
    (Mounts.at_texts_of_typed sound.typed) kubelet_at_texts

theorem Sound.mounts_keep (sound : gathered.Sound) :
    Keyed.Keeps Mount.destination (gathered.mounts withRuntime) (gathered.layers withRuntime).flatten :=
  (ContainerPolicy.merge_mounts_keeps (defaults_at_texts withRuntime)
    (Mounts.at_texts_of_typed sound.typed) kubelet_at_texts (sound.mounts_merge withRuntime)).2

theorem Sound.complete (sound : gathered.Sound) :
    ContainerPolicy.complete (gathered.defaults withRuntime) Kubelet.containerRules gathered.image
      gathered.declared = gathered.args.map (gathered.policy withRuntime) := by
  have env : ContainerPolicy.mergeEnv (gathered.defaults withRuntime).process.env
      Kubelet.containerRules.process.env gathered.image gathered.declared.env =
        .ok ((gathered.env withRuntime).map .text) := by
    have texts : (gathered.defaults withRuntime).process.env =
        (if withRuntime then Runtime.containerEnv gathered.tty else []).map .text := by
      cases withRuntime <;> rfl
    rw [texts, show Kubelet.containerRules.process.env = Kubelet.serviceEnv.map .text from rfl,
      ContainerPolicy.merge_env_texts, ContainerPolicy.merge_lower_env, ContainerPolicy.merge_image_env]
    rfl
  rw [ContainerPolicy.complete, env,
    show Kubelet.containerRules.mounts = Kubelet.mounts from rfl, sound.mounts_merge, args]
  cases EntryPoint.resolveArgs gathered.declared.entryPoint.command
    gathered.declared.entryPoint.args gathered.image <;> rfl

end Gathered

namespace Compiler

variable {compiler : Compiler} {entry : ContainerEntry} {volumes : Volumes} {world : World}
  {session : Session}

/-- What is gathered for a container from its surroundings in a session. -/
def gather (compiler : Compiler) (entry : ContainerEntry) (volumes : Volumes) (world : World)
    (session : Session) : Except Failure Gathered := do
  let context ← entry.securityContext.mapError .policy
  let tty ← entry.tty.mapError .policy
  let reference ← entry.image.mapError .policy
  let image ← ((compiler.inspector.fetch reference).run world session).1
  let declared ← ((Declared.ofEntry entry (some volumes)).run world session).1
  return { privileged := context.privileged, tty, image, declared }

theorem gather_ok_iff {gathered : Gathered} :
    compiler.gather entry volumes world session = .ok gathered ↔
      ∃ context reference, entry.securityContext = .ok context ∧ entry.image = .ok reference ∧
        gathered.privileged = context.privileged ∧ entry.tty = .ok gathered.tty ∧
        ((compiler.inspector.fetch reference).run world session).1 = .ok gathered.image ∧
        ((Declared.ofEntry entry (some volumes)).run world session).1 = .ok gathered.declared := by
  constructor
  · intro made
    obtain ⟨context, readContext, made⟩ := Outcome.bind_ok_iff.mp made
    obtain ⟨tty, readTty, made⟩ := Outcome.bind_ok_iff.mp made
    obtain ⟨reference, readImage, made⟩ := Outcome.bind_ok_iff.mp made
    obtain ⟨image, fetched, made⟩ := Outcome.bind_ok_iff.mp made
    obtain ⟨declared, ran, made⟩ := Outcome.bind_ok_iff.mp made
    obtain rfl := Except.ok.inj made
    exact ⟨context, reference, Outcome.map_error_ok_iff.mp readContext,
      Outcome.map_error_ok_iff.mp readImage, rfl, Outcome.map_error_ok_iff.mp readTty, fetched, ran⟩
  · rintro ⟨context, reference, readContext, readImage, privileged, readTty, fetched, ran⟩
    rw [gather, readContext, readTty, readImage]
    refine Outcome.bind_ok_iff.mpr ⟨context, rfl, Outcome.bind_ok_iff.mpr ⟨gathered.tty, rfl,
      Outcome.bind_ok_iff.mpr ⟨reference, rfl, Outcome.bind_ok_iff.mpr ⟨_, fetched,
        Outcome.bind_ok_iff.mpr ⟨_, ran, ?_⟩⟩⟩⟩⟩
    rw [← privileged]
    rfl

theorem gather_sound {gathered : Gathered}
    (made : compiler.gather entry volumes world session = .ok gathered) : gathered.Sound := by
  obtain ⟨context, reference, -, -, -, -, -, declared⟩ := gather_ok_iff.mp made
  obtain ⟨after, ran⟩ := Compile.run_of_result declared
  obtain ⟨-, environment, mounts⟩ := Declared.of_entry_ok ran
  exact ⟨ContainerEntry.environment_valued environment, Declared.mounts_of_typed mounts,
    ContainerEntry.mounts_bound mounts⟩

/-- The policy of a container whose image is known. -/
def building (entry : ContainerEntry) (volumes : Volumes) (withRuntime privileged tty : Bool)
    (image : ImageConfig) : Compile ContainerPolicy := do
  let runtime ← runtimeRules privileged tty
  ContainerPolicy.build (some entry) (some volumes) image runtime Kubelet.containerRules withRuntime

theorem steady_build (withRuntime : Bool) (image : ImageConfig) (runtime : LaunchSpec) :
    (ContainerPolicy.build (some entry) (some volumes) image runtime Kubelet.containerRules
      withRuntime).Steady entry.cluster world :=
  (Declared.steady_of_entry entry volumes).bind fun _ => Compile.steady_of_except _

theorem building_result (withRuntime privileged tty : Bool) (image : ImageConfig) :
    ((building entry volumes withRuntime privileged tty image).run world session).1 =
      ((Declared.ofEntry entry (some volumes)).run world session).1 >>= fun declared =>
        ContainerPolicy.complete (if withRuntime then Runtime.containerRules privileged tty else {})
          Kubelet.containerRules image declared := by
  obtain ⟨after, ran⟩ := run_runtime_rules privileged tty world session
  rw [building, (steady_runtime_rules privileged tty).result_bind (steady_build withRuntime image), ran]
  exact (Declared.steady_of_entry entry volumes).result_bind (fun _ => Compile.steady_of_except _) session

/-- The policy of a container from what is gathered for it. -/
theorem container_result (compiler : Compiler) (entry : ContainerEntry) (volumes : Volumes)
    (withRuntime : Bool) (world : World) (session : Session) :
    ((compiler.container entry volumes withRuntime).run world session).1 =
      compiler.gather entry volumes world session >>= fun gathered =>
        gathered.args.map (gathered.policy withRuntime) := by
  have completed : ((compiler.container entry volumes withRuntime).run world session).1 =
      compiler.gather entry volumes world session >>= fun gathered =>
        ContainerPolicy.complete (gathered.defaults withRuntime) Kubelet.containerRules gathered.image
          gathered.declared := by
    rw [container, gather]
    cases entry.securityContext with
    | error e => rfl
    | ok context =>
        cases entry.tty with
        | error e => rfl
        | ok tty =>
            cases entry.image with
            | error e => rfl
            | ok reference =>
                -- The steps after the image come to what they would come to at the start of the session.
                have steady (image : ImageConfig) : (building entry volumes withRuntime
                    context.privileged tty image).Steady entry.cluster world :=
                  (steady_runtime_rules context.privileged tty).bind (steady_build withRuntime image)
                refine ((compiler.inspector.steady_fetch reference).result_bind steady session).trans ?_
                simp only [building_result, Except.mapError, bind, Except.bind]
                cases ((compiler.inspector.fetch reference).run world session).1 with
                | error failure => rfl
                | ok image => cases ((Declared.ofEntry entry (some volumes)).run world session).1 <;> rfl
  rw [completed]
  cases made : compiler.gather entry volumes world session with
  | error failure => rfl
  | ok gathered => exact (gather_sound made).complete withRuntime

/-- An entry with all its flags on or all off, whose environment names a terminal in any case. -/
def flaggedEntry (flag : Bool) : ContainerEntry where
  fields := [(.text "image", .text "app"),
    (.text "env", .list [.object [("name", .text "TERM"), ("value", .text "dumb")]]),
    (.text "tty", .bool flag),
    (.text "securityContext", .object [("privileged", .bool flag),
      ("allowPrivilegeEscalation", .bool flag)])]
  path := {}

theorem gather_flagged_entry (flag : Bool) :
    gather {} (flaggedEntry flag) [] .shell {} = .ok { privileged := flag, tty := flag
                                                       image := { cmd := ["sh"] }
                                                       declared := { env := ["TERM=dumb"] } } := by
  cases flag <;> decide +kernel

theorem flagged_entry_runs (flag withRuntime : Bool) :
    ∃ policy, ((container {} (flaggedEntry flag) [] withRuntime).run .shell {}).1 = .ok policy := by
  rw [container_result, gather_flagged_entry]
  exact ⟨_, rfl⟩

end Compiler

end LaunchPolicy
