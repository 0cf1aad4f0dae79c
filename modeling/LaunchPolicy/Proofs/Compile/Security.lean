import LaunchPolicy.Proofs.Compile.Sources
import LaunchPolicy.Proofs.Manifest.Toggled

/-!
What the flags by which a container is confined do to its policy. None of them decides whether there is
a policy, and without the runtime's defaults none is seen in it. With the defaults a container that is
privileged may write to the file systems of the kernel, a terminal is announced and named, and that is
all. Whether privileges may be escalated is never seen.
-/

namespace LaunchPolicy

namespace Mount

/-- The mount in a privileged container, where the kernel's file systems are no longer read only. -/
def opened (mount : Mount) : Mount :=
  if mount.type = .text "sysfs" ∨ mount.type = .text "cgroup" then
    { mount with options := mount.options.map fun option : Text => if option = "ro" then "rw" else option }
  else mount

theorem adjust_privileged_eq_opened (mount : Mount) : mount.adjustPrivileged = mount.opened := by
  rw [adjustPrivileged, opened]
  simp only [writable_when_privileged_iff]

end Mount

namespace ContainerPolicy

open Env (hasValue)

section

variable {image : ImageConfig} {own : List Text}

theorem others_service_env : Env.others Kubelet.serviceEnv "TERM" = Kubelet.serviceEnv := by
  apply List.filter_eq_self.mpr
  intro rule member
  have pattern := Kubelet.service_env_patterns _ (List.mem_map_of_mem member)
  have other : Env.name rule ≠ "TERM" := by
    intro same
    rw [same] at pattern
    exact absurd pattern (by decide)
  simpa using other

theorem others_lower_env (withRuntime tty : Bool) :
    Env.others (lowerEnv withRuntime tty) "TERM" = lowerEnv withRuntime false := by
  have runtime : Env.others (Runtime.containerEnv tty) "TERM" = Runtime.containerEnv false := by
    cases tty <;> decide +kernel
  rw [lowerEnv, Env.others, List.filter_append]
  change _ ++ Env.others Kubelet.serviceEnv "TERM" = _
  rw [others_service_env]
  cases withRuntime with
  | false => rfl
  | true => exact congrArg (· ++ Kubelet.serviceEnv) runtime

/-- The rules of all variables but the terminal's are those of a container without a terminal. -/
theorem others_final_env (ownValued : ∀ rule ∈ own, hasValue rule = true) (withRuntime tty : Bool) :
    Env.others (finalEnv withRuntime tty image own) "TERM" =
      Env.merge (Env.merge (lowerEnv withRuntime false) (Env.others image.valuedRules "TERM"))
        (Env.others own "TERM") := by
  rw [finalEnv, Env.others_merge _ ownValued, Env.others_merge _ (valued_rules_valued image),
    others_lower_env]

variable (image) in
/-- A terminal is named once, behind the host name and the search path, whatever rules the image and
the container have for it. -/
theorem terminal_rule (ownValued : ∀ rule ∈ own, hasValue rule = true) :
    ∃ rule, Env.named (finalEnv true true image own) "TERM" = [rule] ∧
      (finalEnv true true image own)[2]? = some rule := by
  have lowerThird : ((lowerEnv true true).map Env.name)[2]? = some ("TERM" : Text) := by
    rw [lowerEnv, List.map_append, if_pos rfl, Runtime.container_env_names]
    rfl
  have known : Env.named (lowerEnv true true) "TERM" ≠ [] := by
    rw [Ne, Env.named_eq_nil_iff, not_not]
    exact List.mem_of_getElem? lowerThird
  have lower : (Env.named (lowerEnv true true) "TERM").length = 1 := by
    have filled := List.length_pos_iff.mpr known
    have short : (Env.named (lowerEnv true true) "TERM").length ≤ 1 :=
      Env.length_named_le (lower_env_distinct true true) "TERM"
    omega
  -- Overrides keep the number of rules of a known name, and a name its place.
  have middle : (Env.named (Env.merge (lowerEnv true true) image.valuedRules) "TERM").length = 1 := by
    rw [Env.length_named_merge (valued_rules_valued image) known, lower]
  have single : (Env.named (finalEnv true true image own) "TERM").length = 1 := by
    rw [finalEnv, Env.length_named_merge ownValued (List.length_pos_iff.mp (by omega)), middle]
  have names : ((finalEnv true true image own).take (lowerEnv true true).length).map Env.name =
      (lowerEnv true true).map Env.name := names_final_env ownValued
  have third := lowerThird
  rw [← names] at third
  rw [List.getElem?_map, List.getElem?_take_of_lt (by decide)] at third
  obtain ⟨rule, here, same⟩ := Option.map_eq_some_iff.mp third
  exact ⟨rule, Env.named_of_single single (List.mem_of_getElem? here) same, here⟩

end

/-- How it is seen in a policy whether its container is privileged and whether it has a terminal, when
the mounts would be the given ones without privileges. -/
structure Shows (policy : ContainerPolicy) (privileged tty : Bool) (closed : List Mount) : Prop where
  mounts : policy.spec.mounts = if privileged then closed.map Mount.opened else closed
  terminal : policy.spec.process.terminal = tty
  named : tty = true → ∃ rules rule, policy.spec.process.env = rules.map .text ∧
    Env.named rules "TERM" = [rule] ∧ rules[2]? = some rule

/-- Policies that differ at most in what some flags are seen in. -/
structure SameBut (flags : List SecurityFlag) (policy other : ContainerPolicy) : Prop where
  frame : { other with spec := { other.spec with
    mounts := policy.spec.mounts
    process := { other.spec.process with
      terminal := policy.spec.process.terminal
      env := policy.spec.process.env } } } = policy
  mounts : .privileged ∉ flags → policy.spec.mounts = other.spec.mounts
  terminal : .tty ∉ flags → policy.spec.process.terminal = other.spec.process.terminal
  env : .tty ∉ flags → policy.spec.process.env = other.spec.process.env
  others : ∃ rules otherRules, policy.spec.process.env = rules.map .text ∧
    other.spec.process.env = otherRules.map .text ∧
    Env.others rules "TERM" = Env.others otherRules "TERM"

end ContainerPolicy

namespace Gathered

/-- What is gathered for two containers that differ in some flags at most. -/
structure Flagged (flags : List SecurityFlag) (gathered other : Gathered) : Prop where
  image : other.image = gathered.image
  declared : other.declared = gathered.declared
  privileged : .privileged ∉ flags → gathered.privileged = other.privileged
  tty : .tty ∉ flags → gathered.tty = other.tty

variable {gathered other : Gathered} {withRuntime : Bool} {flags : List SecurityFlag}

/-- The mounts that the image, the kubelet and the entry ask for. -/
def requested (gathered : Gathered) : List Mount :=
  gathered.image.volumeMounts ++ Kubelet.mounts ++ gathered.declared.mounts

theorem layers_flatten (gathered : Gathered) (withRuntime : Bool) :
    (gathered.layers withRuntime).flatten = (gathered.defaults withRuntime).mounts ++ gathered.requested := by
  simp [layers, requested]

theorem Sound.requested_bound (sound : gathered.Sound) :
    ∀ mount ∈ gathered.requested, mount.isWritableWhenPrivileged = false := by
  have kubelet : ∀ mount ∈ Kubelet.mounts, mount.isWritableWhenPrivileged = false := by decide
  intro mount member
  rcases List.mem_append.mp member with lower | own
  · exact (List.mem_append.mp lower).elim (gathered.image.volume_mounts_bound mount) (kubelet mount)
  · exact sound.bound mount own

/-- The same container without privileges. -/
def unprivileged (gathered : Gathered) : Gathered := { gathered with privileged := false }

theorem Sound.unprivileged (sound : gathered.Sound) : gathered.unprivileged.Sound :=
  ⟨sound.valued, sound.typed, sound.bound⟩

/-- Privileges open mounts in their places: none that is requested is among those, so it does not matter
that the runtime opens its own before the others replace them. -/
theorem Sound.mounts_opened (sound : gathered.Sound) (withRuntime : Bool) :
    gathered.mounts withRuntime = if withRuntime && gathered.privileged then
      (gathered.unprivileged.mounts withRuntime).map Mount.opened
    else gathered.unprivileged.mounts withRuntime := by
  obtain ⟨privileged, tty, image, declared⟩ := gathered
  cases withRuntime with
  | false => rfl
  | true =>
      cases privileged with
      | false => rfl
      | true =>
          have adjusted : (layers ⟨true, tty, image, declared⟩ true).flatten =
              (layers ⟨false, tty, image, declared⟩ true).flatten.map Mount.adjustPrivileged := by
            rw [layers_flatten, layers_flatten, List.map_append]
            congr 1
            exact (Mounts.map_adjust_privileged_bound sound.requested_bound).symm
          rw [mounts, adjusted, ← funext Mount.adjust_privileged_eq_opened]
          exact Mounts.fold_place_map Mount.adjust_privileged_destination [] _

/-- A mount that privileges open is the runtime's, at a place where no other is requested. -/
theorem Sound.opened_of_runtime (sound : gathered.Sound) {mount : Mount}
    (member : mount ∈ gathered.unprivileged.mounts withRuntime) (opens : mount.opened ≠ mount) :
    mount ∈ Runtime.containerMounts ∧
      ∀ other ∈ gathered.requested, other.destination ≠ mount.destination := by
  have writable : mount.isWritableWhenPrivileged = true := by
    by_contra bound
    rw [← Mount.adjust_privileged_eq_opened] at opens
    exact opens (Mount.adjust_privileged_bound (by simpa using bound))
  -- Of the mounts at a place the last is kept: a requested one, which does not open, or the runtime's.
  have last := ((sound.unprivileged.mounts_keep withRuntime).mem_iff mount).mp member
  rw [layers_flatten, Keyed.last_append] at last
  cases requested : Keyed.last? Mount.destination gathered.unprivileged.requested mount.destination with
  | some other =>
      rw [requested, Option.some_or] at last
      obtain rfl := Option.some.inj last
      have bound := sound.requested_bound other (Keyed.mem_of_last _ requested)
      rw [bound] at writable
      contradiction
  | none =>
      rw [requested, Option.none_or] at last
      have apart := (Keyed.last_eq_none_iff _ _ _).mp requested
      have default := Keyed.mem_of_last _ last
      refine ⟨?_, fun other listed same => apart (same ▸ List.mem_map_of_mem listed)⟩
      cases withRuntime with
      | false => contradiction
      | true => exact default

theorem Sound.shows (sound : gathered.Sound) (withRuntime : Bool) (args : List Text) :
    (gathered.policy withRuntime args).Shows (withRuntime && gathered.privileged)
      (withRuntime && gathered.tty) (gathered.unprivileged.mounts withRuntime) where
  mounts := sound.mounts_opened withRuntime
  terminal := by cases withRuntime <;> rfl
  named := by
    intro named
    obtain ⟨rfl, tty⟩ := Bool.and_eq_true_iff.mp named
    obtain ⟨rule, sole, third⟩ := ContainerPolicy.terminal_rule gathered.image sound.valued
    exact ⟨_, rule, rfl, by rw [env, tty]; exact sole, by rw [env, tty]; exact third⟩

/-- Flags that are not seen in a policy do not matter for it. -/
theorem Flagged.policy_eq (flagged : gathered.Flagged flags other) (sound : gathered.Sound)
    (unseen : withRuntime = false ∨ .privileged ∉ flags ∧ .tty ∉ flags) :
    other.policy withRuntime = gathered.policy withRuntime := by
  obtain ⟨privileged, tty, image, declared⟩ := gathered
  obtain ⟨otherPrivileged, otherTty, otherImage, otherDeclared⟩ := other
  obtain rfl : otherImage = image := flagged.image
  obtain rfl : otherDeclared = declared := flagged.declared
  rcases unseen with rfl | ⟨notPrivileged, notTty⟩
  · rfl
  · obtain rfl := flagged.privileged notPrivileged
    obtain rfl := flagged.tty notTty
    rfl

theorem Flagged.args_eq (flagged : gathered.Flagged flags other) : other.args = gathered.args := by
  rw [args, args, flagged.image, flagged.declared]

theorem Flagged.unprivileged_mounts_eq (flagged : gathered.Flagged flags other) (withRuntime : Bool) :
    other.unprivileged.mounts withRuntime = gathered.unprivileged.mounts withRuntime := by
  have requested : other.unprivileged.requested = gathered.unprivileged.requested := by
    rw [Gathered.requested, Gathered.requested]
    change other.image.volumeMounts ++ _ ++ other.declared.mounts = _
    rw [flagged.image, flagged.declared]
    rfl
  have defaults : (other.unprivileged.defaults withRuntime).mounts =
      (gathered.unprivileged.defaults withRuntime).mounts := by cases withRuntime <;> rfl
  rw [mounts, mounts, layers_flatten, layers_flatten, defaults, requested]

theorem Flagged.same_but (flagged : gathered.Flagged flags other) (sound : gathered.Sound)
    (withRuntime : Bool) (args : List Text) :
    (gathered.policy withRuntime args).SameBut flags (other.policy withRuntime args) := by
  obtain ⟨privileged, tty, image, declared⟩ := gathered
  obtain ⟨otherPrivileged, otherTty, otherImage, otherDeclared⟩ := other
  obtain rfl : otherImage = image := flagged.image
  obtain rfl : otherDeclared = declared := flagged.declared
  constructor
  · cases withRuntime <;> rfl
  · intro fixed
    obtain rfl : privileged = otherPrivileged := flagged.privileged fixed
    cases withRuntime <;> rfl
  · intro fixed
    obtain rfl : tty = otherTty := flagged.tty fixed
    cases withRuntime <;> rfl
  · intro fixed
    obtain rfl : tty = otherTty := flagged.tty fixed
    rfl
  · refine ⟨_, _, rfl, rfl, ?_⟩
    rw [env, env, ContainerPolicy.others_final_env sound.valued, ContainerPolicy.others_final_env sound.valued]

end Gathered

namespace Compiler

open Outcome (Agree)

variable {flags : List SecurityFlag} {entry other : ContainerEntry}

theorem declared_toggled (toggled : entry.Toggled flags other) (volumes : Volumes) :
    Declared.ofEntry other (some volumes) = Declared.ofEntry entry (some volumes) := by
  simp only [Declared.ofEntry, toggled.entry_point_eq, toggled.environment_eq, toggled.mounts_eq]

/-- Flags are read before anything else is, and what they say decides nothing of it. -/
theorem gather_toggled (toggled : entry.Toggled flags other) (compiler : Compiler) (volumes : Volumes)
    (world : World) (session : Session) :
    Agree (Gathered.Flagged flags) (compiler.gather entry volumes world session)
      (compiler.gather other volumes world session) := by
  rw [gather, gather, toggled.image_eq, declared_toggled toggled]
  refine (toggled.security_context_agree.map_error Failure.policy).bind fun _ _ privileged => ?_
  refine (toggled.tty_agree.map_error Failure.policy).bind fun _ _ tty => ?_
  exact Agree.bind_same fun _ => Agree.bind_same fun _ => Agree.bind_same fun _ =>
    .ok ⟨rfl, rfl, privileged, tty⟩

/-- The policies of containers that differ in some flags at most. Without the runtime's defaults, and
where neither privileges nor a terminal can differ, they are the same; else both containers have one or
have none for the same reason. What privileges change are mounts of the runtime at places that nothing
else is mounted at, and what a terminal changes are its announcement and the rule that names it. -/
theorem security_flags_confined (toggled : entry.Toggled flags other) (compiler : Compiler)
    (volumes : Volumes) (withRuntime : Bool) (world : World) (session : Session) :
    (withRuntime = false ∨ .privileged ∉ flags ∧ .tty ∉ flags →
      ((compiler.container other volumes withRuntime).run world session).1 =
        ((compiler.container entry volumes withRuntime).run world session).1) ∧
    Agree (fun policy changed => ∃ gathered after closed,
        compiler.gather entry volumes world session = .ok gathered ∧
        compiler.gather other volumes world session = .ok after ∧
        policy.Shows (withRuntime && gathered.privileged) (withRuntime && gathered.tty) closed ∧
        changed.Shows (withRuntime && after.privileged) (withRuntime && after.tty) closed ∧
        policy.SameBut flags changed ∧
        ∀ mount ∈ closed, mount.opened ≠ mount → mount ∈ Runtime.containerMounts ∧
          ∀ requested ∈ gathered.image.volumeMounts ++ Kubelet.mounts ++ gathered.declared.mounts,
            requested.destination ≠ mount.destination)
      ((compiler.container entry volumes withRuntime).run world session).1
      ((compiler.container other volumes withRuntime).run world session).1 := by
  have gathers := (gather_toggled toggled compiler volumes world session).known
  rw [container_result, container_result]
  constructor
  · intro unseen
    refine (gathers.bind_eq fun gathered after both => ?_).symm
    obtain ⟨made, -, flagged⟩ := both
    rw [flagged.policy_eq (gather_sound made) unseen, flagged.args_eq]
  · refine gathers.bind fun gathered after both => ?_
    obtain ⟨made, madeToo, flagged⟩ := both
    have sound := gather_sound made
    rw [flagged.args_eq]
    cases gathered.args with
    | error failure => exact .error failure
    | ok args =>
        refine .ok ⟨gathered, after, gathered.unprivileged.mounts withRuntime, made, madeToo,
          sound.shows withRuntime args, ?_, flagged.same_but sound withRuntime args,
          fun mount member => sound.opened_of_runtime member⟩
        rw [← flagged.unprivileged_mounts_eq]
        exact (gather_sound madeToo).shows withRuntime args

theorem flagged_entry_confined :
    ∃ policy changed rules rule,
      (flaggedEntry false).Toggled [.privileged, .allowPrivilegeEscalation, .tty] (flaggedEntry true) ∧
      ((container {} (flaggedEntry false) [] true).run .shell {}).1 = .ok policy ∧
      ((container {} (flaggedEntry true) [] true).run .shell {}).1 = .ok changed ∧
      changed.spec.mounts = policy.spec.mounts.map Mount.opened ∧
      changed.spec.process.terminal = true ∧ changed.spec.process.env = rules.map .text ∧
      Env.named rules "TERM" = [rule] ∧ rules[2]? = some rule ∧
      policy.SameBut [.privileged, .allowPrivilegeEscalation, .tty] changed := by
  have toggled : (flaggedEntry false).Toggled [.privileged, .allowPrivilegeEscalation, .tty]
      (flaggedEntry true) := by
    refine ⟨rfl, rfl, rfl, .cons ⟨rfl, .same _ _⟩ (.cons ⟨rfl, .same _ _⟩ (.cons ⟨rfl, .tty ?_ _ _⟩
      (.cons ⟨rfl, .context ?_⟩ .nil)))⟩
    · decide
    · exact .cons ⟨rfl, .privileged (by decide) _ _⟩
        (.cons ⟨rfl, .allowPrivilegeEscalation (by decide) _ _⟩ .nil)
  obtain ⟨-, agree⟩ := security_flags_confined toggled {} [] true .shell {}
  obtain ⟨policy, made⟩ := flagged_entry_runs false true
  rw [made] at agree
  obtain ⟨changed, madeToo, gathered, after, closed, gathers, gathersToo, shows, showsToo, same, -⟩ :=
    agree.of_ok
  obtain rfl := Except.ok.inj (gathers.symm.trans (gather_flagged_entry false))
  obtain rfl := Except.ok.inj (gathersToo.symm.trans (gather_flagged_entry true))
  obtain ⟨rules, rule, env, sole, third⟩ := showsToo.named rfl
  refine ⟨policy, changed, rules, rule, toggled, made, madeToo, ?_, showsToo.terminal, env, sole, third,
    same⟩
  rw [showsToo.mounts, shows.mounts]
  rfl

end Compiler

end LaunchPolicy
