import LaunchPolicy.Proofs.Manifest.Optional

/-!
Entries of containers that differ in flags alone. Each flag is read for itself: entries of which only
some flags have other values are read alike but for the values of these flags.
-/

namespace LaunchPolicy

/-- The flags by which an entry says how its container is confined. -/
inductive SecurityFlag where
  | privileged
  | allowPrivilegeEscalation
  | tty
deriving DecidableEq, Repr

/-- Mappings with the same keys in the same order, whose values are related under each key. -/
def Fields.Related (related : Scalar → Value → Value → Prop) (fields others : Fields) : Prop :=
  List.Forall₂ (fun field other => field.1 = other.1 ∧ related field.1 field.2 other.2) fields others

namespace SecurityFlag

/-- What may differ in a security context when some flags may have other values. -/
inductive InContext (flags : List SecurityFlag) : Scalar → Value → Value → Prop
  | same (key : Scalar) (v : Value) : InContext flags key v v
  | privileged (free : privileged ∈ flags) (old new : Bool) :
      InContext flags (.text "privileged") (.bool old) (.bool new)
  | allowPrivilegeEscalation (free : allowPrivilegeEscalation ∈ flags) (old new : Bool) :
      InContext flags (.text "allowPrivilegeEscalation") (.bool old) (.bool new)

/-- What may differ in an entry when some flags may have other values. -/
inductive InEntry (flags : List SecurityFlag) : Scalar → Value → Value → Prop
  | same (key : Scalar) (v : Value) : InEntry flags key v v
  | tty (free : tty ∈ flags) (old new : Bool) : InEntry flags (.text "tty") (.bool old) (.bool new)
  | context {context other : Fields} (related : Fields.Related (InContext flags) context other) :
      InEntry flags (.text "securityContext") (.map context) (.map other)

end SecurityFlag

namespace SecurityFlag

variable {flags : List SecurityFlag} {v w : Value}

theorem InContext.privileged_cases (this : InContext flags (.text "privileged") v w) :
    v = w ∨ .privileged ∈ flags ∧ ∃ old new : Bool, v = .bool old ∧ w = .bool new := by
  generalize same : Scalar.text "privileged" = key at this
  cases this with
  | same => exact .inl rfl
  | privileged free old new => exact .inr ⟨free, old, new, rfl, rfl⟩
  | allowPrivilegeEscalation => exact absurd same (by decide)

theorem InContext.escalation_cases (this : InContext flags (.text "allowPrivilegeEscalation") v w) :
    v = w ∨ .allowPrivilegeEscalation ∈ flags ∧ ∃ old new : Bool, v = .bool old ∧ w = .bool new := by
  generalize same : Scalar.text "allowPrivilegeEscalation" = key at this
  cases this with
  | same => exact .inl rfl
  | privileged => exact absurd same (by decide)
  | allowPrivilegeEscalation free old new => exact .inr ⟨free, old, new, rfl, rfl⟩

theorem InEntry.tty_cases (this : InEntry flags (.text "tty") v w) :
    v = w ∨ .tty ∈ flags ∧ ∃ old new : Bool, v = .bool old ∧ w = .bool new := by
  generalize same : Scalar.text "tty" = key at this
  cases this with
  | same => exact .inl rfl
  | tty free old new => exact .inr ⟨free, old, new, rfl, rfl⟩
  | context => exact absurd same (by decide)

theorem InEntry.eq_of_other {name : String} (notTty : name ≠ "tty")
    (notContext : name ≠ "securityContext") (this : InEntry flags (.text name) v w) : v = w := by
  cases this with
  | same => rfl
  | tty => contradiction
  | context => contradiction

end SecurityFlag

open Manifest
open Outcome (Agree)
open SecurityFlag (InContext InEntry)

namespace Fields

variable {related : Scalar → Value → Value → Prop} {fields others : Fields} {name : String}

theorem Related.get (all : Related related fields others) (name : String) :
    Option.Rel (related (.text name)) (fields.get? (.text name)) (others.get? (.text name)) := by
  induction all with
  | nil => exact .none
  | @cons field other fields others this _ ih =>
      obtain ⟨key, v⟩ := field
      obtain ⟨otherKey, w⟩ := other
      obtain ⟨rfl, this⟩ := this
      rw [get?, get?]
      by_cases here : key.sameKey (.text name) = true
      · rw [if_pos here, if_pos here]
        obtain rfl := (Scalar.same_key_text_iff key name).mp here
        exact .some this
      · rw [if_neg here, if_neg here]
        exact ih

theorem Related.get_eq (all : Related related fields others)
    (same : ∀ v w, related (.text name) v w → v = w) :
    fields.get? (.text name) = others.get? (.text name) := by
  have found := all.get name
  generalize fields.get? (.text name) = one, others.get? (.text name) = another at found
  cases found with
  | none => rfl
  | some this => rw [same _ _ this]

theorem Related.present_eq (all : Related related fields others)
    (same : ∀ v w, related (.text name) v w → v = w) : present? fields name = present? others name := by
  rw [present?, present?, all.get_eq same]

/-- A flag that may have another value can be read all the same. -/
theorem Related.flag_agree (all : Related related fields others) {free : Prop} (path : FieldPath)
    (flags : ∀ v w, related (.text name) v w → v = w ∨ free ∧ ∃ old new : Bool, v = .bool old ∧ w = .bool new) :
    Agree (fun old new => ¬ free → old = new) (flag fields name path) (flag others name path) := by
  have found := all.get name
  rw [flag, flag, present?, present?]
  generalize fields.get? (.text name) = one, others.get? (.text name) = another at found
  cases found with
  | none => exact .ok fun _ => rfl
  | some this =>
      rcases flags _ _ this with rfl | ⟨isFree, old, new, rfl, rfl⟩
      · exact .refl (fun _ _ => rfl) _
      · exact .ok fun fixed => absurd isFree fixed

end Fields

namespace ContainerEntry

/-- Entries of one place that differ in the values of some flags at most. -/
structure Toggled (flags : List SecurityFlag) (entry other : ContainerEntry) : Prop where
  path : other.path = entry.path
  space : other.space = entry.space
  cluster : other.cluster = entry.cluster
  fields : Fields.Related (InEntry flags) entry.fields other.fields

variable {flags : List SecurityFlag} {entry other : ContainerEntry}

theorem Toggled.present_eq (toggled : entry.Toggled flags other) {name : String} (notTty : name ≠ "tty")
    (notContext : name ≠ "securityContext") : present? entry.fields name = present? other.fields name :=
  toggled.fields.present_eq fun _ _ this => this.eq_of_other notTty notContext

theorem Toggled.image_eq (toggled : entry.Toggled flags other) : other.image = entry.image := by
  rw [image, image, toggled.path, string_present (toggled.present_eq (by decide) (by decide))]

theorem Toggled.entry_point_eq (toggled : entry.Toggled flags other) :
    other.entryPoint = entry.entryPoint := by
  rw [entryPoint, entryPoint, toggled.path,
    optional_string_present (toggled.present_eq (by decide) (by decide)),
    strings_present (toggled.present_eq (by decide) (by decide)),
    strings_present (toggled.present_eq (by decide) (by decide))]

theorem Toggled.environment_eq (toggled : entry.Toggled flags other) :
    other.environment = entry.environment := by
  obtain ⟨fields, path, space, cluster⟩ := entry
  obtain ⟨others, otherPath, otherSpace, otherCluster⟩ := other
  obtain rfl : otherPath = path := toggled.path
  obtain rfl : otherSpace = space := toggled.space
  obtain rfl : otherCluster = cluster := toggled.cluster
  exact (environment_present (toggled.present_eq (by decide) (by decide))).symm

theorem Toggled.mounts_eq (toggled : entry.Toggled flags other) (volumes : Volumes) :
    other.mounts volumes = entry.mounts volumes := by
  rw [mounts, mounts, toggled.path, sequence_present (toggled.present_eq (by decide) (by decide))]

theorem Toggled.tty_agree (toggled : entry.Toggled flags other) :
    Agree (fun old new => .tty ∉ flags → old = new) entry.tty other.tty := by
  rw [tty, tty, toggled.path]
  exact toggled.fields.flag_agree _ fun _ _ this => this.tty_cases

theorem in_context_refl (flags : List SecurityFlag) (context : Fields) :
    Fields.Related (InContext flags) context context :=
  List.forall₂_same.mpr fun field _ => ⟨rfl, .same field.1 field.2⟩

theorem Toggled.context_agree (toggled : entry.Toggled flags other) (path : FieldPath) :
    Agree (Option.Rel (Fields.Related (InContext flags))) (mapping? entry.fields "securityContext" path)
      (mapping? other.fields "securityContext" path) := by
  have found := toggled.fields.get "securityContext"
  rw [mapping?, mapping?, present?, present?]
  generalize Fields.get? entry.fields (.text "securityContext") = one,
    Fields.get? other.fields (.text "securityContext") = another at found
  cases found with
  | none => exact .ok .none
  | some this =>
      generalize same : Scalar.text "securityContext" = key at this
      cases this with
      | same key v =>
          apply Agree.refl
          intro context
          cases context with
          | none => exact .none
          | some context => exact .some (in_context_refl flags context)
      | tty => exact absurd same (by decide)
      | context related => exact .ok (.some related)

theorem Toggled.security_context_agree (toggled : entry.Toggled flags other) :
    Agree (fun old new => .privileged ∉ flags → old.privileged = new.privileged) entry.securityContext
      other.securityContext := by
  rw [securityContext, securityContext, toggled.path]
  refine (toggled.context_agree _).bind fun context otherContext related => ?_
  cases related with
  | none => exact .ok fun _ => rfl
  | some related =>
      exact (related.flag_agree _ fun _ _ this => this.privileged_cases).bind fun _ _ privileged =>
        (related.flag_agree _ fun _ _ this => this.escalation_cases).bind fun _ _ _ => .ok privileged

end ContainerEntry

end LaunchPolicy
