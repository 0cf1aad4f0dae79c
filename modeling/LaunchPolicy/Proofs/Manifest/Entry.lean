import LaunchPolicy.Manifest.Container
import LaunchPolicy.Policy.Mounts
import LaunchPolicy.Proofs.Outcome
import LaunchPolicy.Proofs.Policy.Typed
import LaunchPolicy.Proofs.Session.Run

/-!
What the entry of a container declares: environment rules of the forms that there are, each
with a value, and mounts whose fields are texts.
-/

namespace LaunchPolicy

namespace Manifest

theorem string_ok_iff {fields : Fields} {key : String} {path : FieldPath} {s : Text} :
    string fields key path = .ok s ↔ present? fields key = some (.text s) := by
  rw [string]
  split
  · rename_i found
    simp [found]
  · rename_i missing
    simpa [misshapen] using missing s

theorem mapping_some_iff {fields inner : Fields} {key : String} {path : FieldPath} :
    mapping? fields key path = .ok (some inner) ↔ present? fields key = some (.map inner) := by
  rw [mapping?]
  split
  · rename_i absent
    simp [absent]
  · rename_i found
    simp [found]
  · rename_i other notMap found
    have different : other ≠ .map inner := fun same => notMap inner same
    simp [misshapen, found, different]

theorem present_of_get {fields : Fields} {key : String} {v : Value}
    (present : present? fields key = some v) : fields.get? (.text key) = some v := by
  rw [present?] at present
  split at present
  · contradiction
  · exact present

/-- A flag that is read is on when its field says so. -/
theorem flag_on_iff {fields : Fields} {key : String} {path : FieldPath} {on : Bool}
    (read : flag fields key path = .ok on) :
    on = true ↔ fields.get? (.text key) = some (.bool true) := by
  rw [flag] at read
  split at read
  · rename_i absent
    obtain rfl := Except.ok.inj read
    have off : fields.get? (.text key) ≠ some (.bool true) := by
      intro found
      simp [present?, found] at absent
    simp [off]
  · rename_i b found
    obtain rfl := Except.ok.inj read
    simp [present_of_get found]
  · contradiction

/-- Items that are read where they stand each have a result of their own. -/
theorem each_item_ok {ε α : Type} {path : FieldPath} {items : List Value}
    {read : FieldPath → Value → Except ε α} {results : List α}
    (all : eachItem path items read = .ok results) :
    List.Forall₂ (fun item result => ∃ itemPath, read itemPath item = .ok result) items results :=
  Outcome.related_items ((Outcome.map_m_ok all).imp fun item _ this => ⟨path.item item.2, this⟩)

theorem each_item_run_ok {α : Type} {path : FieldPath} {items : List Value}
    {read : FieldPath → Value → Compile α} {results : List α} {world : World}
    {session after : Session}
    (all : (eachItem path items read).run world session = (.ok results, after)) :
    List.Forall₂ (fun item result => ∃ itemPath before later,
      (read itemPath item).run world before = (.ok result, later)) items results :=
  Outcome.related_items ((Compile.run_map_m_ok all).imp fun item _ this => ⟨path.item item.2, this⟩)

end Manifest

namespace ContainerEntry

open Manifest

variable {entry : ContainerEntry} {world : World} {session after : Session}

/-- The forms of a rule whose value comes from elsewhere. -/
inductive IsReferenceRule (name : Text) : Text → Prop
  | unset : IsReferenceRule name (name ++ "=")
  | pinned (value : Text) : IsReferenceRule name ("^" ++ name ++ "=" ++ value ++ "$")
  | launchTime : IsReferenceRule name ("^" ++ name ++ "=.")

theorem reference_rule_form {fields : Fields} {name rule : Text} {path : FieldPath}
    (ran : (entry.referenceRule fields name path).run world session = (.ok rule, after)) :
    IsReferenceRule name rule := by
  obtain ⟨sources?, middle, -, ran⟩ := Compile.run_bind_ok_iff.mp ran
  cases sources? with
  | none =>
      obtain ⟨rfl, -⟩ : name ++ "=" = rule ∧ middle = after := by simpa using ran
      exact .unset
  | some sources =>
      simp only at ran
      split at ran
      · obtain ⟨value, last, -, ran⟩ := Compile.run_bind_ok_iff.mp ran
        obtain ⟨rfl, -⟩ : "^" ++ name ++ "=" ++ value ++ "$" = rule ∧ last = after := by
          simpa using ran
        exact .pinned value
      · split at ran
        · obtain ⟨rfl, -⟩ : "^" ++ name ++ "=." = rule ∧ middle = after := by simpa using ran
          exact .launchTime
        · split at ran
          · split at ran
            · exact absurd (congrArg Prod.fst ran) (by simp [Compile.fail])
            · exact absurd (congrArg Prod.fst ran) (by simp [Except.mapError])
          · exact absurd (congrArg Prod.fst ran) (by simp [Except.mapError])

/-- An item of the environment has a name; its rule is the literal of the value that it gives, or
one of the forms for values from elsewhere. -/
theorem environment_rule_form {path : FieldPath} {item : Value} {rule : Text}
    (ran : (entry.environmentRule path item).run world session = (.ok rule, after)) :
    ∃ fields name, item = .map fields ∧ present? fields "name" = some (.text name) ∧
      ((∃ value, present? fields "value" = some (.text value) ∧ rule = name ++ "=" ++ value) ∨
        (Fields.contains fields (.text "value") = false ∧ IsReferenceRule name rule)) := by
  cases item with
  | map fields =>
      obtain ⟨name, named, ran⟩ := Compile.run_of_policy_bind_ok_iff.mp ran
      refine ⟨fields, name, rfl, string_ok_iff.mp named, ?_⟩
      split at ran
      · obtain ⟨value, valued, ran⟩ := Compile.run_of_policy_bind_ok_iff.mp ran
        obtain ⟨rfl, -⟩ : name ++ "=" ++ value = rule ∧ session = after := by simpa using ran
        exact .inl ⟨value, string_ok_iff.mp valued, rfl⟩
      · rename_i absent
        exact .inr ⟨by simpa using absent, reference_rule_form ran⟩
  | _ => exact absurd (congrArg Prod.fst ran) (by simp [environmentRule, misshapen, Except.mapError])

theorem environment_ok {rules : List Text}
    (ran : entry.environment.run world session = (.ok rules, after)) :
    ∃ items, sequence entry.fields "env" (entry.path.field "env") = .ok items ∧
      List.Forall₂ (fun item rule => ∃ path before later,
        (entry.environmentRule path item).run world before = (.ok rule, later)) items rules := by
  obtain ⟨items, listed, ran⟩ := Compile.run_of_policy_bind_ok_iff.mp ran
  exact ⟨items, listed, each_item_run_ok ran⟩

theorem propagation_ok {fields : Fields} {path : FieldPath} {mode : Text}
    (read : propagation fields path = .ok mode) :
    (fields.get? (.text "mountPropagation")).getD (.text "None") = .text mode := by
  rw [propagation] at read
  split at read
  · rename_i found
    rw [found, Except.ok.inj read]
  · contradiction

/-- What a mount of a volume is made of: the volume decides first whether it may be written to. -/
theorem mount_ok {volumes : Volumes} {path : FieldPath} {item : Value} {result : Mount}
    (read : mount volumes path item = .ok result) :
    ∃ destination mode name volume option,
      item.get? "mountPath" = some (.text destination) ∧
      (item.get? "mountPropagation").getD (.text "None") = .text mode ∧
      propagationOption? mode = some option ∧
      item.get? "name" = some (.text name) ∧ volumes.get? name = some volume ∧
      result = {
        destination := .text destination
        source := .text volume.hostPath
        type := .text (if volume.isLocal then "local" else "bind")
        options := ["rbind", option,
          if volume.readOnly = true ∨ item.get? "readOnly" = some (.bool true) then "ro" else "rw"] } := by
  cases item with
  | map fields =>
      obtain ⟨destination, placed, read⟩ := Outcome.bind_ok_iff.mp read
      obtain ⟨mode, spread, read⟩ := Outcome.bind_ok_iff.mp read
      obtain ⟨name, named, read⟩ := Outcome.bind_ok_iff.mp read
      split at read
      · contradiction
      · rename_i volume found
        -- the flag is read only where the volume leaves it open
        obtain ⟨readOnly, same, option, known, rfl⟩ : ∃ readOnly : Bool,
            (readOnly = true ↔
              volume.readOnly = true ∨ Fields.get? fields (.text "readOnly") = some (.bool true)) ∧
            ∃ option, propagationOption? mode = some option ∧ result = {
              destination := .text destination
              source := .text volume.hostPath
              type := .text (if volume.isLocal then "local" else "bind")
              options := ["rbind", option, if readOnly then "ro" else "rw"] } := by
          simp only at read
          split at read
          · rename_i isReadOnly
            refine ⟨true, by simp [isReadOnly], ?_⟩
            cases known : propagationOption? mode with
            | none => simp [known, bind, Except.bind, pure, Except.pure] at read
            | some option =>
                simp only [known] at read
                exact ⟨option, rfl, (Except.ok.inj read).symm⟩
          · rename_i isOpen
            obtain ⟨readOnly, flagged, read⟩ := Outcome.bind_ok_iff.mp read
            refine ⟨readOnly, by simp [isOpen, flag_on_iff flagged], ?_⟩
            cases known : propagationOption? mode with
            | none => simp [known] at read
            | some option =>
                simp only [known] at read
                exact ⟨option, rfl, (Except.ok.inj read).symm⟩
        refine ⟨destination, mode, name, volume, option, present_of_get (string_ok_iff.mp placed),
          propagation_ok spread, known, present_of_get (string_ok_iff.mp named), found, ?_⟩
        simp only [Value.get?, ← same]
  | _ => exact absurd read (by simp [mount, misshapen])

theorem mount_typed {volumes : Volumes} {path : FieldPath} {item : Value} {result : Mount}
    (read : mount volumes path item = .ok result) : result.Typed := by
  obtain ⟨destination, mode, name, volume, option, -, -, -, -, -, rfl⟩ := mount_ok read
  exact ⟨⟨_, rfl⟩, ⟨_, rfl⟩, ⟨_, rfl⟩⟩

/-- A volume is mounted by a bind or as a local one, and never becomes writable. -/
theorem mount_bound {volumes : Volumes} {path : FieldPath} {item : Value} {result : Mount}
    (read : mount volumes path item = .ok result) : result.isWritableWhenPrivileged = false := by
  obtain ⟨destination, mode, name, volume, option, -, -, -, -, -, rfl⟩ := mount_ok read
  cases volume.isLocal <;> simp [Mount.isWritableWhenPrivileged, Mount.writableTypes]

theorem mounts_bound {volumes : Volumes} {results : List Mount}
    (read : entry.mounts volumes = .ok results) :
    ∀ mount ∈ results, mount.isWritableWhenPrivileged = false := by
  obtain ⟨items, -, read⟩ := Outcome.bind_ok_iff.mp read
  intro mount member
  obtain ⟨item, -, path, this⟩ := Outcome.related_result (each_item_ok read) member
  exact mount_bound this

theorem mounts_typed {volumes : Volumes} {results : List Mount}
    (read : entry.mounts volumes = .ok results) : ∀ mount ∈ results, mount.Typed := by
  obtain ⟨items, -, read⟩ := Outcome.bind_ok_iff.mp read
  intro mount member
  obtain ⟨item, -, path, this⟩ := Outcome.related_result (each_item_ok read) member
  exact mount_typed this

end ContainerEntry

end LaunchPolicy
