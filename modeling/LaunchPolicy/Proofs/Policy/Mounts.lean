import LaunchPolicy.Policy.Mounts
import LaunchPolicy.Proofs.Keyed
import LaunchPolicy.Proofs.Policy.Typed

/-!
Merging mounts whose destinations are texts. Each destination is kept once, with the mount
that was placed last, where the destination was placed first.
-/

namespace LaunchPolicy

def Mounts.AtTexts (mounts : List Mount) : Prop := ∀ mount ∈ mounts, mount.destination.IsText

theorem Mount.same_destination_text {a b : Mount} (text : a.destination.IsText)
    (otherText : b.destination.IsText) :
    a.sameDestination b = decide (a.destination = b.destination) := by
  obtain ⟨s, first⟩ := text
  obtain ⟨t, second⟩ := otherText
  simp [sameDestination, first, second, Scalar.same_key_text]

theorem Mount.has_key_text {mount : Mount} (text : mount.destination.IsText) :
    mount.hasKey = true := by
  obtain ⟨s, destination⟩ := text
  simp [hasKey, destination]

namespace Mount

theorem writable_when_privileged_iff (mount : Mount) :
    mount.isWritableWhenPrivileged = true ↔ mount.type = .text "sysfs" ∨ mount.type = .text "cgroup" := by
  rw [isWritableWhenPrivileged]
  split
  · rename_i type known
    simp [known, writableTypes]
  · rename_i other
    refine ⟨fun this => by contradiction, ?_⟩
    rintro (known | known)
    · exact absurd known (other _)
    · exact absurd known (other _)

theorem adjust_privileged_destination (mount : Mount) :
    mount.adjustPrivileged.destination = mount.destination := by
  rw [adjustPrivileged]
  split <;> rfl

theorem adjust_privileged_bound {mount : Mount} (bound : mount.isWritableWhenPrivileged = false) :
    mount.adjustPrivileged = mount := if_neg (by simp [bound])

end Mount

namespace Mounts

theorem map_adjust_privileged_bound {mounts : List Mount}
    (bound : ∀ mount ∈ mounts, mount.isWritableWhenPrivileged = false) :
    mounts.map Mount.adjustPrivileged = mounts := by
  rw [List.map_congr_left fun mount member => Mount.adjust_privileged_bound (bound mount member)]
  exact List.map_id' mounts

theorem at_texts_append {mounts more : List Mount} (texts : AtTexts mounts)
    (moreTexts : AtTexts more) : AtTexts (mounts ++ more) := by
  intro mount member
  exact (List.mem_append.mp member).elim (texts mount) (moreTexts mount)

theorem place_eq_put {mounts : List Mount} (texts : AtTexts mounts) {mount : Mount}
    (text : mount.destination.IsText) :
    place mounts mount = Keyed.put Mount.destination mounts mount := by
  induction mounts with
  | nil => rfl
  | cons known rest ih =>
      obtain ⟨knownText, texts⟩ := List.forall_mem_cons.mp texts
      rw [place, Keyed.put, ih texts, Mount.same_destination_text knownText text]
      simp only [decide_eq_true_eq]

theorem fold_place_eq_put {kept : List Mount} (keptTexts : AtTexts kept) {mounts : List Mount}
    (texts : AtTexts mounts) :
    mounts.foldl place kept = mounts.foldl (Keyed.put Mount.destination) kept := by
  induction mounts generalizing kept with
  | nil => rfl
  | cons mount mounts ih =>
      obtain ⟨text, texts⟩ := List.forall_mem_cons.mp texts
      have placed : AtTexts (Keyed.put Mount.destination kept mount) := by
        intro other member
        rcases Keyed.mem_put _ member with rfl | member
        · exact text
        · exact keptTexts other member
      rw [List.foldl_cons, List.foldl_cons, place_eq_put keptTexts text, ih placed texts]

/-- A merge keeps of both lists what is placed last at each destination. -/
theorem merge_keeps {mounts extras : List Mount} (texts : AtTexts mounts)
    (extraTexts : AtTexts extras) :
    Keyed.Keeps Mount.destination (merge mounts extras) (extras ++ mounts) := by
  rw [merge, fold_place_eq_put (by simp [AtTexts]) (at_texts_append extraTexts texts)]
  exact Keyed.keeps_fold (extras ++ mounts)

theorem at_texts_merge {mounts extras : List Mount} (texts : AtTexts mounts)
    (extraTexts : AtTexts extras) : AtTexts (merge mounts extras) := by
  intro mount member
  exact at_texts_append extraTexts texts mount ((merge_keeps texts extraTexts).subset member)

theorem merge_keyed_text {mounts extras : List Mount} (texts : AtTexts mounts)
    (extraTexts : AtTexts extras) : mergeKeyed mounts extras = .ok (merge mounts extras) := by
  refine if_pos (List.all_eq_true.mpr fun mount member => ?_)
  exact Mount.has_key_text (at_texts_append extraTexts texts mount member)

def last? (mounts : List Mount) (destination : Value) : Option Mount :=
  Keyed.last? Mount.destination mounts destination

/-- Of lists in the order of rising precedence, the last mount of the last list that has the
destination. -/
def foremost? (layers : List (List Mount)) (destination : Value) : Option Mount :=
  layers.foldl (fun found mounts => (last? mounts destination).or found) none

theorem foremost_eq_last_flatten (layers : List (List Mount)) (destination : Value) :
    foremost? layers destination = last? layers.flatten destination := by
  suffices general : ∀ before : List Mount,
      layers.foldl (fun found mounts => (last? mounts destination).or found)
        (last? before destination) = last? (before ++ layers.flatten) destination from general []
  induction layers with
  | nil => simp
  | cons mounts layers ih =>
      intro before
      rw [List.foldl_cons, List.flatten_cons, ← List.append_assoc, ← ih (before ++ mounts)]
      simp only [last?, Keyed.last_append]

/-- The layers of mounts of which a list keeps each destination once: where it is first, with
the mount that goes before all others there. -/
structure Layered (mounts : List Mount) (layers : List (List Mount)) : Prop where
  distinct : (mounts.map Mount.destination).Nodup
  order : mounts.map Mount.destination = (layers.flatten.map Mount.destination).eraseDups
  occurs : ∀ destination, destination ∈ mounts.map Mount.destination ↔
    ∃ layer ∈ layers, destination ∈ layer.map Mount.destination
  foremost : ∀ mount, mount ∈ mounts ↔ foremost? layers mount.destination = some mount

theorem layered_of_keeps {mounts : List Mount} {layers : List (List Mount)}
    (keeps : Keyed.Keeps Mount.destination mounts layers.flatten) : Layered mounts layers where
  distinct := keeps.distinct
  order := keeps.keys
  occurs destination := by
    rw [keeps.keys, List.mem_eraseDups]
    simp only [List.mem_map, List.mem_flatten]
    constructor
    · rintro ⟨mount, ⟨layer, within, member⟩, same⟩
      exact ⟨layer, within, mount, member, same⟩
    · rintro ⟨layer, within, mount, member, same⟩
      exact ⟨mount, ⟨layer, within, member⟩, same⟩
  foremost mount := by
    rw [keeps.mem_iff, foremost_eq_last_flatten]
    rfl

section

variable {change : Mount → Mount} (keeps : ∀ mount, (change mount).destination = mount.destination)

include keeps

theorem place_map (mounts : List Mount) (mount : Mount) :
    place (mounts.map change) (change mount) = (place mounts mount).map change := by
  induction mounts with
  | nil => rfl
  | cons known rest ih =>
      rw [List.map_cons, place, place, ih]
      have same : (change known).sameDestination (change mount) = known.sameDestination mount := by
        rw [Mount.sameDestination, Mount.sameDestination, keeps, keeps]
      rw [same]
      split <;> rfl

/-- A change that leaves every mount at its destination may be made before or after. -/
theorem fold_place_map (kept mounts : List Mount) :
    (mounts.map change).foldl place (kept.map change) = (mounts.foldl place kept).map change := by
  induction mounts generalizing kept with
  | nil => rfl
  | cons mount mounts ih => rw [List.map_cons, List.foldl_cons, List.foldl_cons, place_map keeps, ih]

end

end Mounts

end LaunchPolicy
