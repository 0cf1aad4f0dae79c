import LaunchPolicy.Image.Config
import LaunchPolicy.Proofs.Compile.Steady
import LaunchPolicy.Proofs.Pattern.Narrow
import LaunchPolicy.Proofs.Rules.SharedPath

/-!
Rules that are to admit one text alone. The variables of an image, the values of config maps and the
names of volumes stand in their rules as they are, so a rule admits its text and no other just when
none of the characters has a meaning of its own.
-/

namespace LaunchPolicy

open Compile Manifest Pattern

/-- What becomes of a rule for a string, unless braces open a number of repetitions in it. With no special
characters but dots, it admits what fills the string; and whatever the string, escapes apart, special
characters are what keeps the rule from admitting the string alone. -/
def TextRule (text rule : Text) : Prop :=
  ∀ s : String, text = s → ∃ pattern : String, rule = pattern ∧
    (Uncounted s.toList →
      (IsDotted s.toList → ∀ other, Admits pattern other ↔ Fills s.toList other.toList) ∧
      ('\\' ∉ s.toList → (Pins pattern s ↔ IsPlain s.toList)))

theorem text_rule_anchored (text : Text) : TextRule text ("^" ++ text ++ "$") := by
  rintro s rfl
  refine ⟨"^" ++ s ++ "$", rfl, fun uncounted => ?_⟩
  constructor
  · intro dotted
    exact anchored_admits dotted uncounted
  · intro noEscape
    exact anchored_pins_iff noEscape uncounted

/-- What becomes of a rule for the path of a shared file, as far as dots are all that is special about the
file: it admits the paths of what fills the file, and without dots these all end in the file. -/
def FileRule (file rule : Text) : Prop :=
  ∀ s : String, file = s → ∃ pattern : String, rule = pattern ∧
    (Uncounted s.toList → IsDotted s.toList →
      (∀ path, Admits pattern path ↔
        ∃ filled, Fills s.toList filled ∧ SharedPath.Holds filled path.toList) ∧
      ((∀ path, Admits pattern path → '-' :: s.toList <:+ path.toList) ↔ '.' ∉ s.toList))

theorem file_rule_shared (file : Text) : FileRule file (sharedContainerPath ++ file ++ "$") := by
  rintro s rfl
  refine ⟨sharedContainerPath ++ s ++ "$", rfl, fun uncounted dotted => ?_⟩
  constructor
  · exact SharedPath.admits_iff dotted uncounted
  · exact SharedPath.admits_suffix_iff dotted uncounted

namespace ContainerEntry

variable {entry : ContainerEntry} {world : World} {session after : Session}

/-- An item of an environment that takes a variable from a config map. -/
def RefersTo (item : Value) (name : Text) (reference : Value) : Prop :=
  ∃ fields sources, item = .map fields ∧ present? fields "name" = some (.text name) ∧
    Fields.contains fields (.text "value") = false ∧
    present? fields "valueFrom" = some (.map sources) ∧
    Fields.get? sources (.text "configMapKeyRef") = some reference

/-- Every item of an environment comes to what it comes to at the start. -/
theorem environment_alone {items : List Value} {rules : List Text}
    (listed : sequence entry.fields "env" (entry.path.field "env") = .ok items)
    (ran : entry.environment.run world session = (.ok rules, after)) :
    List.Forall₂ (fun item rule => ∃ path,
      ((entry.environmentRule path item).run world session).1 = .ok rule) items rules := by
  obtain ⟨others, again, ran⟩ := run_of_policy_bind_ok_iff.mp ran
  obtain rfl := Except.ok.inj (listed.symm.trans again)
  have steady : ∀ item ∈ items.zipIdx, (entry.environmentRule
      ((entry.path.field "env").item item.2) item.1).Steady entry.cluster world :=
    fun item _ => steady_environment_rule _ item.1
  have alone := run_map_m_alone steady (rfl : world.answers entry.cluster session = _)
  have results := alone.symm.trans (congrArg Prod.fst ran)
  exact Outcome.related_items ((Outcome.map_m_ok results).imp fun item _ this => ⟨_, this⟩)

/-- The rule of a reference is made for the value that the config map has. -/
theorem reference_rule {item reference : Value} {name rule : Text} {path : FieldPath}
    (refers : RefersTo item name reference)
    (result : ((entry.environmentRule path item).run world session).1 = .ok rule) :
    ∃ referencePath value,
      ((entry.configMapValue reference referencePath).run world session).1 = .ok value ∧
      rule = "^" ++ (name ++ "=" ++ value) ++ "$" := by
  obtain ⟨fields, sources, rfl, named, absent, given, referred⟩ := refers
  obtain ⟨after, ran⟩ := run_of_result result
  obtain ⟨other, otherNamed, ran⟩ := run_of_policy_bind_ok_iff.mp ran
  obtain rfl : name = other := by simpa [named] using string_ok_iff.mp otherNamed
  rw [if_neg (by simp [absent])] at ran
  obtain ⟨sources?, found, ran⟩ := run_of_policy_bind_ok_iff.mp ran
  rw [mapping_some_iff.mpr given] at found
  obtain rfl := Except.ok.inj found
  simp only [referred] at ran
  obtain ⟨value, middle, resolved, ran⟩ := run_bind_ok_iff.mp ran
  obtain ⟨rfl, -⟩ : "^" ++ name ++ "=" ++ value ++ "$" = rule ∧ middle = after := by simpa using ran
  exact ⟨_, value, congrArg Prod.fst resolved, by simp only [Text.append_assoc]⟩

end ContainerEntry

/-- The rules that are made for one text, as they are read: for each variable of an image, for each
variable that a container takes from a config map, and for the last segment of each volume of an
image. -/
theorem rules_for_texts_as_read
    {entry : ContainerEntry}
    {world : World}
    {session after : Session}
    {items : List Value}
    {rules : List Text}
    (image : ImageConfig)
    (listed : sequence entry.fields "env" (entry.path.field "env") = .ok items)
    (ran : entry.environment.run world session = (.ok rules, after)) :
    List.Forall₂ TextRule image.env image.envRules ∧
    List.Forall₂ (fun item rule => ∀ name reference, ContainerEntry.RefersTo item name reference →
      ∃ path value, ((entry.configMapValue reference path).run world session).1 = .ok value ∧
        TextRule (name ++ "=" ++ value) rule) items rules ∧
    List.Forall₂ (fun volume mount => ∃ source, mount.source = .text source ∧
      FileRule (ImageConfig.lastSegment volume) source) image.volumes image.volumeMounts := by
  refine ⟨?_, ?_, ?_⟩
  · rw [ImageConfig.envRules, List.forall₂_map_right_iff]
    exact List.forall₂_same.mpr fun text _ => text_rule_anchored text
  · apply (ContainerEntry.environment_alone listed ran).imp
    rintro item rule ⟨path, result⟩ name reference refers
    obtain ⟨referencePath, value, resolved, rfl⟩ := ContainerEntry.reference_rule refers result
    exact ⟨referencePath, value, resolved, text_rule_anchored _⟩
  · rw [ImageConfig.volumeMounts, List.forall₂_map_right_iff]
    apply List.forall₂_same.mpr
    intro volume _
    exact ⟨_, rfl, file_rule_shared (ImageConfig.lastSegment volume)⟩

/-- An image with a plain variable and with one that has a dot. -/
def pathImage : ImageConfig := { env := ["PATH=/usr/bin:/bin", "V=1.2"], volumes := ["/data/"] }

def modeReference : Value := .object [("name", .text "settings"), ("key", .text "mode")]

def modeItem : Value :=
  .object [("name", .text "MODE"), ("valueFrom", .object [("configMapKeyRef", modeReference)])]

def modeEntry : ContainerEntry where
  fields := [(.text "env", .list [modeItem])]
  path := {}
  cluster := some {}

/-- Surroundings with a config map that gives the mode. -/
def World.fast : World where
  inspect _ := .timedOut
  configMap _ _ := .found [(.text "mode", .text "fast")]

theorem plain_rules_pin :
    (∃ after, modeEntry.environment.run .fast {} = (.ok ["^MODE=fast$"], after)) ∧
      Pins "^MODE=fast$" "MODE=fast" ∧
      Pins ("^" ++ "PATH=/usr/bin:/bin" ++ "$") "PATH=/usr/bin:/bin" ∧
      ¬ Pins ("^" ++ "V=1.2" ++ "$") "V=1.2" := by
  have result : (modeEntry.environment.run .fast {}).1 = .ok ["^MODE=fast$"] := by decide +kernel
  obtain ⟨after, ran⟩ := run_of_result result
  have listed : sequence modeEntry.fields "env" (modeEntry.path.field "env") = .ok [modeItem] := rfl
  obtain ⟨image, container, -⟩ := rules_for_texts_as_read pathImage listed ran
  obtain ⟨path, others⟩ := List.forall₂_cons.mp image
  obtain ⟨version, -⟩ := List.forall₂_cons.mp others
  obtain ⟨mode, -⟩ := List.forall₂_cons.mp container
  obtain ⟨referencePath, value, resolved, rule⟩ :=
    mode "MODE" modeReference ⟨_, _, rfl, rfl, rfl, rfl, rfl⟩
  obtain rfl : "fast" = value := Except.ok.inj resolved
  obtain ⟨_, same, rule⟩ := rule "MODE=fast" (by decide)
  obtain rfl := Text.string.inj same
  have uncounted : Uncounted "MODE=fast".toList ∧ Uncounted "PATH=/usr/bin:/bin".toList ∧
      Uncounted "V=1.2".toList := by decide
  refine ⟨⟨after, ran⟩, ?_, ?_, ?_⟩
  · exact ((rule uncounted.1).2 (by decide)).mpr (by decide)
  · obtain ⟨_, same, path⟩ := path "PATH=/usr/bin:/bin" rfl
    obtain rfl := Text.string.inj same
    exact ((path uncounted.2.1).2 (by decide)).mpr (by decide)
  · obtain ⟨_, same, version⟩ := version "V=1.2" rfl
    obtain rfl := Text.string.inj same
    intro pins
    exact absurd (((version uncounted.2.2).2 (by decide)).mp pins) (by decide)

/-- An image with a version and with a text that is no match of its own rule. -/
def versionImage : ImageConfig := { env := ["V=1.2", "T=a+b"] }

/-- The rule of the version admits another text, and the rule of the sum does not admit the sum. -/
theorem version_rule_admits_another :
    versionImage.env = [.string "V=1.2", .string "T=a+b"] ∧
      versionImage.envRules = [.string "^V=1.2$", .string "^T=a+b$"] ∧
      Admits "^V=1.2$" "V=1x2" ∧ ¬ Admits "^T=a+b$" "T=a+b" := by
  refine ⟨rfl, by decide, ?_, ?_⟩
  · have dotted : IsDotted "V=1.2".toList := by decide
    have uncounted : Uncounted "V=1.2".toList := by decide
    have fills : Fills "V=1.2".toList "V=1x2".toList := by decide
    have spelled : "^" ++ "V=1.2" ++ "$" = "^V=1.2$" := by decide
    rw [← spelled, anchored_admits dotted uncounted]
    exact fills
  · rintro ⟨pattern, reads, accepts⟩
    have reading : read? "^T=a+b$".toList = some (.sequence
        ([start, one (.exactly 'T'), one (.exactly '='), repeated (one (.exactly 'a')) 1 none,
          one (.exactly 'b')] ++ [stop])) := by decide +kernel
    obtain rfl := Option.some.inj (reading.symm.trans reads)
    obtain ⟨before, matched, after, same, whole⟩ := accepts
    obtain ⟨rfl, -, fromT, rfl, ⟨rfl, rfl⟩, atT⟩ := (matches_stop_end _ _ _ _).mp whole
    obtain ⟨fromSign, rfl, atSign⟩ := (matches_character _ _ _ _ _).mp atT
    obtain ⟨fromSum, rfl, sum, last, rfl, run, atEnd⟩ := (matches_character _ _ _ _ _).mp atSign
    obtain ⟨rest, rfl, rfl⟩ := (matches_character _ _ _ _ _).mp atEnd
    have plus : '+' ∈ sum := by
      have listed : '+' ∈ "T=a+b".toList := by decide
      rw [same] at listed
      simpa using listed
    have isA := (CharSet.exactly_has 'a' '+').mp (((matches_some _ _ _ _).mp run).2 '+' plus)
    exact absurd isA (by decide)

end LaunchPolicy
