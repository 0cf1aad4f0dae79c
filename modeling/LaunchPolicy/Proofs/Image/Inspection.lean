import LaunchPolicy.Image.Inspect
import LaunchPolicy.Image.Inspection
import LaunchPolicy.Proofs.Json.Reading
import LaunchPolicy.Proofs.Policy.Fields
import LaunchPolicy.Proofs.Policy.Typed
import LaunchPolicy.Proofs.Session.Run

/-!
What comes of inspecting an image. The inspector is run once. A document of the right form that it
prints is read as the image's configuration, and most of what else can come of the run is a problem
of the image; not so a command that cannot be started, an outcome that is lost, and a document beyond the
limits of what is read.
-/

namespace LaunchPolicy

open Outcome (FailsOnly fails_only_ok fails_only_error bind_ok_iff)

/-- The value of a field, if it has one that does not count as nothing. -/
def Fields.counted? (fields : Fields) (name : String) : Option Value :=
  (fields.get? (.text name)).filter Value.truthy

theorem counted_get {fields : Fields} {name : String} {v : Value} (counted : v ∈ fields.counted? name) :
    fields.get? (.text name) = some v := (Option.filter_eq_some_iff.mp counted).1

/-- What a field stands for: what is written in it, or nothing if its value does not count. -/
def Stands (field : Option Value) (written : Value → Prop) (nothing : Prop) : Prop :=
  match field with
  | some v => written v
  | none => nothing

theorem stands_get_iff (written : Value → Prop) (field : Option Value) (default : Value) :
    written (field.getD default) ↔ Stands field written (written default) := by
  cases field <;> rfl

namespace ImageConfig

variable {fields config : Fields} {image : ImageConfig}

/-- The form that a section must have: what counts is of the right kind. -/
structure Formed (config : Fields) : Prop where
  workingDir : ∀ v ∈ config.counted? "WorkingDir", ∃ s, v = .text s
  volumes : ∀ v ∈ config.counted? "Volumes", ∃ fields, v = .map fields
  texts : ∀ name ∈ ["Entrypoint", "Cmd", "Env"], ∀ v ∈ config.counted? name, ∃ items, v = .texts items

/-- What a section tells of an image. The volumes are the keys of a mapping, in its order. -/
structure Tells (config : Fields) (image : ImageConfig) : Prop where
  workingDir : Stands (config.counted? "WorkingDir") (· = .text image.workingDir) (image.workingDir = "")
  volumes : Stands (config.counted? "Volumes")
    (fun v => ∃ fields, v = .map fields ∧ fields.map Prod.fst = image.volumes.map .text) (image.volumes = [])
  entrypoint : Stands (config.counted? "Entrypoint") (· = .texts image.entrypoint) (image.entrypoint = [])
  cmd : Stands (config.counted? "Cmd") (· = .texts image.cmd) (image.cmd = [])
  env : Stands (config.counted? "Env") (· = .texts image.env) (image.env = [])

/-- The section of a document, empty if there is none that counts. -/
def HasSection (document config : Fields) : Prop :=
  Stands (document.counted? "config") (· = .map config) (config = [])

theorem declared_eq (fields : Fields) (name : String) (default : Value) :
    declared (.map fields) name default = (fields.counted? name).getD default := by
  have counts (found : Option Value) :
      (if (found.getD .null).truthy then found.getD .null else default) =
        (found.filter Value.truthy).getD default := by
    cases found with
    | none => rfl
    | some v => cases truthy : v.truthy <;> simp [Option.filter, truthy]
  exact counts (fields.get? (.text name))

theorem declared_texts_ok_iff {name : String} {texts : List Text} :
    declaredTexts (.map config) name = .ok texts ↔
      Stands (config.counted? name) (· = .texts texts) (texts = []) := by
  have nothing : Value.list [] = .texts texts ↔ texts = [] := by cases texts <;> simp [Value.texts]
  rw [declaredTexts, declared_eq, ← nothing, ← stands_get_iff (· = Value.texts texts), ← Value.texts_eq_some_iff]
  split
  · rename_i read
    simp [read]
  · rename_i read
    simp [read]

theorem text_keys_eq_some_iff {v : Value} {names : List Text} :
    textKeys? v = some names ↔ ∃ fields, v = .map fields ∧ fields.map Prod.fst = names.map .text := by
  cases v with
  | map fields =>
      have keys : textKeys? (.map fields) = (Value.list ((fields.map Prod.fst).map .scalar)).texts? := by
        rw [textKeys?, Value.texts?, List.map_map, List.mapM_map]
        rfl
      have texts : Value.texts names = .list ((names.map Scalar.text).map .scalar) := by
        rw [Value.texts, List.map_map]
        rfl
      have scalars : Function.Injective Value.scalar := fun _ _ same => Value.scalar.inj same
      rw [keys, Value.texts_eq_some_iff, texts, Value.list.injEq, (List.map_injective_iff.mpr scalars).eq_iff]
      simp
  | _ => simp [textKeys?]

theorem section_eq_iff :
    declared (.map fields) "config" (.map []) = .map config ↔ HasSection fields config := by
  rw [declared_eq, HasSection, stands_get_iff (· = .map config), Value.map.injEq,
    @eq_comm _ [] config]

theorem working_dir_eq_iff {directory : Text} :
    declared (.map config) "WorkingDir" (.text "") = .text directory ↔
      Stands (config.counted? "WorkingDir") (· = .text directory) (directory = "") := by
  have nothing : Value.text "" = .text directory ↔ directory = "" := by simp [eq_comm]
  rw [declared_eq, ← nothing, stands_get_iff (· = .text directory)]

theorem volumes_eq_iff {volumes : List Text} :
    textKeys? (declared (.map config) "Volumes" (.map [])) = some volumes ↔
      Stands (config.counted? "Volumes")
        (fun v => ∃ fields, v = .map fields ∧ fields.map Prod.fst = volumes.map .text) (volumes = []) := by
  have nothing : (∃ fields, Value.map [] = .map fields ∧ fields.map Prod.fst = volumes.map .text) ↔
      volumes = [] := by
    simp [eq_comm]
  rw [declared_eq, text_keys_eq_some_iff, ← nothing, stands_get_iff (fun v =>
    ∃ fields, v = .map fields ∧ fields.map Prod.fst = volumes.map .text)]

/-- The configuration of an image is what its document says. -/
theorem of_map_ok_iff :
    ofValue (.map fields) = .ok image ↔ ∃ config, HasSection fields config ∧ Tells config image := by
  constructor
  · intro read
    rw [ofValue] at read
    split at read
    · rename_i config found
      split at read
      · rename_i directory workingDir
        split at read
        · contradiction
        · rename_i names volumes
          obtain ⟨entrypoint, readEntrypoint, read⟩ := bind_ok_iff.mp read
          obtain ⟨cmd, readCmd, read⟩ := bind_ok_iff.mp read
          obtain ⟨env, readEnv, read⟩ := bind_ok_iff.mp read
          obtain rfl := Except.ok.inj read
          exact ⟨config, section_eq_iff.mp found, working_dir_eq_iff.mp workingDir,
            volumes_eq_iff.mp volumes, declared_texts_ok_iff.mp readEntrypoint,
            declared_texts_ok_iff.mp readCmd, declared_texts_ok_iff.mp readEnv⟩
      · contradiction
    · contradiction
  · rintro ⟨config, found, told⟩
    simp only [ofValue, section_eq_iff.mpr found, working_dir_eq_iff.mpr told.workingDir,
      volumes_eq_iff.mpr told.volumes, declared_texts_ok_iff.mpr told.entrypoint,
      declared_texts_ok_iff.mpr told.cmd, declared_texts_ok_iff.mpr told.env]
    rfl

/-- A failure that is a problem of the image. -/
def IsProblem (failure : Failure) : Prop := ∃ problem, failure = .policy (.image problem)

theorem of_map_fails (fields : Fields) : FailsOnly IsProblem (ofValue (.map fields)) := by
  have problem {α : Type} (problem : ImageProblem) :
      FailsOnly IsProblem (.error (.policy (.image problem)) : Except Failure α) :=
    fails_only_error ⟨problem, rfl⟩
  have texts (config : Value) (name : String) : FailsOnly IsProblem (declaredTexts config name) := by
    rw [declaredTexts]
    split
    · exact fails_only_ok _
    · exact problem _
  rw [ofValue]
  split
  · split
    · split
      · exact problem _
      · apply (texts _ "Entrypoint").bind
        intro entrypoint
        apply (texts _ "Cmd").bind
        intro cmd
        exact (texts _ "Env").bind fun env => fails_only_ok _
    · exact problem _
  · exact problem _

section Shapes

variable {kind : Scalar → Prop}

theorem section_consists (consists : (Value.map fields).Consists kind) (hasSection : HasSection fields config) :
    (Value.map config).Consists kind := by
  rw [HasSection] at hasSection
  cases counted : fields.counted? "config" with
  | none =>
      rw [counted] at hasSection
      obtain rfl : config = [] := hasSection
      exact Value.empty_consists _
  | some v =>
      rw [counted] at hasSection
      obtain rfl : v = .map config := hasSection
      exact consists.get (counted_get counted)

theorem tells_formed (told : Tells config image) : Formed config := by
  have written {field : Option Value} {holds kind : Value → Prop} {nothing : Prop}
      (stands : Stands field holds nothing) (each : ∀ v, holds v → kind v) : ∀ v ∈ field, kind v := by
    rintro v rfl
    exact each v stands
  constructor
  · exact written told.workingDir fun v same => ⟨_, same⟩
  · exact written told.volumes fun v ⟨fields, same, _⟩ => ⟨fields, same⟩
  · simp only [List.forall_mem_cons]
    exact ⟨written told.entrypoint fun v same => ⟨_, same⟩, written told.cmd fun v same => ⟨_, same⟩,
      written told.env fun v same => ⟨_, same⟩, by simp⟩

/-- A section of the right form tells something of an image. -/
theorem tells_of_formed (consists : (Value.map config).Consists kind) (formed : Formed config) :
    ∃ image, Tells config image := by
  have stands {α : Type} {field : Option Value} (holds : α → Value → Prop) (nothing : α)
      (some_ : ∀ v ∈ field, ∃ a, holds a v) :
      ∃ a, Stands field (holds a) (a = nothing) := by
    cases field with
    | none => exact ⟨nothing, rfl⟩
    | some v => exact some_ v rfl
  obtain ⟨directory, workingDir⟩ := stands (fun s v => v = .text s) "" formed.workingDir
  obtain ⟨names, volumes⟩ := stands
    (fun names v => ∃ fields, v = .map fields ∧ fields.map Prod.fst = names.map .text) []
    (fun v counted => by
      obtain ⟨fields, rfl⟩ := formed.volumes v counted
      obtain ⟨names, keys⟩ := (consists.get (counted_get counted)).keys
      exact ⟨names, fields, rfl, keys⟩)
  have listed (name : String) (text : name ∈ ["Entrypoint", "Cmd", "Env"]) :
      ∃ items, Stands (config.counted? name) (· = .texts items) (items = []) :=
    stands (fun items v => v = .texts items) [] (formed.texts name text)
  obtain ⟨entrypoint, readEntrypoint⟩ := listed "Entrypoint" (by simp)
  obtain ⟨cmd, readCmd⟩ := listed "Cmd" (by simp)
  obtain ⟨env, readEnv⟩ := listed "Env" (by simp)
  exact ⟨⟨entrypoint, cmd, directory, env, names⟩, workingDir, volumes, readEntrypoint, readCmd, readEnv⟩

end Shapes

end ImageConfig

namespace Inspection

open ImageConfig (IsProblem HasSection Formed Tells of_map_ok_iff of_map_fails section_consists tells_formed
  tells_of_formed)

variable {room : Nat} {inspection : Inspection} {settings : InspectorSettings} {uri : Text}
  {image : ImageConfig} {config : Fields}

/-- An inspection printed a document, and nothing else, whose section is a mapping or counts as none. -/
def Prints (room : Nat) (inspection : Inspection) (config : Fields) : Prop :=
  ∃ output complaint document, inspection = .exited 0 output complaint ∧ isBlankText output = false ∧
    Json.read room output = .ok (.map document) ∧ HasSection document config

/-- An inspection printed a document, and nothing else, that is beyond the limits of what is read: it has
an integer of more digits, or more levels. -/
inductive PrintsBeyond (room : Nat) (inspection : Inspection) : Fault → Prop
  | long {output complaint : String} (exited : inspection = .exited 0 output complaint)
      (visible : isBlankText output = false) (read : Json.read room output = .error .badValue)
      (numeral : Json.HasLongNumeral output.toList) : PrintsBeyond room inspection .badValue
  | deep {output complaint : String} (exited : inspection = .exited 0 output complaint)
      (visible : isBlankText output = false) (read : Json.read room output = .error .tooDeep)
      (crowded : Json.IsCrowded room output.toList) : PrintsBeyond room inspection .tooDeep

/-- What can come of an inspection and is neither a configuration nor a problem of the image. -/
inductive Unclassified (room : Nat) (inspection : Inspection) (fault : Fault) : Prop
  | unstarted (none : inspection = .unstarted fault) : Unclassified room inspection fault
  | lost (outcome : inspection = .lost fault) : Unclassified room inspection fault
  | beyond (prints : inspection.PrintsBeyond room fault) : Unclassified room inspection fault

theorem config_exited {status : Int} {output complaint : String} :
    (exited status output complaint).config room settings uri =
      if status ≠ 0 ∨ isBlankText output then
        .error (.policy (.image (.unavailable uri (stripped complaint))))
      else
        match document room uri output with
        | .error failure => .error failure
        | .ok (.map fields) => ImageConfig.ofValue (.map fields)
        | .ok _ => .error (.policy (.image (.notDocument uri))) := by
  rw [config]
  split
  · rfl
  · split <;> simp_all

theorem document_ok_iff {output : String} {v : Value} :
    document room uri output = .ok v ↔ Json.read room output = .ok v := by
  rw [document]
  split <;> simp_all

theorem config_ok_iff :
    inspection.config room settings uri = .ok image ↔ ∃ config, inspection.Prints room config ∧ Tells config image := by
  constructor
  · intro read
    cases inspection with
    | timedOut => contradiction
    | unstarted fault => contradiction
    | lost fault => contradiction
    | refused number reason =>
        rw [Inspection.config] at read
        split at read <;> contradiction
    | exited status output complaint =>
        rw [config_exited] at read
        split at read
        · contradiction
        · rename_i printed
          obtain ⟨rfl, visible⟩ : status = 0 ∧ isBlankText output = false := by simpa using printed
          split at read
          · contradiction
          · rename_i fields found
            obtain ⟨config, hasSection, told⟩ := of_map_ok_iff.mp read
            exact ⟨config, ⟨output, complaint, fields, rfl, visible, document_ok_iff.mp found, hasSection⟩, told⟩
          · contradiction
  · rintro ⟨config, ⟨output, complaint, fields, rfl, visible, read, hasSection⟩, told⟩
    simp only [config_exited, visible, ne_eq, not_true_eq_false, Bool.false_eq_true, or_self, if_false,
      document_ok_iff.mpr read]
    exact of_map_ok_iff.mpr ⟨config, hasSection, told⟩

/-- An image is configured by what was printed when that has the form of a configuration. -/
theorem config_ok_exists_iff :
    (∃ image, inspection.config room settings uri = .ok image) ↔
      ∃ config, inspection.Prints room config ∧ Formed config := by
  constructor
  · rintro ⟨image, read⟩
    obtain ⟨config, prints, told⟩ := config_ok_iff.mp read
    exact ⟨config, prints, tells_formed told⟩
  · rintro ⟨config, prints, formed⟩
    have consists : (Value.map config).Consists Scalar.IsRead := by
      obtain ⟨output, complaint, document, -, -, read, hasSection⟩ := prints
      exact section_consists (Json.read_consists read) hasSection
    obtain ⟨image, told⟩ := tells_of_formed consists formed
    exact ⟨image, config_ok_iff.mpr ⟨config, prints, told⟩⟩

/-- What else can come of an inspection is a problem of the image, or is not classified. -/
theorem config_fails (room : Nat) (inspection : Inspection) (settings : InspectorSettings) (uri : Text) :
    FailsOnly (fun failure => IsProblem failure ∨
        ∃ fault, failure = .data fault ∧ inspection.Unclassified room fault)
      (inspection.config room settings uri) := by
  have problem {inspection : Inspection} (problem : ImageProblem) :
      FailsOnly (fun failure => IsProblem failure ∨
          ∃ fault, failure = .data fault ∧ inspection.Unclassified room fault)
        (.error (.policy (.image problem)) : Except Failure ImageConfig) :=
    fails_only_error (.inl ⟨problem, rfl⟩)
  cases inspection with
  | timedOut => exact problem _
  | unstarted fault => exact fails_only_error (.inr ⟨fault, rfl, .unstarted rfl⟩)
  | lost fault => exact fails_only_error (.inr ⟨fault, rfl, .lost rfl⟩)
  | refused number reason =>
      rw [Inspection.config]
      split <;> exact problem _
  | exited status output complaint =>
      rw [config_exited]
      split
      · exact problem _
      · rename_i printed
        obtain ⟨rfl, visible⟩ : status = 0 ∧ isBlankText output = false := by simpa using printed
        split
        · rename_i failure failed
          rw [document] at failed
          split at failed
          · contradiction
          · obtain rfl := Except.error.inj failed
            exact problem _
          · rename_i fault notJson read
            obtain rfl := Except.error.inj failed
            refine fails_only_error (.inr ⟨fault, rfl, .beyond ?_⟩)
            cases Json.read_refused read with
            | malformed => exact absurd rfl notJson
            | long numeral => exact .long rfl visible read numeral
            | deep crowded => exact .deep rfl visible read crowded
        · exact fun failure failed => .inl (of_map_fails _ failure failed)
        · exact problem _

theorem config_beyond {output complaint : String} (visible : isBlankText output = false) {fault : Fault}
    (read : Json.read room output = .error fault) (isJson : fault ≠ .notJson) :
    (exited 0 output complaint).config room settings uri = .error (.data fault) := by
  have failed : document room uri output = .error (.data fault) := by
    rw [document, read]
    cases fault <;> first | rfl | exact absurd rfl isJson
  rw [config_exited, if_neg (by simp [visible]), failed]

/-- What is not classified fails as it is. -/
theorem Unclassified.fails {fault : Fault} (unclassified : inspection.Unclassified room fault) :
    inspection.config room settings uri = .error (.data fault) := by
  cases unclassified with
  | unstarted none => rw [none]; rfl
  | lost outcome => rw [outcome]; rfl
  | beyond prints =>
      cases prints with
      | long exited visible read numeral => rw [exited, config_beyond visible read (by simp)]
      | deep exited visible read crowded => rw [exited, config_beyond visible read (by simp)]

end Inspection

namespace Process

variable {start : List Text → Ending} {words : List Text} {timeout : Value} {room : Nat} {fault : Fault}

/-- What can come of running a command and is neither a configuration nor a problem of the image. -/
inductive Escapes (start : List Text → Ending) (words : List Text) (timeout : Value) (room : Nat) :
    Fault → Prop
  /-- The first word that is none decides, whatever the command would have done: it has a null character, or
  a point that is encoded as no octets. -/
  | word {fault : Fault} (first : words.findSome? wordFault? = some fault) : Escapes start words timeout room fault
  /-- The command was started, with a time limit beyond what the clock counts. -/
  | clock (plain : words.findSome? wordFault? = none) (started : ∀ number reason, start words ≠ .refused number reason)
      (tooLong : isTooLong timeout = true) : Escapes start words timeout room .overflow
  | undecoded {status : Int} {output complaint : List UInt8} (plain : words.findSome? wordFault? = none)
      (limited : isTooLong timeout = false) (exited : start words = .exited status output complaint)
      (invalid : Files.decode output = .error .notUtf8 ∨ Files.decode complaint = .error .notUtf8) :
      Escapes start words timeout room .notUtf8
  | beyond {fault : Fault} (prints : (run start words timeout).PrintsBeyond room fault) :
      Escapes start words timeout room fault

theorem inspection_eq_lost_iff {ending : Ending} :
    ending.inspection = .lost fault ↔ fault = .notUtf8 ∧ ∃ status output complaint,
      ending = .exited status output complaint ∧
        (Files.decode output = .error .notUtf8 ∨ Files.decode complaint = .error .notUtf8) := by
  cases ending with
  | outlasted => simp [Ending.inspection]
  | refused number reason => simp [Ending.inspection]
  | exited status output complaint =>
      rcases Files.decode_cases output with ⟨text, decoded⟩ | invalid
      · rcases Files.decode_cases complaint with ⟨other, alsoDecoded⟩ | alsoInvalid
        · simp [Ending.inspection, decoded, alsoDecoded]
        · simp [Ending.inspection, decoded, alsoInvalid, eq_comm]
      · simp [Ending.inspection, invalid, eq_comm]

theorem inspection_ne_unstarted (ending : Ending) : ending.inspection ≠ .unstarted fault := by
  cases ending with
  | outlasted => simp [Ending.inspection]
  | refused number reason => simp [Ending.inspection]
  | exited status output complaint =>
      rw [Ending.inspection]
      split <;> simp

/-- The outcomes of a run that are not classified are its escapes. -/
theorem unclassified_iff :
    (run start words timeout).Unclassified room fault ↔ Escapes start words timeout room fault := by
  constructor
  · intro unclassified
    cases unclassified with
    | beyond prints => exact .beyond prints
    | unstarted none =>
        rw [run] at none
        split at none
        · rename_i first
          obtain rfl := Inspection.unstarted.inj none
          exact .word first
        · split at none
          · contradiction
          · split at none
            · contradiction
            · exact absurd none (inspection_ne_unstarted _)
    | lost outcome =>
        rw [run] at outcome
        split at outcome
        · contradiction
        · rename_i plain
          split at outcome
          · contradiction
          · rename_i ending started
            split at outcome
            · rename_i tooLong
              obtain rfl := Inspection.lost.inj outcome
              exact .clock plain started tooLong
            · rename_i inTime
              obtain ⟨rfl, status, output, complaint, exited, invalid⟩ := inspection_eq_lost_iff.mp outcome
              exact .undecoded plain (by simpa using inTime) exited invalid
  · intro escapes
    cases escapes with
    | beyond prints => exact .beyond prints
    | word first => exact .unstarted (by rw [run, first])
    | clock plain started tooLong =>
        refine .lost ?_
        rw [run, plain]
        cases ran : start words with
        | refused number reason => exact absurd ran (started number reason)
        | exited => exact if_pos tooLong
        | outlasted => exact if_pos tooLong
    | undecoded plain limited exited invalid =>
        refine .lost ?_
        simp only [run, plain, exited, limited, Bool.false_eq_true, if_false]
        exact inspection_eq_lost_iff.mpr ⟨rfl, _, _, _, rfl, invalid⟩

end Process

namespace InspectorSettings

open ImageConfig (IsProblem Formed Tells)
open Process (Ending)

variable {settings : InspectorSettings}

/-- All words of the inspector's command are texts. -/
structure Spelled (settings : InspectorSettings) : Prop where
  path : settings.path.IsText
  extraArguments : ∀ argument ∈ settings.extraArguments, argument.IsText

theorem Spelled.words (spelled : settings.Spelled) (uri : Text) :
    ∃ words : List Text, settings.command uri = words.map .text := by
  obtain ⟨path, isPath⟩ := spelled.path
  obtain ⟨extra, isExtra⟩ := Value.texts_of_typed spelled.extraArguments
  exact ⟨path :: "inspect" :: extra ++ [uri, "--config"], by simp [command, isPath, isExtra]⟩

theorem run_fetch (spelled : settings.Spelled) (reference : Text) (world : World) (session : Session) :
    ∃ words : List Text, settings.command (settings.uri reference) = words.map .text ∧
      (settings.fetch reference).run world session =
        ((world.inspect (settings.uri reference)).config world.machine.jsonRead settings
            (settings.uri reference),
          { session with
            calls := session.calls ++ [.inspect (settings.command (settings.uri reference)) settings.timeout]
            events := session.events ++ [.inspecting words] }) := by
  obtain ⟨words, form⟩ := spelled.words (settings.uri reference)
  refine ⟨words, form, ?_⟩
  have read : (settings.command (settings.uri reference)).mapM Value.text? = some words := by
    rw [form]
    exact Value.texts_of_texts words
  simp only [fetch, read, Compile.run_bind, Compile.run_note, Compile.run_ask, Compile.run_read,
    Compile.run_of_except]

/-- The inspector's command is run once. An image's configuration comes of it when the run ends well and
prints a document of the right form, and then it is what the document tells. Otherwise the image has a
problem, or a fault escapes; every fault that escapes always does. -/
theorem fetch_classified (spelled : settings.Spelled) {seconds : Int} (limit : settings.timeout = .int seconds)
    (start : List Text → Process.Ending) (surroundings : World) (reference : Text) (session : Session) :
    let world := { surroundings with inspect := settings.inspections start }
    let uri := settings.uri reference
    let ran := (settings.fetch reference).run world session
    ∃ words : List Text, settings.command uri = words.map .text ∧
      let inspection := Process.run start words (.int seconds)
      ran.2 = { session with
        calls := session.calls ++ [.inspect (settings.command uri) settings.timeout]
        events := session.events ++ [.inspecting words] } ∧
      ((∃ image, ran.1 = .ok image) ↔
        ∃ config, inspection.Prints world.machine.jsonRead config ∧ Formed config) ∧
      (∀ image, ran.1 = .ok image ↔
        ∃ config, inspection.Prints world.machine.jsonRead config ∧ Tells config image) ∧
      (∀ failure, ran.1 = .error failure → IsProblem failure ∨
        ∃ fault, failure = .data fault ∧ Process.Escapes start words (.int seconds) world.machine.jsonRead fault) ∧
      ∀ fault, Process.Escapes start words (.int seconds) world.machine.jsonRead fault →
        ran.1 = .error (.data fault) := by
  intro world uri ran
  obtain ⟨words, form, result⟩ := run_fetch spelled reference world session
  have inspected : world.inspect uri = Process.run start words (.int seconds) := by
    change Process.run start ((settings.command uri).filterMap Value.text?) settings.timeout = _
    have texts : (words.map Value.text).filterMap Value.text? = words := by
      rw [List.filterMap_map]
      exact List.filterMap_some
    rw [form, limit, texts]
  refine ⟨words, form, ?_⟩
  simp only [ran, result]
  rw [inspected]
  refine ⟨rfl, Inspection.config_ok_exists_iff, fun image => Inspection.config_ok_iff,
    fun failure failed => ?_, fun fault escapes => (Process.unclassified_iff.mpr escapes).fails⟩
  rcases Inspection.config_fails _ _ _ _ failure failed with problem | ⟨fault, rfl, unclassified⟩
  · exact .inl problem
  · exact .inr ⟨fault, rfl, Process.unclassified_iff.mp unclassified⟩

theorem standard_spelled : ({} : InspectorSettings).Spelled := ⟨⟨"skopeo", rfl⟩, by simp⟩

/-- An inspector that prints an image with nothing but a shell. -/
def printsShell (_ : List Text) : Ending :=
  .exited 0 "\x7b\"config\": \x7b\"Cmd\": [\"sh\"]\x7d\x7d".toUTF8.toList []

/-- An image that declares nothing but a shell is read as such. -/
theorem shell_fetched :
    ({} : InspectorSettings).Spelled ∧ ({} : InspectorSettings).timeout = .int 120 ∧
      let world := { World.silent with inspect := inspections {} printsShell }
      ((fetch {} "app").run world {}).1 = .ok { cmd := ["sh"] } ∧
        ((fetch {} "app").run world {}).2.calls.length = 1 := by
  obtain ⟨words, form, after, -, returns, -⟩ :=
    fetch_classified standard_spelled rfl printsShell World.silent "app" {}
  have texts : Function.Injective Value.text := fun _ _ same => Scalar.text.inj (Value.scalar.inj same)
  have command : command {} (uri {} "app") =
      (["skopeo", "inspect", "docker://docker.io/library/app", "--config"] : List Text).map .text := by
    decide +kernel
  obtain rfl := List.map_injective_iff.mpr texts (form.symm.trans command)
  have prints : (Process.run printsShell
      ["skopeo", "inspect", "docker://docker.io/library/app", "--config"] (.int 120)).Prints
        Machine.standard.jsonRead [(.text "Cmd", .texts ["sh"])] := by
    refine ⟨"\x7b\"config\": \x7b\"Cmd\": [\"sh\"]\x7d\x7d", "",
      [(.text "config", .map [(.text "Cmd", .texts ["sh"])])], ?_, ?_, ?_, rfl⟩
    · decide +kernel
    · decide +kernel
    · decide +kernel
  have told : Tells [(.text "Cmd", .texts ["sh"])] { cmd := ["sh"] } := ⟨rfl, rfl, rfl, rfl, rfl⟩
  exact ⟨standard_spelled, rfl, (returns _).mpr ⟨_, prints, told⟩, by rw [after]; rfl⟩

/-- A reference with a null character is no word of a command: nothing is started, whatever the inspector
would have done, and the failure is no problem of the image. -/
theorem null_reference_escapes :
    (∀ start : List Text → Ending,
      ((fetch {} "a\x00b").run { World.silent with inspect := inspections {} start } {}).1 =
        .error (.data .badValue)) ∧
      ¬ IsProblem (.data .badValue) := by
  refine ⟨fun start => rfl, ?_⟩
  rintro ⟨problem, same⟩
  contradiction

end InspectorSettings

end LaunchPolicy
