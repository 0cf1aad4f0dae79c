import LaunchPolicy.Files.Tree
import LaunchPolicy.Proofs.Json.Reading
import LaunchPolicy.Proofs.Settings.Fields
import LaunchPolicy.Proofs.Yaml.Composed

/-!
What comes of reading a configuration file. There are settings, or a problem of the configuration, or
one of a few faults that no problem covers: the file has no text, a scalar in it is refused, it is nested
too deeply, or the time limit has no end.
-/

namespace LaunchPolicy.Settings

open Outcome (FailsOnly fails_only_ok fails_only_error)

variable {machine : Machine} {files : Files} {path : String} {octets : List UInt8} {fault : Fault}

/-- A failure that is a problem of the configuration. -/
def IsProblem (failure : Failure) : Prop := ∃ problem, failure = .policy (.settings problem)

/-- The faults of the octets of a configuration file that are no problems of the configuration. -/
inductive OctetsEscape (machine : Machine) (path : String) (octets : List UInt8) : Fault → Prop
  | undecoded (json : isJson path = true) (invalid : Files.decode octets = .error .notUtf8) :
      OctetsEscape machine path octets .notUtf8
  /-- Octets are no YAML text, and something else is found wrong with them. -/
  | garbled (yaml : isJson path = false)
      (invalid : ∀ text, Files.decode octets = .ok text → Yaml.isText text.toList = false)
      (other : machine.garbled octets ≠ .notYaml) : OctetsEscape machine path octets (machine.garbled octets)
  /-- A JSON text has a numeral that is too long, or too many levels. -/
  | unread {text : String} {fault : Fault} (json : isJson path = true) (decoded : Files.decode octets = .ok text)
      (read : Json.read machine.jsonRead text = .error fault)
      (beyond : fault = .badValue ∧ Json.HasLongNumeral text.toList ∨
        fault = .tooDeep ∧ Json.IsCrowded machine.jsonRead text.toList) : OctetsEscape machine path octets fault
  /-- The text is YAML but for its levels, or for a scalar or a directive that is refused. -/
  | refused {text : String} {fault : Fault} (yaml : isJson path = false)
      (decoded : Files.decode octets = .ok text) (isText : Yaml.isText text.toList = true)
      (read : Yaml.document? machine text = .error fault) (other : fault ≠ .notYaml) :
      OctetsEscape machine path octets fault
  /-- The time limit has no end, or the version has too many levels. -/
  | unreported {document : Value} {fault : Fault} (read : documentOf machine path octets = .ok document)
      (setting : Unreported machine document fault) : OctetsEscape machine path octets fault

/-- The faults of a configuration file that are no problems of the configuration. -/
inductive Escapes (machine : Machine) (files : Files) (path : String) : Fault → Prop
  /-- The path is none. -/
  | unopened {fault : Fault} (none : files.octets path = .error (.faulty fault)) :
      Escapes machine files path fault
  | inside {octets : List UInt8} {fault : Fault} (found : files.octets path = .ok octets)
      (escapes : OctetsEscape machine path octets fault) : Escapes machine files path fault

/-- What escapes is undecodable, or a fault of a document. -/
theorem OctetsEscape.kind (escapes : OctetsEscape machine path octets fault) :
    fault = .notUtf8 ∨ Yaml.IsDocumentFault fault := by
  cases escapes with
  | undecoded => exact .inl rfl
  | garbled =>
      have known := machine.garbled_cases octets
      generalize machine.garbled octets = fault at *
      simp only [List.mem_cons, List.not_mem_nil, or_false] at known
      rcases known with rfl | rfl | rfl | rfl | rfl
      · exact .inl rfl
      all_goals exact .inr trivial
  | unread _ _ _ beyond => rcases beyond with ⟨rfl, -⟩ | ⟨rfl, -⟩ <;> exact .inr trivial
  | refused _ _ _ read => exact .inr (Yaml.document_fails machine _ _ read)
  | unreported _ setting => cases setting <;> exact .inr trivial

theorem Unreported.not_reported {document : Value} (unreported : Unreported machine document fault) :
    isReported fault = false := by
  cases unreported <;> rfl

theorem Unreported.is_map {document : Value} (unreported : Unreported machine document fault) :
    ∃ fields, document = .map fields := by
  cases document with
  | map fields => exact ⟨fields, rfl⟩
  | _ => rcases unreported with ⟨_, written, -⟩ | ⟨-, _, written, -⟩ <;> contradiction

theorem of_document_fails (machine : Machine) (path : String) (document : Value) :
    FailsOnly (fun failure => IsProblem failure ∨
        ∃ fault, failure = .data fault ∧ Unreported machine document fault)
      (ofDocument machine path document) := by
  have refused {mapping : Value} {fault : Fault} (read : Settings.ofValue machine mapping = .error fault) :
      IsProblem (if isReported fault then .policy (.settings (.invalid path fault)) else .data fault) ∨
        Unreported machine mapping fault := by
    rcases of_value_fails machine mapping fault read with reported | unreported
    · exact .inl ⟨.invalid path fault, if_pos reported⟩
    · exact .inr unreported
  rw [ofDocument.eq_def]
  split
  · rw [if_pos rfl]
    split
    · exact fails_only_ok _
    · rename_i fault read
      rcases refused read with problem | unreported
      · exact fails_only_error (.inl problem)
      · rcases unreported with ⟨_, written, -⟩ | ⟨-, _, written, -⟩ <;> contradiction
  · rw [if_neg (by simp)]
    split
    · exact fails_only_ok _
    · rename_i fault read
      rcases refused read with problem | unreported
      · exact fails_only_error (.inl problem)
      · rw [unreported.not_reported]
        exact fails_only_error (.inr ⟨fault, rfl, unreported⟩)
  · exact fails_only_error (.inl ⟨.notMapping path, rfl⟩)

theorem of_document_unreported {document : Value} (unreported : Unreported machine document fault) :
    ofDocument machine path document = .error (.data fault) := by
  obtain ⟨fields, rfl⟩ := unreported.is_map
  simp [ofDocument, of_value_unreported unreported, unreported.not_reported]

/-- A document is read, its octets are malformed, or they escape. -/
theorem document_of_cases (machine : Machine) (path : String) (octets : List UInt8) :
    FailsOnly (fun fault => fault = .notJson ∨ fault = .notYaml ∨ OctetsEscape machine path octets fault)
      (documentOf machine path octets) := by
  intro fault failed
  rw [documentOf] at failed
  split at failed
  · rename_i json
    rcases Files.decode_cases octets with ⟨text, decoded⟩ | invalid
    · rw [decoded] at failed
      cases Json.read_refused failed with
      | malformed => exact .inl rfl
      | long numeral => exact .inr (.inr (.unread json decoded failed (.inl ⟨rfl, numeral⟩)))
      | deep crowded => exact .inr (.inr (.unread json decoded failed (.inr ⟨rfl, crowded⟩)))
    · rw [invalid] at failed
      cases failed
      exact .inr (.inr (.undecoded json invalid))
  · rename_i notJson
    have yaml : isJson path = false := by simpa using notJson
    by_cases malformed : fault = .notYaml
    · exact .inr (.inl malformed)
    rw [yamlDocument] at failed
    rcases Files.decode_cases octets with ⟨text, decoded⟩ | invalid
    · simp only [decoded] at failed
      split at failed
      · rename_i isText
        rcases Outcome.bind_error_iff.mp failed with failed | ⟨graph?, -, failed⟩
        · exact .inr (.inr (.refused yaml decoded isText failed malformed))
        · cases graph? <;> contradiction
      · rename_i noText
        obtain rfl := Except.error.inj failed
        refine .inr (.inr (.garbled yaml (fun other same => ?_) malformed))
        obtain rfl := Except.ok.inj (decoded.symm.trans same)
        simpa using noText
    · simp only [invalid] at failed
      obtain rfl := Except.error.inj failed
      refine .inr (.inr (.garbled yaml (fun other same => ?_) malformed))
      exact nomatch invalid.symm.trans same

theorem of_octets_faulty (failed : documentOf machine path octets = .error fault) (notJson : fault ≠ .notJson)
    (notYaml : fault ≠ .notYaml) : ofOctets machine path octets = .error (.data fault) := by
  rw [ofOctets, failed]
  split
  · contradiction
  · rename_i same
    obtain rfl := Except.error.inj same
    split
    · contradiction
    · contradiction
    · rfl

theorem of_octets_fails (machine : Machine) (path : String) (octets : List UInt8) :
    FailsOnly (fun failure => IsProblem failure ∨
        ∃ fault, failure = .data fault ∧ OctetsEscape machine path octets fault)
      (ofOctets machine path octets) := by
  cases read : documentOf machine path octets with
  | ok document =>
      intro failure failed
      rw [ofOctets, read] at failed
      rcases of_document_fails machine path document failure failed with problem | ⟨fault, rfl, unreported⟩
      · exact .inl problem
      · exact .inr ⟨fault, rfl, .unreported read unreported⟩
  | error fault =>
      have unloaded : IsProblem (.policy (.settings (.notLoaded path (.faulty fault)))) := ⟨_, rfl⟩
      rw [ofOctets, read]
      rcases document_of_cases machine path octets fault read with rfl | rfl | escapes
      · exact fails_only_error (.inl unloaded)
      · exact fails_only_error (.inl unloaded)
      · simp only
        split
        · exact fails_only_error (.inl unloaded)
        · exact fails_only_error (.inl unloaded)
        · exact fails_only_error (.inr ⟨fault, rfl, escapes⟩)

/-- What escapes does so every time. -/
theorem OctetsEscape.of_octets (escapes : OctetsEscape machine path octets fault) :
    ofOctets machine path octets = .error (.data fault) := by
  have notJson : fault ≠ .notJson := by
    rintro rfl
    rcases escapes.kind with same | kind
    · cases same
    · exact kind
  cases escapes with
  | undecoded json invalid =>
      exact of_octets_faulty (by rw [documentOf, if_pos json, invalid]; rfl) notJson (by simp)
  | garbled yaml invalid other =>
      refine of_octets_faulty ?_ notJson other
      rw [documentOf, if_neg (by simp [yaml]), yamlDocument]
      rcases Files.decode_cases octets with ⟨text, decoded⟩ | undecodable
      · simp [decoded, invalid text decoded]
      · simp [undecodable]
  | unread json decoded read beyond =>
      refine of_octets_faulty (by rw [documentOf, if_pos json, decoded]; exact read) notJson ?_
      rcases beyond with ⟨rfl, -⟩ | ⟨rfl, -⟩ <;> simp
  | refused yaml decoded isText read other =>
      refine of_octets_faulty ?_ notJson other
      rw [documentOf, if_neg (by simp [yaml]), yamlDocument, decoded]
      simp only [isText, if_true, read]
      rfl
  | unreported read setting =>
      rw [ofOctets, read]
      exact of_document_unreported setting

/-- Reading a file fails with a problem of the configuration or with a fault that escapes it, and every
such fault does escape. What escapes is what the system says of the path, undecodable, or a fault of a
document. -/
theorem of_file_classified (machine : Machine) (files : Files) (path : String) :
    (∀ failure, ofFile machine files path = .error failure →
      IsProblem failure ∨ ∃ fault, failure = .data fault ∧ Escapes machine files (files.expand path) fault) ∧
    ∀ fault, Escapes machine files (files.expand path) fault →
      ofFile machine files path = .error (.data fault) ∧
        (files.octets (files.expand path) = .error (.faulty fault) ∨ fault = .notUtf8 ∨
          Yaml.IsDocumentFault fault) := by
  constructor
  · intro failure failed
    rw [ofFile] at failed
    split at failed
    · rename_i octets found
      rcases of_octets_fails machine (files.expand path) octets failure failed with
        problem | ⟨fault, rfl, escapes⟩
      · exact .inl problem
      · exact .inr ⟨fault, rfl, .inside found escapes⟩
    · obtain rfl := Except.error.inj failed
      exact .inl ⟨_, rfl⟩
    · rename_i fault refused
      obtain rfl := Except.error.inj failed
      exact .inr ⟨fault, rfl, .unopened refused⟩
  · intro fault escapes
    cases escapes with
    | unopened none => exact ⟨by rw [ofFile, none], .inl none⟩
    | inside found escapes => exact ⟨by rw [ofFile, found]; exact escapes.of_octets, .inr escapes.kind⟩

/-- A file whose only octet begins no character. -/
theorem undecoded_file_escapes :
    ofFile {} (FileTree.files { contents := [(["bad.json"], [0xFF])] }) "bad.json" =
        .error (.data .notUtf8) ∧
      ¬ IsProblem (.data .notUtf8) := by
  refine ⟨by decide, ?_⟩
  rintro ⟨problem, same⟩
  contradiction

end LaunchPolicy.Settings
