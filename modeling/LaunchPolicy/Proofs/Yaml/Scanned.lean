import LaunchPolicy.Proofs.Outcome
import LaunchPolicy.Yaml.Token.Stream

/-!
What the tokens of a text can fail with. A text is malformed, but for two faults of numbers in it: an
escaped code point that is none, and a version of more digits than are read.
-/

namespace LaunchPolicy.Yaml

open Outcome (FailsOnly fails_only_ok fails_only_error)

inductive ScanFault : Fault → Prop
  | malformed : ScanFault .notYaml
  | code {code : Nat} {fault : Fault} (refused : pointOfCode code = .error fault) : ScanFault fault
  /-- The version of a directive has too many digits. -/
  | version : ScanFault .badValue

section Properties

variable {α : Type}

theorem malformed_fails : FailsOnly ScanFault (malformed : Except Fault α) := fails_only_error .malformed

theorem expect_fails (holds : Bool) : FailsOnly ScanFault (expect holds) := by
  rw [expect]
  split
  · exact fails_only_ok ()
  · exact malformed_fails

/-- What is expected before a result. -/
theorem expected_fails (holds : Bool) {next : Unit → Except Fault α} (fails : FailsOnly ScanFault (next ())) :
    FailsOnly ScanFault (expect holds >>= next) := (expect_fails holds).bind fun _ => fails

theorem scan_name_fails (c : Cursor) : FailsOnly ScanFault (scanName c) :=
  expected_fails _ (fails_only_ok _)

theorem scan_anchor_fails (c : Cursor) : FailsOnly ScanFault (scanAnchor c) :=
  (scan_name_fails _).bind fun _ => expected_fails _ (fails_only_ok _)

theorem unescape_uri_fails (fuel : Nat) (cs : List Char) : FailsOnly ScanFault (unescapeUri fuel cs) := by
  induction fuel generalizing cs with
  | zero => exact fails_only_ok _
  | succ fuel ih =>
      cases cs with
      | nil => exact fails_only_ok _
      | cons c rest =>
          rw [unescapeUri]
          split
          · simp only
            split
            · exact malformed_fails
            · split
              · exact (ih _).bind fun _ => fails_only_ok _
              · exact malformed_fails
          · exact (ih rest).bind fun _ => fails_only_ok _

theorem scan_uri_fails (c : Cursor) : FailsOnly ScanFault (scanUri c) :=
  expected_fails _ ((unescape_uri_fails _ _).bind fun _ => fails_only_ok _)

theorem scan_handle_fails (c : Cursor) : FailsOnly ScanFault (scanHandle c) := by
  apply expected_fails
  split
  · exact fails_only_ok _
  · exact expected_fails _ (fails_only_ok _)

theorem scan_tag_fails (c : Cursor) : FailsOnly ScanFault (scanTag c) := by
  have ends (scanned : Token × Cursor) :
      FailsOnly ScanFault (do expect (endsWord scanned.2.peek); return scanned) :=
    expected_fails _ (fails_only_ok _)
  rw [scanTag]
  split
  · apply (scan_uri_fails _).bind
    rintro ⟨uri, after⟩
    exact expected_fails _ (ends _)
  · split
    · exact ends _
    · simp only
      split
      · exact (scan_handle_fails c).bind fun _ => (scan_uri_fails _).bind fun _ => ends _
      · exact (scan_uri_fails _).bind fun _ => ends _

theorem scan_line_end_fails (c : Cursor) : FailsOnly ScanFault (scanLineEnd c) :=
  expected_fails _ (fails_only_ok _)

theorem scan_number_fails (c : Cursor) : FailsOnly ScanFault (scanNumber c) := by
  apply expected_fails
  split
  · exact fails_only_error .version
  · exact fails_only_ok _

theorem scan_version_fails (c : Cursor) : FailsOnly ScanFault (scanVersion c) := by
  apply (scan_number_fails _).bind
  rintro ⟨major, after⟩
  apply expected_fails
  exact (scan_number_fails _).bind fun _ => expected_fails _ (fails_only_ok _)

theorem scan_tag_directive_fails (c : Cursor) : FailsOnly ScanFault (scanTagDirective c) := by
  apply (scan_handle_fails _).bind
  rintro ⟨handle, after⟩
  apply expected_fails
  exact (scan_uri_fails _).bind fun _ => expected_fails _ (fails_only_ok _)

theorem scan_directive_fails (c : Cursor) : FailsOnly ScanFault (scanDirective c) := by
  apply (scan_name_fails _).bind
  rintro ⟨name, after⟩
  apply expected_fails
  have ends (scanned : Directive × Cursor) : FailsOnly ScanFault (do
      let after ← scanLineEnd scanned.2
      return (Token.directive scanned.1, after)) :=
    (scan_line_end_fails _).bind fun _ => fails_only_ok _
  simp only
  split
  · exact (scan_version_fails after).bind fun _ => ends _
  · split
    · exact (scan_tag_directive_fails after).bind fun _ => ends _
    · exact ends _

end Properties

section Scalars

theorem scan_code_fails (length : Nat) (c : Cursor) : FailsOnly ScanFault (scanCode length c) := by
  apply expected_fails
  split
  · exact malformed_fails
  · exact FailsOnly.bind (fun _ failed => .code failed) fun _ => fails_only_ok _

theorem scan_quoted_breaks_fails (fuel : Nat) (c : Cursor) :
    FailsOnly ScanFault (scanQuotedBreaks fuel c) := by
  induction fuel generalizing c with
  | zero => exact malformed_fails
  | succ fuel ih =>
      apply expected_fails
      simp only
      split
      · exact (ih _).bind fun _ => fails_only_ok _
      · exact fails_only_ok _

theorem scan_quoted_spaces_fails (c : Cursor) : FailsOnly ScanFault (scanQuotedSpaces c) := by
  apply expected_fails
  split
  · exact (scan_quoted_breaks_fails _ _).bind fun _ => fails_only_ok _
  · exact fails_only_ok _

theorem scan_escape_fails (c : Cursor) : FailsOnly ScanFault (scanEscape c) := by
  simp only [scanEscape]
  split
  · exact fails_only_ok _
  · exact (scan_code_fails _ _).bind fun _ => fails_only_ok _
  · exact expected_fails _ ((scan_quoted_breaks_fails _ _).bind fun _ => fails_only_ok _)

theorem scan_quoted_fails (double : Bool) (fuel : Nat) (c : Cursor) :
    FailsOnly ScanFault (scanQuoted double fuel c) := by
  induction fuel generalizing c with
  | zero => exact malformed_fails
  | succ fuel ih =>
      rw [scanQuoted]
      split
      · exact fails_only_ok _
      · split
        · exact fails_only_ok _
        · simp only
          -- whatever is scanned first, the rest follows
          split
          · exact (fails_only_ok _).bind fun _ => (ih _).bind fun _ => fails_only_ok _
          · split
            · exact (scan_escape_fails c).bind fun _ => (ih _).bind fun _ => fails_only_ok _
            · split
              · exact (scan_quoted_spaces_fails c).bind fun _ => (ih _).bind fun _ => fails_only_ok _
              · exact (fails_only_ok _).bind fun _ => (ih _).bind fun _ => fails_only_ok _

theorem scan_quoted_token_fails (double : Bool) (c : Cursor) :
    FailsOnly ScanFault (scanQuotedToken double c) :=
  (scan_quoted_fails double _ _).bind fun _ => fails_only_ok _

theorem scan_block_header_fails (c : Cursor) : FailsOnly ScanFault (scanBlockHeader c) := by
  simp only [scanBlockHeader]
  apply expected_fails
  apply expected_fails
  exact (scan_line_end_fails _).bind fun _ => fails_only_ok _

theorem scan_block_token_fails (folded : Bool) (leastIndent : Nat) (c : Cursor) :
    FailsOnly ScanFault (scanBlockToken folded leastIndent c) :=
  (scan_block_header_fails _).bind fun _ => fails_only_ok _

end Scalars

namespace Reading

theorem drop_stale_keys_fails (r : Reading) : FailsOnly ScanFault r.dropStaleKeys :=
  expected_fails _ (fails_only_ok _)

theorem drop_key_fails (r : Reading) : FailsOnly ScanFault r.dropKey := expected_fails _ (fails_only_ok _)

theorem save_key_fails (r : Reading) : FailsOnly ScanFault r.saveKey := by
  rw [saveKey]
  split
  · exact (drop_key_fails r).bind fun _ => fails_only_ok _
  · exact fails_only_ok _

theorem open_here_fails (r : Reading) (start : Token) : FailsOnly ScanFault (r.openHere start) := by
  rw [openHere]
  split
  · apply expected_fails
    split
    · exact fails_only_ok _
    · exact fails_only_ok _
  · exact fails_only_ok _

theorem close_all_fails (r : Reading) : FailsOnly ScanFault r.closeAll :=
  (drop_key_fails _).bind fun _ => fails_only_ok _

theorem directive_fails (r : Reading) : FailsOnly ScanFault (directive r) := by
  apply (close_all_fails r).bind
  intro closed
  exact (scan_directive_fails _).bind fun _ => fails_only_ok _

theorem key_part_fails {scan : Cursor → Except Fault (Token × Cursor)}
    (fails : ∀ c, FailsOnly ScanFault (scan c)) (r : Reading) : FailsOnly ScanFault (keyPart scan r) := by
  apply (save_key_fails r).bind
  intro saved
  exact (fails _).bind fun _ => fails_only_ok _

theorem named_fails (make : String → Token) (c : Cursor) : FailsOnly ScanFault (named make c) :=
  (scan_anchor_fails c).bind fun _ => fails_only_ok _

theorem value_fails (r : Reading) : FailsOnly ScanFault (value r) := by
  rw [value]
  split
  · exact fails_only_ok _
  · apply (open_here_fails r _).bind
    intro opened
    exact (drop_key_fails _).bind fun _ => fails_only_ok _

theorem dispatch_fails (r : Reading) : FailsOnly ScanFault (dispatch r) := by
  simp only [dispatch]
  split
  · exact (close_all_fails r).bind fun _ => fails_only_ok _
  · exact (save_key_fails r).bind fun _ => fails_only_ok _
  · exact (save_key_fails r).bind fun _ => fails_only_ok _
  · exact (drop_key_fails r).bind fun _ => fails_only_ok _
  · exact (drop_key_fails r).bind fun _ => fails_only_ok _
  · exact (drop_key_fails _).bind fun _ => fails_only_ok _
  · exact key_part_fails (named_fails _) r
  · exact key_part_fails (named_fails _) r
  · exact key_part_fails scan_tag_fails r
  · exact key_part_fails (scan_quoted_token_fails false) r
  · exact key_part_fails (scan_quoted_token_fails true) r
  · have mark (token : Token) : FailsOnly ScanFault (documentMark token r) :=
      (close_all_fails r).bind fun _ => fails_only_ok _
    have opening (start token : Token) (allowed : Reading → Bool) :
        FailsOnly ScanFault (do
        let r ← r.openHere start
        let r ← { r with keyAllowed := allowed r }.dropKey
        return (r.skip 1).push token) :=
      (open_here_fails r start).bind fun _ => (drop_key_fails _).bind fun _ => fails_only_ok _
    have block (folded : Bool) : FailsOnly ScanFault (blockScalar folded r) :=
      (drop_key_fails _).bind fun _ => (scan_block_token_fails folded _ _).bind fun _ => fails_only_ok _
    split
    · exact directive_fails r
    · split
      · exact mark _
      · split
        · exact mark _
        · split
          · exact opening _ _ fun _ => true
          · split
            · exact opening _ _ fun r => r.flow = 0
            · split
              · exact value_fails r
              · split
                · exact block _
                · split
                  · exact block _
                  · split
                    · exact (save_key_fails r).bind fun _ => fails_only_ok _
                    · exact malformed_fails

theorem read_token_fails (r : Reading) : FailsOnly ScanFault (readToken r) := by
  apply (drop_stale_keys_fails _).bind
  intro settled
  apply (dispatch_fails _).bind
  intro next
  exact drop_stale_keys_fails next

section Whole

-- Lean would evaluate the reading of a token of an unknown text to compare two calls of it
attribute [local irreducible] readToken

theorem read_all_succ (fuel : Nat) (r : Reading) : readAll (fuel + 1) r =
    if r.ended then ⟨r.tokens.toList, none⟩
    else
      match r.readToken with
      | .ok next => readAll fuel next
      | .error fault => ⟨r.tokens.toList.take r.settled, some fault⟩ := rfl

theorem read_all_fault {fuel : Nat} {r : Reading} {fault : Fault}
    (stopped : (readAll fuel r).fault = some fault) : ScanFault fault := by
  induction fuel generalizing r with
  | zero =>
      obtain rfl := Option.some.inj stopped
      exact .malformed
  | succ fuel ih =>
      rw [read_all_succ] at stopped
      split at stopped
      · contradiction
      · cases next : readToken r with
        | ok after =>
            rw [next] at stopped
            exact ih stopped
        | error cause =>
            rw [next] at stopped
            obtain rfl := Option.some.inj stopped
            exact read_token_fails r cause next

end Whole

end Reading

theorem tokens_fault {text : List Char} {fault : Fault}
    (stopped : (Tokens.ofText text).fault = some fault) : ScanFault fault := by
  unfold Tokens.ofText at stopped
  exact Reading.read_all_fault stopped

end LaunchPolicy.Yaml
