import LaunchPolicy.Text.Base64

/-!
Reading base64 takes back what writing made of any octets, whichever of the three forms the
last group has. What is written is ASCII and stands on one line. The octets of a text read as UTF-8 are
the text again.
-/

namespace LaunchPolicy.Text.Base64

theorem value_letter : ∀ value < 64, value? (letter value) = some value := by decide

theorem letter_ne_pad : ∀ value < 64, letter value ≠ '=' := by decide

theorem letter_is_ascii : ∀ value < 64, (letter value).toNat < 128 := by decide

theorem letter_ne_line_feed : ∀ value < 64, letter value ≠ '\n' := by decide

/-- A letter is pushed into the open group, whatever padding came before it. -/
theorem decode_from_letter (g : Group) (pads value : Nat) (rest : List Char) (bound : value < 64) :
    decodeFrom g pads (letter value :: rest) =
      (decodeFrom (g.push value).2 0 rest).map ((g.push value).1 ++ ·) := by
  have unfolded := decodeFrom.eq_3 g pads (letter value) rest (letter_ne_pad value bound)
  simp only [value_letter value bound] at unfolded
  rw [unfolded]
  cases decodeFrom (g.push value).2 0 rest <;> rfl

private theorem octet_of_nat {n : Nat} {octet : UInt8} (same : n = octet.toNat) :
    UInt8.ofNat n = octet := by
  rw [same, UInt8.ofNat_toNat]

theorem decode_from_encode (octets : List UInt8) : decodeFrom {} 0 (encode octets) = .ok octets := by
  fun_induction encode octets with
  | case1 => rfl
  | case2 a =>
      have bound := a.toNat_lt
      rw [decode_from_letter _ _ _ _ (by omega), decode_from_letter _ _ _ _ (by omega)]
      have octet : UInt8.ofNat (a.toNat / 4 * 4 + a.toNat % 4 * 16 / 16) = a :=
        octet_of_nat (by omega)
      simp only [Group.push, octet]
      rfl
  | case3 a b =>
      have boundA := a.toNat_lt
      have boundB := b.toNat_lt
      rw [decode_from_letter _ _ _ _ (by omega), decode_from_letter _ _ _ _ (by omega),
        decode_from_letter _ _ _ _ (by omega)]
      have first : UInt8.ofNat (a.toNat / 4 * 4 + (a.toNat % 4 * 16 + b.toNat / 16) / 16) = a :=
        octet_of_nat (by omega)
      have second : UInt8.ofNat ((a.toNat % 4 * 16 + b.toNat / 16) % 16 * 16 +
          b.toNat % 16 * 4 / 4) = b := octet_of_nat (by omega)
      simp only [Group.push, first, second]
      rfl
  | case4 a b c rest ih =>
      have boundA := a.toNat_lt
      have boundB := b.toNat_lt
      have boundC := c.toNat_lt
      rw [decode_from_letter _ _ _ _ (by omega), decode_from_letter _ _ _ _ (by omega),
        decode_from_letter _ _ _ _ (by omega), decode_from_letter _ _ _ _ (by omega)]
      have first : UInt8.ofNat (a.toNat / 4 * 4 + (a.toNat % 4 * 16 + b.toNat / 16) / 16) = a :=
        octet_of_nat (by omega)
      have second : UInt8.ofNat ((a.toNat % 4 * 16 + b.toNat / 16) % 16 * 16 +
          (b.toNat % 16 * 4 + c.toNat / 64) / 4) = b := octet_of_nat (by omega)
      have third : UInt8.ofNat ((b.toNat % 16 * 4 + c.toNat / 64) % 4 * 64 + c.toNat % 64) = c :=
        octet_of_nat (by omega)
      simp only [Group.push, first, second, third, ih]
      rfl

/-- What writing puts down is the padding character or a letter. -/
theorem mem_encode {octets : List UInt8} {c : Char} (member : c ∈ encode octets) :
    c = '=' ∨ ∃ value < 64, c = letter value := by
  fun_induction encode octets with
  | case1 => simp at member
  | case2 a =>
      have bound := a.toNat_lt
      simp only [List.mem_cons, List.not_mem_nil, or_false] at member
      rcases member with same | same | same | same
      · exact .inr ⟨_, by omega, same⟩
      · exact .inr ⟨_, by omega, same⟩
      · exact .inl same
      · exact .inl same
  | case3 a b =>
      have boundA := a.toNat_lt
      have boundB := b.toNat_lt
      simp only [List.mem_cons, List.not_mem_nil, or_false] at member
      rcases member with same | same | same | same
      · exact .inr ⟨_, by omega, same⟩
      · exact .inr ⟨_, by omega, same⟩
      · exact .inr ⟨_, by omega, same⟩
      · exact .inl same
  | case4 a b c rest ih =>
      have boundA := a.toNat_lt
      have boundB := b.toNat_lt
      have boundC := c.toNat_lt
      simp only [List.mem_cons] at member
      rcases member with same | same | same | same | later
      · exact .inr ⟨_, by omega, same⟩
      · exact .inr ⟨_, by omega, same⟩
      · exact .inr ⟨_, by omega, same⟩
      · exact .inr ⟨_, by omega, same⟩
      · exact ih later

theorem encode_is_ascii (octets : List UInt8) : ∀ c ∈ encode octets, c.toNat < 128 := by
  intro c member
  rcases mem_encode member with rfl | ⟨value, bound, rfl⟩
  · decide
  · exact letter_is_ascii value bound

theorem line_feed_not_mem_encode (octets : List UInt8) : '\n' ∉ encode octets := by
  intro member
  rcases mem_encode member with pad | ⟨value, bound, same⟩
  · exact absurd pad (by decide)
  · exact letter_ne_line_feed value bound same.symm

theorem decode_encode (octets : List UInt8) : decode (encode octets) = .ok octets := by
  have ascii : (encode octets).all (fun c => c.toNat < 128) = true := by
    simpa using encode_is_ascii octets
  rw [decode, if_pos ascii, decode_from_encode]

end LaunchPolicy.Text.Base64

namespace LaunchPolicy.Text.Utf8

/-- The loop reverses what it has gathered and appends the octets it has not reached. -/
private theorem octets_loop (bytes : ByteArray) (position : Nat) (gathered : List UInt8) :
    ByteArray.toList.loop bytes position gathered =
      gathered.reverse ++ bytes.data.toList.drop position := by
  fun_induction ByteArray.toList.loop bytes position gathered with
  | case1 position gathered inside ih =>
      have bound : position < bytes.data.toList.length := by simpa using inside
      have octet : bytes.get! position = bytes.data.toList[position] := by
        rw [Array.getElem_toList, ← getElem!_pos bytes.data position inside]
        rfl
      rw [ih, octet, List.drop_eq_getElem_cons bound, List.reverse_cons, List.append_assoc,
        List.singleton_append]
  | case2 position gathered outside =>
      have past : bytes.data.toList.length ≤ position := by simpa using outside
      rw [List.drop_eq_nil_of_le past, List.append_nil]

theorem octets_to_array (bytes : ByteArray) : (⟨bytes.toList.toArray⟩ : ByteArray) = bytes := by
  rw [ByteArray.toList, octets_loop]
  rfl

theorem from_octets_of_text (text : String) :
    String.fromUTF8? ⟨text.toUTF8.toList.toArray⟩ = some text := by
  rw [octets_to_array]
  exact dif_pos text.isValidUTF8

end LaunchPolicy.Text.Utf8
