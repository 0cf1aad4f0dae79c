/-!
Texts. A text is a sequence of code points. Nearly always all of them are characters, and the text is
a string; escapes in documents can also name halves of surrogate pairs, which are no characters.
-/

namespace LaunchPolicy

/-- A code point that is no character but half of a pair that stands for one. -/
inductive Half where
  | high (n : Fin 0x400)
  | low (n : Fin 0x400)
deriving DecidableEq, Repr

inductive Point where
  | char (c : Char)
  | half (h : Half)
deriving DecidableEq, Repr

instance : Coe Char Point := ⟨.char⟩

def Half.code : Half → Nat
  | .high n => 0xD800 + n
  | .low n => 0xDC00 + n

namespace Point

def code : Point → Nat
  | .char c => c.toNat
  | .half h => h.code

def isHalf : Point → Bool
  | .char _ => false
  | .half _ => true

/-- The point of a code that is at most the last one. -/
def ofCode (code : Nat) : Point :=
  if 0xD800 ≤ code ∧ code < 0xDC00 then .half (.high (Fin.ofNat 0x400 (code - 0xD800)))
  else if 0xDC00 ≤ code ∧ code < 0xE000 then .half (.low (Fin.ofNat 0x400 (code - 0xDC00)))
  else .char (Char.ofNat code)

@[simp] theorem of_code_code (point : Point) : ofCode point.code = point := by
  cases point with
  | char c =>
      have range : c.toNat < 0xD800 ∨ 0xDFFF < c.toNat ∧ c.toNat < 0x110000 := c.valid
      rw [code, ofCode, if_neg (by omega), if_neg (by omega), Char.ofNat_toNat]
  | half h =>
      cases h with
      | high n =>
          have code : (0xD800 + n.val - 0xD800) = n.val := by omega
          simp only [Point.code, Half.code, ofCode, if_pos (show 0xD800 ≤ 0xD800 + n.val ∧
            0xD800 + n.val < 0xDC00 by omega), code, Fin.ofNat_val_eq_self]
      | low n =>
          have code : (0xDC00 + n.val - 0xDC00) = n.val := by omega
          simp only [Point.code, Half.code, ofCode, if_neg (show ¬ (0xD800 ≤ 0xDC00 + n.val ∧
            0xDC00 + n.val < 0xDC00) by omega), if_pos (show 0xDC00 ≤ 0xDC00 + n.val ∧
            0xDC00 + n.val < 0xE000 by omega), code, Fin.ofNat_val_eq_self]

/-- The character that stands for a point where halves are of no account. -/
def outline : Point → Char
  | .char c => c
  | .half _ => '\ufffd'

end Point

/-- Points of which some are halves. -/
structure Broken where
  points : List Point
  broken : points.any Point.isHalf = true
deriving DecidableEq, Repr

inductive Text where
  | string (s : String)
  | broken (b : Broken)
deriving DecidableEq, Repr

instance : Coe String Text := ⟨.string⟩

instance : Inhabited Text := ⟨.string ""⟩

namespace Text

def points : Text → List Point
  | .string s => s.toList.map .char
  | .broken b => b.points

def ofPoints (points : List Point) : Text :=
  if broken : points.any Point.isHalf = true then .broken ⟨points, broken⟩
  else .string (String.ofList (points.map Point.outline))

def append : Text → Text → Text
  | .string s, .string t => .string (s ++ t)
  | s, t => ofPoints (s.points ++ t.points)

instance : Append Text := ⟨append⟩

def length (t : Text) : Nat := t.points.length

/-- The text with other characters in the places of halves. -/
def outline : Text → String
  | .string s => s
  | .broken b => String.ofList (b.points.map Point.outline)

/-- Texts one after the other with a separator between them. -/
def intercalate (separator : Text) : List Text → Text
  | [] => ""
  | [t] => t
  | t :: rest => t ++ separator ++ intercalate separator rest

/-! A text is its points. -/

variable (s t u : Text)

@[simp] theorem points_string (s : String) : (string s).points = s.toList.map .char := rfl

theorem outline_chars (cs : List Char) : (cs.map Point.char).map Point.outline = cs := by
  rw [List.map_map]
  exact List.map_id cs

theorem chars_not_half (cs : List Char) : (cs.map Point.char).any Point.isHalf = false := by
  simp [Function.comp_def, Point.isHalf]

theorem chars_outline {points : List Point} (whole : points.any Point.isHalf = false) :
    (points.map Point.outline).map Point.char = points := by
  rw [List.map_map]
  refine (List.map_congr_left fun point member => ?_).trans (List.map_id points)
  have notHalf := List.any_eq_false.mp whole point member
  cases point with
  | char c => rfl
  | half h => exact absurd rfl notHalf

@[simp] theorem of_points_chars (cs : List Char) : ofPoints (cs.map .char) = string (String.ofList cs) := by
  rw [ofPoints, dif_neg (by simp only [chars_not_half]; exact Bool.false_ne_true), outline_chars]

@[simp] theorem points_of_points (points : List Point) : (ofPoints points).points = points := by
  rw [ofPoints]
  split
  · rfl
  · rename_i whole
    rw [points_string, String.toList_ofList, chars_outline (by simpa using whole)]

@[simp] theorem of_points_points : ofPoints t.points = t := by
  cases t with
  | string s => simp
  | broken b => exact dif_pos b.broken

@[simp] theorem points_inj {s t : Text} : s.points = t.points ↔ s = t :=
  ⟨fun same => by rw [← of_points_points s, same, of_points_points], congrArg points⟩

@[simp] theorem points_append : (s ++ t).points = s.points ++ t.points := by
  change (append s t).points = _
  cases s <;> cases t <;> simp [append]

@[simp] theorem string_append (s t : String) : string s ++ string t = string (s ++ t) := rfl

theorem append_assoc : s ++ t ++ u = s ++ (t ++ u) := by
  rw [← points_inj]
  simp

end Text

end LaunchPolicy
