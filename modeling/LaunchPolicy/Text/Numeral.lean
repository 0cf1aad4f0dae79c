import LaunchPolicy.Number.Binary64
import LaunchPolicy.Text.Blank

/-!
Numerals as people write them. An integer may stand between white space, carry a sign,
use the decimal digits of any script and separate digits by single underscores.
-/

namespace LaunchPolicy.Text

/-- The zeros of all scripts; the nine characters after each are its digits one to nine. -/
def zeroDigits : List Nat :=
  [0x30, 0x660, 0x6F0, 0x7C0, 0x966, 0x9E6, 0xA66, 0xAE6, 0xB66, 0xBE6, 0xC66, 0xCE6, 0xD66,
  0xDE6, 0xE50, 0xED0, 0xF20, 0x1040, 0x1090, 0x17E0, 0x1810, 0x1946, 0x19D0, 0x1A80,
  0x1A90, 0x1B50, 0x1BB0, 0x1C40, 0x1C50, 0xA620, 0xA8D0, 0xA900, 0xA9D0, 0xA9F0, 0xAA50,
  0xABF0, 0xFF10, 0x104A0, 0x10D30, 0x11066, 0x110F0, 0x11136, 0x111D0, 0x112F0, 0x11450,
  0x114D0, 0x11650, 0x116C0, 0x11730, 0x118E0, 0x11950, 0x11C50, 0x11D50, 0x11DA0, 0x16A60,
  0x16AC0, 0x16B50, 0x1D7CE, 0x1D7D8, 0x1D7E2, 0x1D7EC, 0x1D7F6, 0x1E140, 0x1E2F0, 0x1E950,
  0x1FBF0]

def digitValue? (c : Char) : Option Nat :=
  (zeroDigits.find? fun start => start ≤ c.toNat && c.toNat ≤ start + 9).map (c.toNat - ·)

theorem digit_value_of_is_digit {c : Char} (h : c.isDigit = true) :
    digitValue? c = some (c.toNat - 48) := by
  simp only [Char.isDigit, Bool.and_eq_true, decide_eq_true_eq] at h
  have low : 48 ≤ c.toNat := h.1
  have high : c.toNat ≤ 57 := h.2
  simp [digitValue?, zeroDigits, low, high]

/-- The longest decimal numeral that is read or written, in digits. -/
def longestNumeral : Nat := 4300

/-- White space that may stand around a numeral; the control separators may not. -/
def isMargin (c : Char) : Bool := isBlank c && !(0x1C ≤ c.toNat && c.toNat ≤ 0x1F)

/-- A numeral without the white space around it. -/
def withoutMargins (cs : List Char) : List Char := trim isMargin cs

/-- Sign and remaining characters. -/
def splitSign : List Char → Bool × List Char
  | '-' :: rest => (true, rest)
  | '+' :: rest => (false, rest)
  | cs => (false, cs)

/-- Digit values of a run of digits in which single underscores stand between digits. -/
def digitRun? (digit? : Char → Option Nat) : List Char → Option (List Nat)
  | [] => none
  | [c] => (digit? c).map ([·])
  | c :: '_' :: rest => do return (← digit? c) :: (← digitRun? digit? rest)
  | c :: rest => do return (← digit? c) :: (← digitRun? digit? rest)

def ofDigits (base : Nat) (digits : List Nat) : Nat := digits.foldl (fun n d => n * base + d) 0

/-- The integer that a decimal numeral stands for. -/
def integer? (cs : List Char) : Option Int := do
  let (negative, body) := splitSign (withoutMargins cs)
  let digits ← digitRun? digitValue? body
  guard (digits.length ≤ longestNumeral)
  let magnitude : Int := ofDigits 10 digits
  return if negative then -magnitude else magnitude

/-- A run of ASCII digits and what follows it. -/
def asciiDigits (cs : List Char) : List Nat × List Char :=
  ((cs.takeWhile Char.isDigit).map (·.toNat - 48), cs.dropWhile Char.isDigit)

/-- Exponent part of a decimal numeral, zero when there is none. -/
def exponent? (cs : List Char) : Option Int :=
  match cs with
  | [] => some 0
  | mark :: rest =>
      if mark = 'e' ∨ mark = 'E' then
        let (negative, body) := splitSign rest
        let (digits, after) := asciiDigits body
        if digits.isEmpty || !after.isEmpty then none
        else
          let significant := digits.dropWhile (· = 0)
          let magnitude : Int := if 12 < significant.length then Nat.pow 10 12 else ofDigits 10 significant
          some (if negative then -magnitude else magnitude)
      else none

/-- The number nearest to an unsigned decimal such as `12.5e-3`, `.5` or `7.`. -/
def unsignedDecimal? (negative : Bool) (cs : List Char) : Option Binary64 := do
  let (whole, afterWhole) := asciiDigits cs
  let (fraction, afterFraction) :=
    match afterWhole with
    | '.' :: rest => asciiDigits rest
    | _ => ([], afterWhole)
  guard (!(whole.isEmpty && fraction.isEmpty))
  let scale ← exponent? afterFraction
  return Binary64.ofDecimal negative (ofDigits 10 (whole ++ fraction)) (scale - fraction.length)

end LaunchPolicy.Text
