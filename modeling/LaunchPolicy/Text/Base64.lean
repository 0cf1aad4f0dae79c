/-!
Base64: three octets as four characters of a 64 letter alphabet, a short last group
padded with equal signs. Reading skips ASCII characters outside the alphabet and stops
at the padding that completes a group; what is left of an open group is an error.
-/

namespace LaunchPolicy.Text.Base64

inductive Error where
  | notAscii
  /-- The characters do not make up whole groups. -/
  | openGroup
deriving DecidableEq, Repr

/-- The letter of a value below 64. -/
def letter (value : Nat) : Char :=
  if value < 26 then Char.ofNat (65 + value)
  else if value < 52 then Char.ofNat (97 + (value - 26))
  else if value < 62 then Char.ofNat (48 + (value - 52))
  else if value = 62 then '+'
  else '/'

def value? (c : Char) : Option Nat :=
  if 'A' ≤ c ∧ c ≤ 'Z' then some (c.toNat - 65)
  else if 'a' ≤ c ∧ c ≤ 'z' then some (c.toNat - 97 + 26)
  else if '0' ≤ c ∧ c ≤ '9' then some (c.toNat - 48 + 52)
  else if c = '+' then some 62
  else if c = '/' then some 63
  else none

def encode : List UInt8 → List Char
  | [] => []
  | [a] => [letter (a.toNat / 4), letter (a.toNat % 4 * 16), '=', '=']
  | [a, b] =>
      [letter (a.toNat / 4), letter (a.toNat % 4 * 16 + b.toNat / 16), letter (b.toNat % 16 * 4), '=']
  | a :: b :: c :: rest =>
      letter (a.toNat / 4) :: letter (a.toNat % 4 * 16 + b.toNat / 16) ::
        letter (b.toNat % 16 * 4 + c.toNat / 64) :: letter (c.toNat % 64) :: encode rest

/-- How far a group has been read: how many letters, and the bits not yet in an octet. -/
structure Group where
  letters : Nat := 0
  bits : Nat := 0
deriving DecidableEq, Repr

/-- Octets completed by one more letter, and the group after it. -/
def Group.push (g : Group) (value : Nat) : List UInt8 × Group :=
  match g.letters with
  | 0 => ([], ⟨1, value⟩)
  | 1 => ([UInt8.ofNat (g.bits * 4 + value / 16)], ⟨2, value % 16⟩)
  | 2 => ([UInt8.ofNat (g.bits * 16 + value / 4)], ⟨3, value % 4⟩)
  | _ => ([UInt8.ofNat (g.bits * 64 + value)], {})

/-- Reads on from an open group with `pads` padding characters since its last letter. -/
def decodeFrom (g : Group) (pads : Nat) : List Char → Except Error (List UInt8)
  | [] => if g.letters = 0 then .ok [] else .error .openGroup
  | '=' :: rest =>
      if 2 ≤ g.letters then
        if 4 ≤ g.letters + (pads + 1) then .ok [] else decodeFrom g (pads + 1) rest
      else decodeFrom g pads rest
  | c :: rest =>
      match value? c with
      | none => decodeFrom g pads rest
      | some value => do
          let (octets, next) := g.push value
          return octets ++ (← decodeFrom next 0 rest)

def decode (cs : List Char) : Except Error (List UInt8) :=
  if cs.all fun c => c.toNat < 128 then decodeFrom {} 0 cs else .error .notAscii

end LaunchPolicy.Text.Base64
