import LaunchPolicy.Number.Places
import LaunchPolicy.Value.Coerce
import LaunchPolicy.Value.Display

/-!
Message templates. A percent sign begins a place where a value is filled in: after it may
stand a name in parentheses, marks of alignment, a width and a precision, and then the
letter of the form in which the value is shown. Two percent signs are one. Values are taken in order, or by name from
a single mapping. All values that are given in order must be used.
-/

namespace LaunchPolicy.Log.Template

/-- Values that are still to be filled in. -/
structure Supply where
  named : Option Fields := none
  values : List Value
deriving Repr

/-- A single mapping that is not empty gives its fields by name. -/
def Supply.of (arguments : List Value) : Supply :=
  match arguments with
  | [.map (field :: fields)] => { named := some (field :: fields), values := arguments }
  | _ => { values := arguments }

abbrev Filling := StateT Supply (Except Fault)

def take : Filling Value := do
  let supply ← get
  match supply.values with
  | [] => throw .wrongType
  | v :: values =>
      set { supply with values }
      return v

def choose (name : List Point) : Filling Unit := do
  let supply ← get
  match supply.named with
  | none => throw .wrongType
  | some fields =>
      match fields.get? (.text (Text.ofPoints name)) with
      | some v => set { supply with values := [v] }
      | none => throw (.missingField (Text.ofPoints name))

/-- How a value is laid out. -/
structure Layout where
  leftAligned : Bool := false
  signed : Bool := false
  spaced : Bool := false
  /-- With the mark of the base, or with a point in any case. -/
  alternate : Bool := false
  zeroFilled : Bool := false
  width : Nat := 0
  precision : Option Nat := none
deriving DecidableEq, Repr

/-- A name up to its closing parenthesis; parentheses within it are balanced. -/
def nameFrom (depth : Nat) : List Point → Except Fault (List Point × List Point)
  | [] => .error .badValue
  | .char ')' :: rest => match depth with
      | 0 => .ok ([], rest)
      | depth + 1 => do
          let (name, rest) ← nameFrom depth rest
          return (.char ')' :: name, rest)
  | c :: rest => do
      let (name, rest) ← nameFrom (if c = '(' then depth + 1 else depth) rest
      return (c :: name, rest)

def marks (layout : Layout) : List Point → Layout × List Point
  | .char '-' :: rest => marks { layout with leftAligned := true } rest
  | .char '+' :: rest => marks { layout with signed := true } rest
  | .char ' ' :: rest => marks { layout with spaced := true } rest
  | .char '#' :: rest => marks { layout with alternate := true } rest
  | .char '0' :: rest => marks { layout with zeroFilled := true } rest
  | points => (layout, points)

def numberFrom (points : List Point) : Nat × List Point :=
  let (digits, _) := Text.asciiDigits (points.map Point.outline)
  (Text.ofDigits 10 digits, points.drop digits.length)

/-- The largest width and the largest precision. -/
def greatestWidth : Nat := Nat.pow 2 63 - 1
def greatestPrecision : Nat := Nat.pow 2 31 - 1

/-- A width or precision that is given as a value. -/
def takeCount (greatest : Nat) : Filling Int := do
  match ← take with
  | .int n => if n.natAbs ≤ greatest then return n else throw .overflow
  | .bool b => return if b then 1 else 0
  | _ => throw .wrongType

/-- A negative width aligns to the left. -/
def widthFrom (layout : Layout) : List Point → Filling (Layout × List Point)
  | .char '*' :: rest => do
      let n ← takeCount greatestWidth
      return ({ layout with width := n.natAbs, leftAligned := layout.leftAligned || n < 0 }, rest)
  | points => do
      let (width, rest) := numberFrom points
      if greatestWidth < width then throw .badValue
      return ({ layout with width }, rest)

def precisionFrom (layout : Layout) : List Point → Filling (Layout × List Point)
  | .char '.' :: .char '*' :: rest => do
      let n ← takeCount greatestPrecision
      return ({ layout with precision := some n.toNat }, rest)
  | .char '.' :: points => do
      let (precision, rest) := numberFrom points
      if greatestPrecision < precision then throw .badValue
      return ({ layout with precision := some precision }, rest)
  | points => return (layout, points)

/-- Letters of sizes, which say nothing. -/
def withoutSize : List Point → List Point
  | .char 'h' :: rest | .char 'l' :: rest | .char 'L' :: rest => rest
  | points => points

/-- Digits of a number in a base up to sixteen. -/
def digitsIn (base n : Nat) : List Char := Nat.toDigits base n

/-- A value as it is shown: a sign, the mark of a base, and the rest. -/
structure Shown where
  sign : List Char := []
  mark : List Char := []
  body : List Point
deriving Repr

def signOf (layout : Layout) (negative : Bool) : List Char :=
  if negative then ['-'] else if layout.signed then ['+'] else if layout.spaced then [' '] else []

def atLeast (width : Nat) (digits : List Char) : List Char :=
  List.replicate (width - digits.length) '0' ++ digits

def shownInteger (layout : Layout) (n : Int) (base : Nat) (mark : List Char) (capitals : Bool) : Shown where
  sign := signOf layout (n < 0)
  mark := if layout.alternate then mark else []
  body :=
    let digits := atLeast (layout.precision.getD 0) (digitsIn base n.natAbs)
    (if capitals then digits.map Char.toUpper else digits).map .char

def shownNumber (layout : Layout) (x : Binary64) (precision : Nat → Binary64.Precision) (capitals : Bool) :
    Shown :=
  let text := x.textWith (precision (layout.precision.getD 6)) layout.alternate messageSpelling
  let (negative, digits) := match text with
    | '-' :: digits => (true, digits)
    | digits => (false, digits)
  { sign := signOf layout negative
    body := (if capitals then digits.map Char.toUpper else digits).map .char }

/-- A whole number; numerals and other texts are none. -/
def wholeNumber : Value → Except Fault Int
  | .scalar s => match s with
      | .bool _ | .int _ | .float _ => s.integer
      | _ => .error .wrongType
  | _ => .error .wrongType

def exactInteger : Value → Except Fault Int
  | .int n => .ok n
  | .bool b => .ok (if b then 1 else 0)
  | _ => .error .wrongType

def realNumber : Value → Except Fault Binary64
  | .float x => .ok x
  | .int n => match Binary64.ofInt n with
      | .infinite _ => .error .overflow
      | x => .ok x
  | .bool b => .ok (Binary64.ofInt (if b then 1 else 0))
  | _ => .error .wrongType

/-- A single point, given as itself or by its number. -/
def point : Value → Except Fault Point
  | .text t => match t.points with
      | [point] => .ok point
      | _ => .error .wrongType
  | .int n => if 0 ≤ n ∧ n < 0x110000 then .ok (Point.ofCode n.toNat) else .error .overflow
  | .bool b => .ok (Point.ofCode (if b then 1 else 0))
  | _ => .error .wrongType

/-- Text in which characters outside ASCII are escaped. -/
def asciiOnly (cs : List Char) : List Char :=
  cs.flatMap fun c =>
    if c.toNat < 0x80 then [c]
    else if c.toNat < 0x100 then '\\' :: 'x' :: hexPadded 2 c.toNat
    else if c.toNat < 0x10000 then '\\' :: 'u' :: hexPadded 4 c.toNat
    else '\\' :: 'U' :: hexPadded 8 c.toNat

def shownText (layout : Layout) (text : List Point) : Shown where
  body := match layout.precision with
    | some count => text.take count
    | none => text

/-- A value in the form of a letter. -/
def shown (layout : Layout) (letter : Char) (v : Value) : Except Fault Shown :=
  match letter with
  | 's' => .ok (shownText layout v.plain.points)
  | 'r' => .ok (shownText layout (v.quoted.toList.map .char))
  | 'a' => .ok (shownText layout ((asciiOnly v.quoted.toList).map .char))
  | 'd' | 'i' | 'u' => do return shownInteger layout (← wholeNumber v) 10 [] false
  | 'o' => do return shownInteger layout (← exactInteger v) 8 ['0', 'o'] false
  | 'x' => do return shownInteger layout (← exactInteger v) 16 ['0', 'x'] false
  | 'X' => do return shownInteger layout (← exactInteger v) 16 ['0', 'X'] true
  | 'f' => do return shownNumber layout (← realNumber v) .places false
  | 'F' => do return shownNumber layout (← realNumber v) .places true
  | 'e' => do return shownNumber layout (← realNumber v) .scientific false
  | 'E' => do return shownNumber layout (← realNumber v) .scientific true
  | 'g' => do return shownNumber layout (← realNumber v) .significant false
  | 'G' => do return shownNumber layout (← realNumber v) .significant true
  | 'c' => do return { body := [← point v] }
  | _ => .error .badValue

def isNumeric (letter : Char) : Bool := "diuoxXfFeEgG".toList.contains letter

/-- A shown value in its width. Zeros go between the sign and the digits. -/
def Shown.laid (s : Shown) (layout : Layout) (zeros : Bool) : List Point :=
  let front : List Point := (s.sign ++ s.mark).map .char
  let gap := layout.width - (front ++ s.body).length
  if layout.leftAligned then front ++ s.body ++ List.replicate gap (.char ' ')
  else if zeros then front ++ List.replicate gap (.char '0') ++ s.body
  else List.replicate gap (.char ' ') ++ front ++ s.body

/-- The text of a place and what follows it; `points` begins after the percent sign. -/
def place (points : List Point) : Filling (List Point × List Point) := do
  let points ← match points with
    | .char '(' :: rest => do
        if (← get).named.isNone then throw .wrongType
        let (name, rest) ← nameFrom 0 rest
        choose name
        pure rest
    | points => pure points
  let (layout, points) := marks {} points
  let (layout, points) ← widthFrom layout points
  let (layout, points) ← precisionFrom layout points
  match withoutSize points with
  | [] => throw .badValue
  | letter :: rest =>
      let s ← shown layout letter.outline (← take)
      return (s.laid layout (layout.zeroFilled && isNumeric letter.outline), rest)

/-- Fills a template from its first point on. -/
def fillFrom : Nat → List Point → Filling (List Point)
  | 0, _ => return []
  | _ + 1, [] => return []
  | fuel + 1, .char '%' :: .char '%' :: rest => return .char '%' :: (← fillFrom fuel rest)
  | fuel + 1, .char '%' :: rest => do
      let (text, rest) ← place rest
      return text ++ (← fillFrom fuel rest)
  | fuel + 1, point :: rest => return point :: (← fillFrom fuel rest)

/-- The text of a template. Without values, a template is its own text. -/
def fill (template : Text) (arguments : List Value) : Except Fault Text := do
  if arguments.isEmpty then return template
  let (text, supply) ← (fillFrom template.length template.points).run (Supply.of arguments)
  if supply.named.isNone && !supply.values.isEmpty then throw .wrongType
  return Text.ofPoints text

end LaunchPolicy.Log.Template
