import SchemaMarkup.Number.Double
import SchemaMarkup.Text.Blank
import SchemaMarkup.Text.Digit
import SchemaMarkup.Text.Literal

set_option autoImplicit false

/-!
# Numerals

How numbers are read from text: whole numbers in a base, and decimal numbers. Digits of every script
are read, white space around a numeral does not count, and a sign may stand in front. A whole number
in base ten has a limited number of digits.

## Main definitions

* `SchemaMarkup.Numeral.Fault` — why a text is no numeral.
* `SchemaMarkup.Numeral.whole` — read a whole number.
* `SchemaMarkup.Numeral.decimal` — read a decimal number.
-/

namespace SchemaMarkup.Numeral

/-- The ways in which a text is no numeral. -/
inductive Fault where
  /-- The text writes no whole number in the base. -/
  | notWhole (base : Nat) (source : String)
  /-- There are too many digits. -/
  | tooLong (count : Nat)
  /-- The text writes no decimal number. -/
  | notDecimal (source : String)
  deriving DecidableEq, Repr

/-- How many digits a whole number in base ten has at most where it is read or written. -/
def digitLimit : Nat := 4300

/-- What is said about a number with too many digits. -/
def limitMessage (detail : String) : String :=
  s!"Exceeds the limit ({digitLimit} digits) for integer string conversion{detail}; " ++
    "use sys.set_int_max_str_digits() to increase the limit"

/-- A fault in words. A long text is cut. -/
def Fault.message : Fault → String
  | notWhole base source =>
    let shown := String.ofList ((Text.literal source.toList).take 200)
    s!"invalid literal for int() with base {base}: {shown}"
  | tooLong count => limitMessage s!": value has {count} digits"
  | notDecimal source =>
    let shown := String.ofList (Text.literal source.toList)
    s!"could not convert string to float: {shown}"

/-- White space around a numeral. The information separators are none here. -/
def isBlank (c : Char) : Bool := Text.isBlank c && !(0x1C ≤ c.toNat && c.toNat ≤ 0x1F)

/-- A text without the white space at its ends. -/
def strip (s : List Char) : List Char :=
  ((s.dropWhile isBlank).reverse.dropWhile isBlank).reverse

/-- Split off a sign: whether it is a minus, and what follows. -/
def signed : List Char → Bool × List Char
  | '-' :: s => (true, s)
  | '+' :: s => (false, s)
  | s => (false, s)

/-- The number that a digit stands for; beyond ten the letters are digits. -/
def digit? (c : Char) : Option Nat :=
  if 'a' ≤ c ∧ c ≤ 'z' then some (c.toNat - 'a'.toNat + 10)
  else if 'A' ≤ c ∧ c ≤ 'Z' then some (c.toNat - 'A'.toNat + 10)
  else Text.digit? c

/-- The number that a digit of a base stands for. -/
def digitOf? (base : Nat) (c : Char) : Option Nat := (digit? c).filter (· < base)

/-- The number that digits of a base write. -/
def valueOf (base : Nat) (digits : List Char) : Nat :=
  digits.foldl (fun n c => n * base + (digitOf? base c).getD 0) 0

/-- The letter that may stand behind a zero in front of a number in a base. -/
def baseLetter? : Nat → Option Char
  | 2 => some 'b'
  | 8 => some 'o'
  | 16 => some 'x'
  | _ => none

/-- The text behind the mark of a base, if it is there. -/
def passBaseMark (base : Nat) : List Char → List Char
  | '0' :: c :: s => if some c.toLower == baseLetter? base then s else '0' :: c :: s
  | s => s

/-- Read a whole number in a base. -/
def whole (base : Nat) (s : List Char) : Except Fault Int :=
  let (negative, t) := signed (strip s)
  let t := passBaseMark base t
  let isDigit (c : Char) : Bool := (digitOf? base c).isSome
  let digits := t.takeWhile isDigit
  if base = 10 && digits.length > digitLimit then .error (.tooLong digits.length)
  else if digits.isEmpty || digits.length < t.length then .error (.notWhole base (String.ofList s))
  else .ok (if negative then -(valueOf base digits) else valueOf base digits)

/-- Read an exponent behind its letter. -/
def exponent? (s : List Char) : Option Int :=
  let (negative, t) := signed s
  if t.isEmpty || !t.all Text.isDecimal then none
  else some (if negative then -(valueOf 10 t) else valueOf 10 t)

/-- The decimal number that digits with a point and an exponent write. -/
def decimalDigits? (negative : Bool) (s : List Char) : Option Double :=
  let whole := s.takeWhile Text.isDecimal
  let rest := s.dropWhile Text.isDecimal
  let (fraction, rest) :=
    match rest with
    | '.' :: t => (t.takeWhile Text.isDecimal, t.dropWhile Text.isDecimal)
    | t => ([], t)
  if whole.isEmpty && fraction.isEmpty then none
  else
    let number (exponent : Int) : Double :=
      .ofDecimal negative (valueOf 10 (whole ++ fraction)) (exponent - fraction.length)
    match rest with
    | [] => some (number 0)
    | e :: t => if e.toLower == 'e' then (exponent? t).map number else none

/-- Read a decimal number, an infinity or the word for no number. -/
def decimal (s : List Char) : Except Fault Double :=
  let (negative, t) := signed (strip s)
  let word := String.ofList (t.map Char.toLower)
  if word = "inf" || word = "infinity" then .ok (.infinite negative)
  else if word = "nan" then .ok .nan
  else
    match decimalDigits? negative t with
    | some x => .ok x
    | none => .error (.notDecimal (String.ofList s))

end SchemaMarkup.Numeral
