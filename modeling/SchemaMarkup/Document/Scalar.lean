import SchemaMarkup.Document.Tag
import SchemaMarkup.Text.Lower
import SchemaMarkup.Value.Basic

set_option autoImplicit false

/-!
# Values of texts

What a text stands for under a tag. A tag that is written out may stand in front of a text of any
form, so the text may be at fault.

## Main definitions

* `SchemaMarkup.Document.intOf`, `SchemaMarkup.Document.floatOf`, `SchemaMarkup.Document.boolOf`,
  `SchemaMarkup.Document.bytesOf?`, `SchemaMarkup.Document.momentOf` — the values of texts.
* `SchemaMarkup.Document.valueOf` — the value of a text under a tag.

## Main results

* `SchemaMarkup.Document.valueOf_text` — as a text, every text stands for itself.
-/

namespace SchemaMarkup.Document

/-- A number without the underscores in it, which do not count. -/
def withoutUnderscores (s : List Char) : List Char := s.filter (· != '_')

/-- Split off a sign: whether it is a minus, and what follows. There has to be something. -/
def signOf : List Char → Except Fault (Bool × List Char)
  | [] => .error .blankNumeral
  | '-' :: s => .ok (true, s)
  | '+' :: s => .ok (false, s)
  | s => .ok (false, s)

/-- Read a whole number in a base. -/
def wholeOf (base : Nat) (s : List Char) : Except Fault Int :=
  (Numeral.whole base s).mapError .numeral

/-- The number that a text without a sign writes: binary behind `0b`, hexadecimal behind `0x`, octal
behind `0`, of base 60 with colons, and else decimal. -/
def unsignedOf (s : List Char) : Except Fault Int :=
  match s with
  | [] => .error .blankNumeral
  | ['0'] => .ok 0
  | '0' :: 'b' :: t => wholeOf 2 t
  | '0' :: 'x' :: t => wholeOf 16 t
  | '0' :: t => wholeOf 8 ('0' :: t)
  | s => do
    let parts ← (Text.pieces (· == ':') s).mapM (wholeOf 10)
    return parts.foldl (fun n part => n * 60 + part) 0

/-- The whole number that a text writes. -/
def intOf (s : List Char) : Except Fault Int := do
  let (negative, t) ← signOf (withoutUnderscores s)
  let n ← unsignedOf t
  return if negative then -n else n

/-- Read a decimal number. -/
def decimalOf (s : List Char) : Except Fault Double :=
  (Numeral.decimal s).mapError .numeral

/-- The sum of the parts of a number of base 60, the last part first, each times its weight. The sum
is rounded after every step. -/
def sixtiethsOf (sum : Double) (weight : Nat) : List Double → Except Fault Double
  | [] => .ok sum
  | part :: parts =>
    match Double.ofNat weight with
    | .infinite _ => .error .weightTooLarge
    | w => sixtiethsOf (sum.add (part.mul w)) (weight * 60) parts

/-- The number with a fraction that a text writes, in any letter case. -/
def floatOf (s : List Char) : Except Fault Double := do
  let (negative, t) ← signOf (Text.lower (String.ofList (withoutUnderscores s))).toList
  let signed (x : Double) : Double := if negative then x.neg else x
  if t == ".inf".toList then return .infinite negative
  if t == ".nan".toList then return .nan
  match Text.pieces (· == ':') t with
  | first :: next :: parts => do
    let parts ← (first :: next :: parts).mapM decimalOf
    return signed (← sixtiethsOf (.zero false) 1 parts.reverse)
  | _ => return signed (← decimalOf t)

/-- The truth value that a text writes, in any letter case. -/
def boolOf (s : String) : Except Fault Bool :=
  let word := Text.lower s
  if ["yes", "true", "on"].contains word then .ok true
  else if ["no", "false", "off"].contains word then .ok false
  else .error .notTruth

/-! ## Bytes -/

/-- The six bits that a character stands for. -/
def sixBits? (c : Char) : Option Nat :=
  if 'A' ≤ c ∧ c ≤ 'Z' then some (c.toNat - 'A'.toNat)
  else if 'a' ≤ c ∧ c ≤ 'z' then some (c.toNat - 'a'.toNat + 26)
  else if c.isDigit then some (c.toNat - '0'.toNat + 52)
  else if c = '+' then some 62
  else if c = '/' then some 63
  else none

/-- The bytes that characters of six bits each stand for. `place` is the number of characters since
the last whole group of four, `left` holds their bits that are not used yet, and `pads` counts the
equals signs behind them. Equals signs that fill a group end the text; other characters do not
count. -/
def decodeSixBits (place left pads : Nat) : List Char → Option (List UInt8)
  | [] => if place = 0 then some [] else none
  | c :: s =>
    if c = '=' then
      if 2 ≤ place ∧ 4 ≤ place + pads + 1 then some []
      else decodeSixBits place left (if 2 ≤ place then pads + 1 else pads) s
    else
      match sixBits? c, place with
      | none, _ => decodeSixBits place left pads s
      | some b, 0 => decodeSixBits 1 b 0 s
      | some b, 1 => (decodeSixBits 2 (b % 16) 0 s).map ((left * 4 + b / 16).toUInt8 :: ·)
      | some b, 2 => (decodeSixBits 3 (b % 4) 0 s).map ((left * 16 + b / 4).toUInt8 :: ·)
      | some b, _ => (decodeSixBits 0 0 0 s).map ((left * 64 + b).toUInt8 :: ·)

/-- The bytes that a text of ASCII characters writes. -/
def bytesOf? (s : List Char) : Option (List UInt8) :=
  if s.all fun c => c.toNat < 0x80 then decodeSixBits 0 0 0 s else none

/-! ## Days and moments -/

/-- Read at least `least` and at most `most` digits. -/
def readDigits? (least most : Nat) (s : List Char) : Option (Nat × List Char) :=
  (Tag.passDigits? least most s).map fun rest =>
    (Numeral.valueOf 10 (s.take (s.length - rest.length)), rest)

/-- The microseconds that the digits of a fraction write. Digits behind the sixth do not count. -/
def microsecondsOf (digits : List Char) : Nat :=
  let kept := digits.take 6
  Numeral.valueOf 10 kept * Nat.pow 10 (6 - kept.length)

/-- Read the distance to universal time in minutes, if one is written. -/
def readZone? (s : List Char) : Option (Option Int × List Char) :=
  match s.dropWhile isGap with
  | [] => if s.isEmpty then some (none, []) else none
  | 'Z' :: t => some (some 0, t)
  | c :: t =>
    if c == '+' || c == '-' then do
      let (hours, t) ← readDigits? 1 2 t
      let (minutes, t) ←
        if t.isEmpty then some (0, t) else readDigits? 2 2 (← Tag.passChar? ':' t)
      let n : Int := hours * 60 + minutes
      some (some (if c == '-' then -n else n), t)
    else none

/-- The numbers of a time of day. -/
structure TimeOfDay where
  hour : Nat
  minute : Nat
  second : Nat
  microsecond : Nat
  zone : Option Int

/-- Read a time of day, which ends the text. -/
def timeOf? (s : List Char) : Option TimeOfDay := do
  let (hour, s) ← readDigits? 1 2 s
  let (minute, s) ← readDigits? 2 2 (← Tag.passChar? ':' s)
  let (second, s) ← readDigits? 2 2 (← Tag.passChar? ':' s)
  let (fraction, s) := match s with
    | '.' :: t => (t.takeWhile Char.isDigit, t.dropWhile Char.isDigit)
    | s => ([], s)
  let (zone, s) ← readZone? s
  if s.isEmpty then some ⟨hour, minute, second, microsecondsOf fraction, zone⟩ else none

/-- Read the numbers of a day and of the time of day behind it, if there is one. -/
def dayAndTimeOf? (s : List Char) : Option ((Nat × Nat × Nat) × Option TimeOfDay) := do
  let (year, s) ← readDigits? 4 4 s
  let (month, s) ← readDigits? 1 2 (← Tag.passChar? '-' s)
  let (day, s) ← readDigits? 1 2 (← Tag.passChar? '-' s)
  if s.isEmpty then some ((year, month, day), none)
  else
    let time ← timeOf? (← Tag.passSeparator? s)
    some ((year, month, day), some time)

/-- The day that a text writes, or the moment. One line end behind it does not count. -/
def momentOf (s : List Char) : Except Fault Value :=
  match dayAndTimeOf? (Tag.dropFinalBreak s) with
  | none => .error .notMoment
  | some ((year, month, day), none) =>
    ((Date.make year month day).map .date).mapError .calendar
  | some ((year, month, day), some t) =>
    ((Moment.make year month day t.hour t.minute t.second t.microsecond t.zone).map
      .moment).mapError .calendar

/-! ## Tags -/

/-- The value of a text under a tag. The tags of collections and the unknown ones do not fit a
text. -/
def valueOf (tag : Tag) (s : String) : Except Fault Value :=
  match tag with
  | .null => .ok .null
  | .bool => (boolOf s).map .bool
  | .int => (intOf s.toList).map .int
  | .float => (floatOf s.toList).map .float
  | .binary => (wellFormed (bytesOf? s.toList)).map .bytes
  | .moment => momentOf s.toList
  | .text => .ok (.text s)
  | .pairs | .set | .list | .map | .merge | .equals | .other => .error .malformed

/-- As a text, every text stands for itself. -/
@[simp] theorem valueOf_text (s : String) : valueOf .text s = .ok (.text s) := rfl

end SchemaMarkup.Document
