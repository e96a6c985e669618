import SchemaMarkup.Text.Letter
import SchemaMarkup.Text.PrintableRanges

set_option autoImplicit false

/-!
# Literals

How a text is shown inside a message: between quotes, and with escapes for what cannot be shown as
it is. Single quotes are preferred; double quotes are taken when the text has a single quote and no
double one. Sequences of bytes are shown likewise.

## Main definitions

* `SchemaMarkup.Text.escape` — a character between quotes.
* `SchemaMarkup.Text.literal` — a text between quotes.
* `SchemaMarkup.Text.bytesLiteral` — a sequence of bytes between quotes.

## Main results

* `SchemaMarkup.Text.quoteFor_not_mem` — a text between double quotes has none inside.
-/

namespace SchemaMarkup.Text

/-- The character can be shown as it is. -/
def isPrintable (c : Char) : Bool := inRanges printableRanges c.toNat

/-- A number in hexadecimal digits, with zeros in front up to the given width. -/
def hex (width n : Nat) : List Char :=
  let digits := Nat.toDigits 16 n
  List.replicate (width - digits.length) '0' ++ digits

/-- The escape of a code point, in the shortest of the three forms. -/
def escapeCode (n : Nat) : List Char :=
  if n < 0x100 then '\\' :: 'x' :: hex 2 n
  else if n < 0x10000 then '\\' :: 'u' :: hex 4 n
  else '\\' :: 'U' :: hex 8 n

/-- A character between the given quotes. -/
def escape (quote c : Char) : List Char :=
  if c == quote || c == '\\' then ['\\', c]
  else if c == '\t' then ['\\', 't']
  else if c == '\n' then ['\\', 'n']
  else if c == '\r' then ['\\', 'r']
  else if isPrintable c then [c]
  else escapeCode c.toNat

/-- The quotes for a text. -/
def quoteFor (s : List Char) : Char := if s.contains '\'' && !s.contains '"' then '"' else '\''

/-- A text between quotes. -/
def literal (s : List Char) : List Char :=
  let quote := quoteFor s
  quote :: s.flatMap (escape quote) ++ [quote]

/-- A byte between the given quotes. -/
def escapeByte (quote : Char) (b : UInt8) : List Char :=
  let c := Char.ofNat b.toNat
  if b < 0x80 then escape quote c else escapeCode b.toNat

/-- A sequence of bytes between quotes. -/
def bytesLiteral (bs : List UInt8) : List Char :=
  let quote := quoteFor (bs.map fun b => Char.ofNat b.toNat)
  'b' :: quote :: bs.flatMap (escapeByte quote) ++ [quote]

/-- A text between double quotes has none inside. -/
theorem quoteFor_not_mem {s : List Char} (h : quoteFor s = '"') : '"' ∉ s := by
  rw [quoteFor] at h
  split at h
  · rename_i hs
    simp only [Bool.and_eq_true, Bool.not_eq_true', List.contains_eq_mem,
      decide_eq_false_iff_not] at hs
    exact hs.2
  · simp at h

end SchemaMarkup.Text
