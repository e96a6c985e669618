import SchemaMarkup.Document.Cursor
import SchemaMarkup.Document.Fault

set_option autoImplicit false

/-!
# Text in quotes

A text in quotes may run over several lines. A single line end in it counts as a space, and of
several the first is dropped; spaces beside line ends do not count. Between single quotes, a quote
is written twice. Between double quotes, a backslash begins an escape.

## Main definitions

* `SchemaMarkup.Document.foldBreaks` — the text that a series of line ends stands for.
* `SchemaMarkup.Document.Cursor.readEscape` — read an escape.
* `SchemaMarkup.Document.Cursor.readQuoted` — read a text in quotes.
-/

namespace SchemaMarkup.Document

/-- What a line end with further line ends after it stands for: the further ones if there are any,
and a space if there are none. Line and paragraph separators always stand for themselves. -/
def foldBreaks (first : Char) (further : List Char) : List Char :=
  if first != '\n' then first :: further else if further.isEmpty then [' '] else further

/-- The escapes of a single character. -/
def escapes : List (Char × Char) :=
  [('0', '\x00'), ('a', '\x07'), ('b', '\x08'), ('t', '\t'), ('\t', '\t'), ('n', '\n'),
    ('v', '\x0b'), ('f', '\x0c'), ('r', '\r'), ('e', '\x1b'), (' ', ' '), ('"', '"'),
    ('\\', '\\'), ('/', '/'), ('N', '\x85'), ('_', '\xa0'), ('L', '\u2028'), ('P', '\u2029')]

/-- How many digits follow a letter that announces a code point. -/
def codeWidth? : Char → Option Nat
  | 'x' => some 2
  | 'u' => some 4
  | 'U' => some 8
  | _ => none

/-- The value of a hexadecimal digit. -/
def hexDigit? (c : Char) : Option Nat :=
  if c.isDigit then some (c.toNat - '0'.toNat)
  else if 'a' ≤ c ∧ c ≤ 'f' then some (c.toNat - 'a'.toNat + 10)
  else if 'A' ≤ c ∧ c ≤ 'F' then some (c.toNat - 'A'.toNat + 10)
  else none

/-- The number that hexadecimal digits write. -/
def hexNumber? (digits : List Char) : Option Nat :=
  digits.foldlM (fun n c => (hexDigit? c).map fun d => n * 16 + d) 0

/-- The character of a code point. Surrogates have none. -/
def charOfCode (n : Nat) : Except Fault Char :=
  if n.isValidChar then .ok (Char.ofNat n)
  else if n < 0x110000 then .error .malformed
  else if n < Nat.pow 2 31 then .error .codePoint
  else .error .codeTooLarge

namespace Cursor

/-- Read line ends, with the spaces and tabs around them, at the beginning of a line of a text in
quotes. Such a line does not begin with a marker. -/
def readBreaks : Nat → Cursor → Option (List Char × Cursor)
  | 0, _ => none
  | n + 1, k =>
    if isMarker k.rest then none
    else
      let k := k.pass isGap
      match k.readBreak with
      | none => some ([], k)
      | some (b, k) => (readBreaks n k).map fun r => (b :: r.1, r.2)

/-- Read white space inside a text in quotes. -/
def readQuotedGap (fuel : Nat) (k : Cursor) : Option (List Char × Cursor) :=
  let (gap, k) := k.span isGap
  match k.readBreak with
  | none => some (gap, k)
  | some (b, k) => (readBreaks fuel k).map fun r => (foldBreaks b r.1, r.2)

/-- Read what follows the backslash of an escape. A line end there counts for nothing. -/
def readEscape (fuel : Nat) (k : Cursor) : Except Fault (List Char × Cursor) := do
  let c ← wellFormed k.peek?
  match escapes.lookup c, codeWidth? c, k.readBreak with
  | some d, _, _ => return ([d], k.next)
  | _, some width, _ =>
    let digits := k.next.rest.take width
    if digits.length < width then throw .malformed
    let d ← charOfCode (← wellFormed (hexNumber? digits))
    return ([d], k.next.skip width)
  | _, _, some (_, k) => wellFormed (readBreaks fuel k)
  | _, _, _ => throw .malformed

/-- Read a text in quotes behind the opening quote. -/
def readQuoted (quote : Char) : Nat → Cursor → Except Fault (List Char × Cursor)
  | 0, _ => .error .malformed
  | n + 1, k => do
    let c ← wellFormed k.peek?
    if c == quote then
      if quote == '\'' && k.next.isAt quote then
        let r ← readQuoted quote n (k.skip 2)
        return (quote :: r.1, r.2)
      return ([], k.next)
    let (part, k) ←
      if c == '\\' && quote == '"' then readEscape n k.next
      else if isGap c || isBreak c then wellFormed (readQuotedGap n k)
      else .ok ([c], k.next)
    let r ← readQuoted quote n k
    return (part ++ r.1, r.2)

end Cursor

end SchemaMarkup.Document
