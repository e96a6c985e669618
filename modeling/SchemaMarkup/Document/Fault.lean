import SchemaMarkup.Calendar
import SchemaMarkup.Number.Numeral

set_option autoImplicit false

/-!
# Faults of documents

Most texts that are no document are malformed, and no more is said about them. Some faults are told
apart: they lie in a single number, day or character.

## Main definitions

* `SchemaMarkup.Document.Fault` — why a text is no document.
* `SchemaMarkup.Document.Fault.message?` — the faults in words.
* `SchemaMarkup.Document.wellFormed` — what is there, or the fault of a malformed text.
-/

namespace SchemaMarkup.Document

/-- The ways in which a text is no document. -/
inductive Fault where
  | malformed
  /-- An escape names a code point beyond the last character. -/
  | codePoint
  /-- An escape names a number beyond those of 32 bits with a sign. -/
  | codeTooLarge
  | numeral (f : Numeral.Fault)
  /-- A number has no digits at all. -/
  | blankNumeral
  /-- A part of a number has a weight beyond all doubles. -/
  | weightTooLarge
  /-- A text that is to be a truth value is none. -/
  | notTruth
  /-- A text that is to be a day or a moment is none. -/
  | notMoment
  /-- A map is to be a day or a moment. -/
  | mapAsMoment
  /-- Nodes stand inside one another more deeply than is followed. -/
  | tooDeep
  | calendar (f : Calendar.Fault)
  deriving DecidableEq, Repr

/-- A fault in words, for those that are told in words. -/
def Fault.message? : Fault → Option String
  | codePoint => some "chr() arg not in range(0x110000)"
  | codeTooLarge => some "Python int too large to convert to C int"
  | numeral f => some f.message
  | blankNumeral => some "string index out of range"
  | weightTooLarge => some "int too large to convert to float"
  | tooDeep => some "maximum recursion depth exceeded"
  | calendar f => some f.message
  | malformed | notTruth | notMoment | mapAsMoment => none

/-- What is there, or the fault of a malformed text. -/
def wellFormed {α : Type} : Option α → Except Fault α
  | some a => .ok a
  | none => .error .malformed

end SchemaMarkup.Document
