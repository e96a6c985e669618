set_option autoImplicit false

/-!
# Places in a document

A structured document is read from a place in its text. Indentation matters, so a place knows its
line and column beside the text that follows it.

## Main definitions

* `SchemaMarkup.Document.Cursor` — a place in a text.
* `SchemaMarkup.Document.Cursor.next`, `SchemaMarkup.Document.Cursor.span` — move on by a character
  or by a run of characters.
* `SchemaMarkup.Document.endsWord`, `SchemaMarkup.Document.isMarker` — what stands at a place.

## Main results

* `SchemaMarkup.Document.Cursor.append_of_span` — a run and what follows it are the text.
-/

namespace SchemaMarkup.Document

/-- The character ends a line. -/
def isBreak (c : Char) : Bool := c == '\n' || c == '\x85' || c == '\u2028' || c == '\u2029'

/-- The character separates words on a line. -/
def isGap (c : Char) : Bool := c == ' ' || c == '\t'

/-- The character may stand in the name of an anchor, a handle or an instruction. -/
def isNameChar (c : Char) : Bool := c.isAlphanum || c == '-' || c == '_'

/-- The text ends here or begins with a line end or a space. -/
def endsItem : List Char → Bool
  | [] => true
  | c :: _ => c == ' ' || isBreak c

/-- The text ends here or begins with a line end, a space or a tab. -/
def endsWord : List Char → Bool
  | [] => true
  | c :: _ => isGap c || isBreak c

/-- Three equal characters stand here as a word. -/
def isRule (c : Char) (s : List Char) : Bool := s.take 3 == [c, c, c] && endsWord (s.drop 3)

/-- The beginning or the end of a document is marked here. -/
def isMarker (s : List Char) : Bool := isRule '-' s || isRule '.' s

/-- A place in a text: the text that follows it, and where it is. -/
structure Cursor where
  rest : List Char
  index : Nat
  line : Nat
  column : Nat
  deriving DecidableEq, Repr

namespace Cursor

/-- The first place of a text. -/
def ofText (s : List Char) : Cursor := ⟨s, 0, 0, 0⟩

/-- The place after one character. A byte order mark takes no column. -/
def next (k : Cursor) : Cursor :=
  match k.rest with
  | [] => k
  | c :: s =>
    if isBreak c then ⟨s, k.index + 1, k.line + 1, 0⟩
    else ⟨s, k.index + 1, k.line, if c == '\uFEFF' then k.column else k.column + 1⟩

/-- The place after `n` characters. -/
def skip : Nat → Cursor → Cursor
  | 0, k => k
  | n + 1, k => skip n k.next

/-- The longest run of characters of a class here, and the place after it. -/
def span (p : Char → Bool) (k : Cursor) : List Char × Cursor :=
  let run := k.rest.takeWhile p
  (run, k.skip run.length)

/-- The place after the longest run of characters of a class. -/
def pass (p : Char → Bool) (k : Cursor) : Cursor := (k.span p).2

/-- The character here. -/
def peek? (k : Cursor) : Option Char := k.rest.head?

/-- The given character stands here. -/
def isAt (c : Char) (k : Cursor) : Bool := k.peek? == some c

/-- Read a line end. The ends that only the next line control has are written as line feeds. -/
def readBreak (k : Cursor) : Option (Char × Cursor) :=
  match k.rest with
  | [] => none
  | c :: _ =>
    if isBreak c then some (if c == '\x85' then '\n' else c, k.next) else none

/-- The place after a comment, if there is one here. -/
def passComment (k : Cursor) : Cursor :=
  if k.isAt '#' then k.pass (fun c => !isBreak c) else k

/-- Read the rest of a line that holds at most a comment. -/
def endLine? (k : Cursor) : Option Cursor :=
  let k := (k.pass (· == ' ')).passComment
  match k.readBreak with
  | some (_, k) => some k
  | none => if k.rest.isEmpty then some k else none

theorem rest_next (k : Cursor) : k.next.rest = k.rest.drop 1 := by
  rw [next]
  split
  · rename_i h
    simp [h]
  · rename_i c s h
    split <;> simp [h]

theorem rest_skip (n : Nat) (k : Cursor) : (k.skip n).rest = k.rest.drop n := by
  induction n generalizing k with
  | zero => rfl
  | succ n ih => rw [skip, ih, rest_next, List.drop_drop, Nat.add_comm]

/-- A run and what follows it are the text. -/
theorem append_of_span (p : Char → Bool) (k : Cursor) :
    (k.span p).1 ++ (k.span p).2.rest = k.rest := by
  rw [span, rest_skip]
  exact List.prefix_iff_eq_append.1 (List.takeWhile_prefix p)

end Cursor

end SchemaMarkup.Document
