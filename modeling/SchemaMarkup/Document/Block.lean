import SchemaMarkup.Document.Quoted

set_option autoImplicit false

/-!
# Indented text

A text may be given as indented lines behind a sign. The lines are kept as they are, or folded: a
single line end between two lines that begin with no white space counts as a space. The line ends
behind the last line are dropped, joined to one or kept.

## Main definitions

* `SchemaMarkup.Document.BlockStyle` — what is said about an indented text on the line of its sign.
* `SchemaMarkup.Document.Cursor.readBlock` — read an indented text.
-/

namespace SchemaMarkup.Document

/-- What becomes of the line ends behind the last line. -/
inductive Chomping where
  | drop
  | joined
  | keep
  deriving DecidableEq, Repr

/-- What is said about an indented text: whether it is folded, what becomes of its last line ends,
and how much deeper than its surroundings it stands. -/
structure BlockStyle where
  folded : Bool
  chomping : Chomping
  depth : Option Nat
  deriving DecidableEq, Repr

namespace Cursor

/-- Read the sign for the last line ends. -/
def readChomping (k : Cursor) : Option (Chomping × Cursor) :=
  if k.isAt '+' then some (.keep, k.next) else if k.isAt '-' then some (.drop, k.next) else none

/-- Read the digit for the depth. -/
def readDepth (k : Cursor) : Option (Nat × Cursor) :=
  match k.peek? with
  | none => none
  | some c => if c.isDigit then some (c.toNat - '0'.toNat, k.next) else none

/-- Read the sign of an indented text and the rest of its line. -/
def readStyle (k : Cursor) : Option (BlockStyle × Cursor) := do
  let folded := k.isAt '>'
  let k := k.next
  let (chomping, depth, k) :=
    match k.readChomping, k.readDepth with
    | some (c, k), _ =>
      match k.readDepth with
      | some (d, k) => (c, some d, k)
      | none => (c, none, k)
    | none, some (d, k) =>
      match k.readChomping with
      | some (c, k) => (c, some d, k)
      | none => (.joined, some d, k)
    | none, none => (.joined, none, k)
  if depth == some 0 || !endsItem k.rest then none
  let k ← k.endLine?
  return (⟨folded, chomping, depth⟩, k)

/-- The place after the spaces in front of the column `indent`. -/
def passIndent (indent : Nat) (k : Cursor) : Cursor :=
  k.skip (min (indent - k.column) (k.rest.takeWhile (· == ' ')).length)

/-- Read empty lines, and the indentation of the line after them. -/
def readEmptyLines (indent : Nat) : Nat → Cursor → List Char × Cursor
  | 0, k => ([], k)
  | n + 1, k =>
    let k := k.passIndent indent
    match k.readBreak with
    | none => ([], k)
    | some (b, k) =>
      let r := readEmptyLines indent n k
      (b :: r.1, r.2)

/-- Read blank lines in front of the first line of a text, and find how deep the deepest of them
and that line stand. -/
def readFirstIndent : Nat → Nat → Cursor → List Char × Nat × Cursor
  | 0, deepest, k => ([], deepest, k)
  | n + 1, deepest, k =>
    let k := k.pass (· == ' ')
    let deepest := max deepest k.column
    match k.readBreak with
    | none => ([], deepest, k)
    | some (b, k) =>
      let r := readFirstIndent n deepest k
      (b :: r.1, r.2)

/-- Read the lines of a text that stands at the column `indent`; in front of the first of them stand
the line ends `breaks`. -/
def readLines (style : BlockStyle) (indent : Nat) (breaks : List Char) :
    Nat → Cursor → List Char × Cursor
  | 0, k => ([], k)
  | n + 1, k =>
    let goesOn (k : Cursor) : Bool := k.column == indent && !k.rest.isEmpty
    let isText (k : Cursor) : Bool := !k.rest.head?.any isGap
    let plain := isText k
    let (line, k) := k.span fun c => !isBreak c
    let (ended, k) :=
      match k.readBreak with
      | some (b, k) => ([b], k)
      | none => ([], k)
    let (further, k) := k.readEmptyLines indent n
    if goesOn k then
      let joint :=
        if style.folded && ended == ['\n'] && plain && isText k then
          if further.isEmpty then [' '] else []
        else ended
      let more := readLines style indent further n k
      (breaks ++ line ++ joint ++ more.1, more.2)
    else
      let last :=
        match style.chomping with
        | .drop => []
        | .joined => ended
        | .keep => ended ++ further
      (breaks ++ line ++ last, k)

/-- Read an indented text at its sign; its surroundings stand at the column `margin - 1`. -/
def readBlock (margin fuel : Nat) (k : Cursor) : Option (List Char × Cursor) := do
  let (style, k) ← k.readStyle
  let least := max margin 1
  let (breaks, indent, k) :=
    match style.depth with
    | none =>
      let r := readFirstIndent fuel 0 k
      (r.1, max least r.2.1, r.2.2)
    | some d =>
      let indent := least + d - 1
      let r := k.readEmptyLines indent fuel
      (r.1, indent, r.2)
  if k.column == indent && !k.rest.isEmpty then
    return readLines style indent breaks fuel k
  else
    return (if style.chomping == .keep then breaks else [], k)

end Cursor

end SchemaMarkup.Document
