import SchemaMarkup.Document.Block
import SchemaMarkup.Document.Plain
import SchemaMarkup.Text.Utf8

set_option autoImplicit false

/-!
# Tokens of a document

## Main definitions

* `SchemaMarkup.Document.Token` — the tokens.
* `SchemaMarkup.Document.Cursor.readName`, `SchemaMarkup.Document.Cursor.readTag`,
  `SchemaMarkup.Document.Cursor.readInstruction` — read the tokens that begin with a sign.
-/

namespace SchemaMarkup.Document

/-- What a line in front of a document says about reading it. -/
inductive Instruction where
  /-- The version of the format. -/
  | version (major : Nat)
  /-- What a handle of tags stands for. -/
  | handle (handle stands : String)
  /-- Anything else, which counts for nothing. -/
  | other
  deriving DecidableEq, Repr

/-- The tokens of a document. Signs that only the indentation shows are tokens too. -/
inductive Token where
  | instruction (i : Instruction)
  | documentStart
  | documentEnd
  | listStart
  | mapStart
  | blockEnd
  | openList
  | closeList
  | openMap
  | closeMap
  | item
  | comma
  | key
  | value
  | alias (name : String)
  | anchor (name : String)
  /-- A tag with its handle, if it has one. -/
  | tag (handle : Option String) (suffix : String)
  /-- A text, which may or may not stand in quotes. -/
  | text (quoted : Bool) (s : String)
  /-- The text that should follow is no token. -/
  | broken (f : Fault)
  deriving DecidableEq, Repr

/-- The character may stand in a tag. -/
def isTagChar (c : Char) : Bool :=
  c.isAlphanum || "-;/?:@&=+$,_.!~*\x27()[]".toList.contains c

namespace Cursor

/-- Read the name behind the sign of an anchor or an alias. -/
def readName (k : Cursor) : Option (String × Cursor) :=
  let (name, k) := k.next.span isNameChar
  if name.isEmpty || !(endsWord k.rest || beginsWith "?:,]\x7d%@\x60".toList k.rest) then none
  else some (String.ofList name, k)

/-- Read the handle of a tag: an exclamation mark, or a name between two of them. -/
def readHandle (k : Cursor) : Option (String × Cursor) :=
  if !k.isAt '!' then none
  else
    let (name, after) := k.next.span isNameChar
    if after.isAt '!' then some (String.ofList ('!' :: name ++ ['!']), after.next)
    else if k.next.isAt ' ' then some ("!", k.next)
    else none

/-- Read bytes that are written with a percent sign and two digits each, at most as many as the
number says. -/
def readBytes : Nat → Cursor → Option (List Nat × Cursor)
  | 0, k => some ([], k)
  | n + 1, k =>
    if !k.isAt '%' then some ([], k)
    else do
      let digits := k.next.rest.take 2
      if digits.length < 2 then none
      let b ← hexNumber? digits
      let (bs, k) ← readBytes n (k.skip 3)
      some (b :: bs, k)

/-- Read the characters of a tag. Any character may be written with the bytes that encode it. -/
def readTagChars : Nat → Cursor → Option (List Char × Cursor)
  | 0, k => some ([], k)
  | n + 1, k =>
    let (plain, k) := k.span isTagChar
    if !k.isAt '%' then some (plain, k)
    else do
      let (bytes, k) ← k.readBytes (n + 1)
      let encoded ← (Text.Utf8.decode bytes).toOption
      let (more, k) ← readTagChars n k
      some (plain ++ encoded ++ more, k)

/-- Read the characters of a tag, of which there is at least one. -/
def readTagText (k : Cursor) : Option (String × Cursor) := do
  let (s, k) ← k.readTagChars (k.rest.length + 1)
  if s.isEmpty then none
  some (String.ofList s, k)

/-- Read a tag. -/
def readTag (k : Cursor) : Option (Token × Cursor) := do
  let (token, k) ←
    if k.next.isAt '<' then do
      let (s, k) ← (k.skip 2).readTagText
      if !k.isAt '>' then none
      some (Token.tag none s, k.next)
    else if endsWord k.next.rest then
      some (.tag none "!", k.next)
    else do
      let named := (k.next.rest.takeWhile fun c => !endsItem [c]).contains '!'
      let (h, k) ← if named then k.readHandle else some ("!", k.next)
      let (s, k) ← k.readTagText
      some (.tag (some h) s, k)
  if endsItem k.rest then some (token, k) else none

/-- Read a decimal number. -/
def readNumber (k : Cursor) : Except Fault (Nat × Cursor) :=
  let (digits, k) := k.span Char.isDigit
  if digits.isEmpty then .error .malformed
  else
    match Numeral.whole 10 digits with
    | .ok n => .ok (n.toNat, k)
    | .error f => .error (.numeral f)

/-- Read the version that an instruction names. -/
def readVersion (k : Cursor) : Except Fault (Instruction × Cursor) := do
  let (major, k) ← (k.pass (· == ' ')).readNumber
  if !k.isAt '.' then throw .malformed
  let (_, k) ← k.next.readNumber
  if endsItem k.rest then return (.version major, k) else throw .malformed

/-- Read the handle that an instruction introduces and what it stands for. -/
def readHandleRule (k : Cursor) : Option (Instruction × Cursor) := do
  let (h, k) ← (k.pass (· == ' ')).readHandle
  if !k.isAt ' ' then none
  let (s, k) ← (k.pass (· == ' ')).readTagText
  if endsItem k.rest then some (.handle h s, k) else none

/-- Read the line of an instruction. -/
def readInstruction (k : Cursor) : Except Fault (Token × Cursor) := do
  let (name, k) := k.next.span isNameChar
  if name.isEmpty || !endsItem k.rest then throw .malformed
  let (i, k) ←
    match String.ofList name with
    | "YAML" => k.readVersion
    | "TAG" => wellFormed k.readHandleRule
    | _ => .ok (.other, k.pass fun c => !isBreak c)
  let k ← wellFormed k.endLine?
  return (.instruction i, k)

end Cursor

end SchemaMarkup.Document
