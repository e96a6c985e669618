import SchemaMarkup.Document.Token

set_option autoImplicit false

/-!
# Cutting a document into tokens

A place where an item begins may turn out to be the place of a key: that is known when the colon
comes. Such a place gets a slot among the tokens, which the colon fills. A key that is left open
stays on its line and is at most 1024 characters long.

## Main definitions

* `SchemaMarkup.Document.Lexer` — the tokens found so far and what the next ones depend on.
* `SchemaMarkup.Document.Lexer.step` — find the next token.
* `SchemaMarkup.Document.Lexer.delivered` — the tokens that nothing in the rest of the text can
  change.
* `SchemaMarkup.Document.tokens` — the tokens of a text.
-/

namespace SchemaMarkup.Document

/-- A place that may become the place of a key. -/
structure OpenKey where
  /-- The slot for the tokens of the key. -/
  slot : Nat
  /-- Nothing but a key can stand here. -/
  required : Bool
  place : Cursor

/-- The tokens found so far and what the next ones depend on. -/
structure Lexer where
  cursor : Cursor
  /-- The slots for tokens; a slot without tokens is a place that is no key. -/
  slots : Array (List Token)
  /-- How many brackets are open. -/
  depth : Nat
  /-- The columns at which the open lists and maps stand, innermost first. -/
  indents : List Nat
  /-- A key may begin here. -/
  mayBeKey : Bool
  /-- The open keys, each with the number of brackets around it. -/
  openKeys : List (Nat × OpenKey)

namespace Lexer

/-- The beginning of a text. -/
def ofText (s : List Char) : Lexer := ⟨.ofText s, #[], 0, [], true, []⟩

/-- The column behind that of the innermost list or map. -/
def margin (x : Lexer) : Nat := (x.indents.head?.map (· + 1)).getD 0

/-- Add a token. -/
def push (t : Token) (x : Lexer) : Lexer := { x with slots := x.slots.push [t] }

/-- Add a token that was read up to a place. -/
def pushAt (t : Token) (k : Cursor) (x : Lexer) : Lexer := { x.push t with cursor := k }

/-- The key that is open between the present brackets. -/
def openKey? (x : Lexer) : Option OpenKey := x.openKeys.lookup x.depth

/-- Give up the key that is open between the present brackets. -/
def dropKey? (x : Lexer) : Option Lexer :=
  if x.openKey?.any (·.required) then none
  else some { x with openKeys := x.openKeys.filter (·.1 != x.depth) }

/-- The key can no longer get its colon. -/
def isStale (x : Lexer) (e : Nat × OpenKey) : Bool :=
  e.2.place.line != x.cursor.line || x.cursor.index - e.2.place.index > 1024

/-- Give up the keys that can no longer get their colon. -/
def dropStale? (x : Lexer) : Option Lexer :=
  if x.openKeys.any fun e => x.isStale e && e.2.required then none
  else some { x with openKeys := x.openKeys.filter fun e => !x.isStale e }

/-- Note that a key may begin here. -/
def noteKey? (x : Lexer) : Option Lexer :=
  if x.mayBeKey then
    x.dropKey?.map fun x =>
      let required := x.depth == 0 && x.indents.head? == some x.cursor.column
      { x with
        slots := x.slots.push []
        openKeys := (x.depth, ⟨x.slots.size, required, x.cursor⟩) :: x.openKeys }
  else some x

/-- A list or a map that begins at a column opens if it stands deeper than the ones open. -/
def indent (column : Nat) (x : Lexer) : Bool × Lexer :=
  if x.indents.head?.all (· < column) then (true, { x with indents := column :: x.indents })
  else (false, x)

/-- Close the lists and maps that stand deeper than a column; without a column close all. -/
def unwind (column : Option Nat) (x : Lexer) : Lexer :=
  if x.depth > 0 then x
  else
    let deeper := x.indents.takeWhile fun i => column.all (· < i)
    { x with
      slots := deeper.foldl (fun slots _ => slots.push [.blockEnd]) x.slots
      indents := x.indents.drop deeper.length }

/-- Pass white space, line ends and comments. Outside brackets a key may begin on a new line. -/
def passBlank : Nat → Lexer → Lexer
  | 0, x => x
  | n + 1, x =>
    let k := (x.cursor.pass (· == ' ')).passComment
    match k.readBreak with
    | none => { x with cursor := k }
    | some (_, k) => passBlank n { x with cursor := k, mayBeKey := x.mayBeKey || x.depth == 0 }

/-- Read a sign in front of an item, a key or a value outside brackets; it opens a list or a map if
it stands deeper than the ones open. -/
def openAt? (opened sign : Token) (x : Lexer) : Option Lexer :=
  if x.depth > 0 then some (x.pushAt sign x.cursor.next)
  else if !x.mayBeKey then none
  else
    let (deeper, x) := x.indent x.cursor.column
    let x := if deeper then x.push opened else x
    some (x.pushAt sign x.cursor.next)

/-- Read the sign of an item. -/
def item? (x : Lexer) : Option Lexer := do
  let x ← x.dropKey?
  let x ← x.openAt? .listStart .item
  return { x with mayBeKey := true }

/-- Read the sign of a key. -/
def key? (x : Lexer) : Option Lexer := do
  let x ← x.dropKey?
  let x ← x.openAt? .mapStart .key
  return { x with mayBeKey := x.depth == 0 }

/-- Read the colon in front of a value. It makes a key of the open one. -/
def value? (x : Lexer) : Option Lexer :=
  match x.openKey? with
  | none => do
    let x ← x.openAt? .mapStart .value
    return { x with mayBeKey := x.depth == 0 }
  | some key =>
    let x := { x with openKeys := x.openKeys.filter (·.1 != x.depth) }
    let (deeper, x) := if x.depth > 0 then (false, x) else x.indent key.place.column
    let filled := if deeper then [.mapStart, .key] else [.key]
    let x := { x with slots := x.slots.modify key.slot fun _ => filled, mayBeKey := false }
    some (x.pushAt .value x.cursor.next)

/-- Read an opening bracket. -/
def openBracket? (t : Token) (x : Lexer) : Option Lexer := do
  let x ← x.noteKey?
  return { x.pushAt t x.cursor.next with depth := x.depth + 1, mayBeKey := true }

/-- Read a closing bracket. -/
def closeBracket? (t : Token) (x : Lexer) : Option Lexer := do
  if x.depth == 0 then none
  let x ← x.dropKey?
  return { x.pushAt t x.cursor.next with depth := x.depth - 1, mayBeKey := false }

/-- Read an item at which a key may begin. -/
def readItem (read : Cursor → Except Fault (Token × Cursor)) (x : Lexer) : Except Fault Lexer := do
  let x ← wellFormed x.noteKey?
  let (t, k) ← read x.cursor
  return { x.pushAt t k with mayBeKey := false }

/-- Read a text in quotes. -/
def quoted (quote : Char) (fuel : Nat) (x : Lexer) : Except Fault Lexer :=
  x.readItem fun k => (k.next.readQuoted quote fuel).map fun r => (.text true (.ofList r.1), r.2)

/-- Read an alias, an anchor or a tag. -/
def named (read : Cursor → Option (Token × Cursor)) (x : Lexer) : Except Fault Lexer :=
  x.readItem fun k => wellFormed (read k)

/-- Read a text without quotes. -/
def plain? (fuel : Nat) (x : Lexer) : Option Lexer := do
  let x ← x.noteKey?
  let (s, ended, k) := x.cursor.readPlain (x.depth > 0) x.margin fuel
  return { x.pushAt (.text false (.ofList s)) k with mayBeKey := ended }

/-- Read an indented text. -/
def block? (fuel : Nat) (x : Lexer) : Option Lexer := do
  let x ← x.dropKey?
  let (s, k) ← x.cursor.readBlock x.margin fuel
  return { x.pushAt (.text true (.ofList s)) k with mayBeKey := true }

/-- Leave all lists and maps in front of a token that stands between documents. -/
def leave? (x : Lexer) : Option Lexer := do
  let x ← (x.unwind none).dropKey?
  return { x with mayBeKey := false }

/-- Read an instruction. -/
def instruction (x : Lexer) : Except Fault Lexer := do
  let x ← wellFormed x.leave?
  let (t, k) ← x.cursor.readInstruction
  return x.pushAt t k

/-- Find the next token, which begins with the character `c` in front of the text `s`. -/
def dispatch (fuel : Nat) (c : Char) (s : List Char) (x : Lexer) : Except Fault Lexer :=
  let nested := x.depth > 0
  let first := x.cursor.column == 0
  let signs := endsWord s
  if first && c == '%' then x.instruction
  else if first && isRule '-' (c :: s) then
    wellFormed (x.leave?.map fun x => x.pushAt .documentStart (x.cursor.skip 3))
  else if first && isRule '.' (c :: s) then
    wellFormed (x.leave?.map fun x => x.pushAt .documentEnd (x.cursor.skip 3))
  else if c == '[' then wellFormed (x.openBracket? .openList)
  else if c == '\x7b' then wellFormed (x.openBracket? .openMap)
  else if c == ']' then wellFormed (x.closeBracket? .closeList)
  else if c == '\x7d' then wellFormed (x.closeBracket? .closeMap)
  else if c == ',' then
    wellFormed (x.dropKey?.map fun x => { x.pushAt .comma x.cursor.next with mayBeKey := true })
  else if c == '-' && signs then wellFormed x.item?
  else if c == '?' && (nested || signs) then wellFormed x.key?
  else if c == ':' && (nested || signs) then wellFormed x.value?
  else if c == '*' then x.named fun k => k.readName.map fun r => (.alias r.1, r.2)
  else if c == '&' then x.named fun k => k.readName.map fun r => (.anchor r.1, r.2)
  else if c == '!' then x.named (·.readTag)
  else if (c == '|' || c == '>') && !nested then wellFormed (x.block? fuel)
  else if c == '\'' || c == '"' then x.quoted c fuel
  else if beginsPlain nested (c :: s) then wellFormed (x.plain? fuel)
  else .error .malformed

/-- Find the next token; at the end of the text close what is open. The answer is on the right when
all tokens are found. -/
def step (fuel : Nat) (x : Lexer) : Except Fault (Lexer ⊕ Lexer) := do
  let x ← wellFormed (x.passBlank fuel).dropStale?
  let x := x.unwind (some x.cursor.column)
  match x.cursor.rest with
  | [] => (wellFormed x.leave?).map .inr
  | c :: s => (x.dispatch fuel c s).map .inl

/-- The tokens that nothing in the rest of the text can change: those in front of the first place
that may still become the place of a key. -/
def delivered (x : Lexer) : List Token :=
  let pending := (x.openKeys.filter fun e => !x.isStale e).map fun e => e.2.slot
  (x.slots.toList.take (pending.foldl min x.slots.size)).flatten

/-- Find the tokens, in at most as many steps as the first number says. Where the text goes wrong,
the fault stands behind the tokens that are certain. -/
def run (fuel : Nat) : Nat → Lexer → List Token
  | 0, x => x.delivered ++ [.broken .malformed]
  | n + 1, x =>
    match x.step fuel with
    | .error f => x.delivered ++ [.broken f]
    | .ok (.inl x) => run fuel n x
    | .ok (.inr x) => x.slots.toList.flatten

end Lexer

/-- The character may stand in a document. -/
def isPrintable (c : Char) : Bool :=
  c == '\t' || c == '\n' || c == '\r' || ' ' ≤ c && c ≤ '~' || c == '\x85' ||
    '\xa0' ≤ c && c ≤ '\ufffd' || 0x10000 ≤ c.toNat

/-- The tokens of a text. A text with a character that may not stand in a document has none, and a
byte order mark in front does not count. -/
def tokens (s : List Char) : List Token :=
  if !s.all isPrintable then [.broken .malformed]
  else
    let start := Lexer.ofText s
    let cursor := if start.cursor.isAt '\uFEFF' then start.cursor.next else start.cursor
    let fuel := s.length + 1
    Lexer.run fuel fuel { start with cursor }

end SchemaMarkup.Document
