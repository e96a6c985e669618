import SchemaMarkup.Document.Graph
import SchemaMarkup.Document.Lexer

set_option autoImplicit false

/-!
# Reading the graph of a document

The tokens of a document are read from left to right. A node gets its number, and its anchor becomes
known, before the nodes that it holds are read. No anchor is used twice, and an alias stands for a
node whose anchor is known. Lists and maps stand inside one another only so deeply.

## Main definitions

* `SchemaMarkup.Document.Reader` — reading with the tokens, the anchors and the nodes so far.
* `SchemaMarkup.Document.Reader.node` — read a node.
* `SchemaMarkup.Document.graphOf` — the graph of a text and the number of its only node.
-/

namespace SchemaMarkup.Document

/-- Where the reading of a document stands. -/
structure Reading where
  tokens : List Token
  /-- The numbers of the nodes with an anchor. -/
  anchors : List (String × Nat)
  nodes : Array Node
  /-- How many lists and maps are being read, each inside the one before. -/
  depth : Nat

/-- Reading with the tokens, the anchors and the nodes so far. -/
abbrev Reader := StateT Reading (Except Fault)

/-- How many lists and maps may stand inside one another. -/
def deepest : Nat := 490

/-- What the handles of tags stand for. -/
abbrev Handles := List (String × String)

/-- The handles that every document has. -/
def standardHandles : Handles := [("!", "!"), ("!!", coreTag)]

/-- What is said about a node in front of it: its anchor, and the full name of its tag. -/
structure Properties where
  anchor : Option String
  tag : Option String
  deriving DecidableEq, Repr

namespace Properties

/-- The form of a text decides its tag. -/
def isOpen (p : Properties) : Bool := p.tag.all (· == "!")

/-- The tag of a text. Without a tag, a text in quotes is just a text. -/
def textTag (p : Properties) (quoted : Bool) (s : String) : Tag :=
  match p.tag with
  | .none => if quoted then .text else .ofForm s
  | some t => if t == "!" then .ofForm s else .ofName t

/-- The tag of a collection that is usually tagged as given. -/
def collectionTag (p : Properties) (usual : Tag) : Tag :=
  if p.isOpen then usual else (p.tag.map Tag.ofName).getD usual

end Properties

namespace Reader

/-- The next token. -/
def peek : Reader (Option Token) := do
  match (← get).tokens with
  | [] => return none
  | .broken f :: _ => throw f
  | t :: _ => return some t

/-- Pass the next token. -/
def advance : Reader Unit := modify fun r => { r with tokens := r.tokens.tail }

/-- Pass the next token if it is the given one, and say whether it was. -/
def pass (t : Token) : Reader Bool := do
  if (← peek) == some t then
    advance
    return true
  return false

/-- Pass the next token, which has to be the given one. -/
def expect (t : Token) : Reader Unit := do
  if !(← pass t) then throw .malformed

/-- One of the given tokens comes next. -/
def isNext (stops : List Token) : Reader Bool := return (← peek).any stops.contains

/-- Begin a node: give it a number and make its anchor known. -/
def begin (anchor : Option String) (node : Node) : Reader Nat := do
  let r ← get
  let n := r.nodes.size
  match anchor with
  | none => set { r with nodes := r.nodes.push node }
  | some a =>
    if (r.anchors.lookup a).isSome then throw .malformed
    set { r with nodes := r.nodes.push node, anchors := (a, n) :: r.anchors }
  return n

/-- Begin a list or a map. -/
def beginCollection (anchor : Option String) (node : Node) : Reader Nat := do
  if deepest ≤ (← get).depth then throw .tooDeep
  modify fun r => { r with depth := r.depth + 1 }
  begin anchor node

/-- Say what a list or a map holds when all of it has been read. -/
def fill (n : Nat) (content : Content) : Reader Unit :=
  modify fun r =>
    let tag := (r.nodes.getD n .missing).tag
    { r with nodes := r.nodes.setIfInBounds n ⟨tag, content⟩, depth := r.depth - 1 }

/-- Read a missing node. -/
def missing : Reader Nat := begin none .missing

/-- The node of an anchor. -/
def resolve (anchor : String) : Reader Nat := do
  match (← get).anchors.lookup anchor with
  | some n => return n
  | none => throw .malformed

/-- The full name of a tag. -/
def fullTag (hs : Handles) (handle : Option String) (suffix : String) : Reader String :=
  match handle with
  | none => return suffix
  | some h =>
    match hs.lookup h with
    | some stands => return stands ++ suffix
    | none => throw .malformed

/-- Read an anchor, if one comes next. -/
def anchor? : Reader (Option String) := do
  match ← peek with
  | some (.anchor a) =>
    advance
    return some a
  | _ => return none

/-- Read a tag, if one comes next: its handle, which may be left out, and the rest. -/
def tag? : Reader (Option (Option String × String)) := do
  match ← peek with
  | some (.tag h s) =>
    advance
    return some (h, s)
  | _ => return none

/-- Read the properties in front of a node: an anchor and a tag in any order. -/
def properties (hs : Handles) : Reader Properties := do
  let before ← anchor?
  let tag ← tag?
  let anchor ← if before.isNone && tag.isSome then anchor? else pure before
  match tag with
  | none => return ⟨anchor, none⟩
  | some (h, s) => return ⟨anchor, some (← fullTag hs h s)⟩

mutual

/-- Read a node. Outside brackets a list or a map may be shown by its indentation, and with
`unindented` a list may be shown by the signs of its items alone. -/
def node (hs : Handles) (nested unindented : Bool) : Nat → Reader Nat
  | 0 => throw .malformed
  | fuel + 1 => do
    if let some (.alias a) ← peek then
      advance
      return ← resolve a
    let p ← properties hs
    let beginList : Reader Nat := beginCollection p.anchor ⟨p.collectionTag .list, .list []⟩
    let beginMap : Reader Nat := beginCollection p.anchor ⟨p.collectionTag .map, .map []⟩
    if unindented && (← isNext [.item]) then
      let n ← beginList
      fill n (.list (← unindentedItems hs fuel))
      return n
    match ← peek with
    | some (.text q s) =>
      advance
      begin p.anchor ⟨p.textTag q s, .text s⟩
    | some .openList =>
      let n ← beginList
      advance
      fill n (.list (← nestedItems hs true fuel))
      return n
    | some .openMap =>
      let n ← beginMap
      advance
      fill n (.map (← nestedEntries hs true fuel))
      return n
    | some .listStart =>
      if nested then bare p
      else
        let n ← beginList
        advance
        fill n (.list (← items hs fuel))
        return n
    | some .mapStart =>
      if nested then bare p
      else
        let n ← beginMap
        advance
        fill n (.map (← entries hs fuel))
        return n
    | _ => bare p
where
  /-- A node that is nothing but its properties. -/
  bare (p : Properties) : Reader Nat := do
    if p.anchor.isNone && p.tag.isNone then throw .malformed
    begin p.anchor ⟨p.textTag false "", .text ""⟩

/-- Read a node, or the missing one in front of the tokens that cannot begin it. -/
def nodeOr (hs : Handles) (nested unindented : Bool) (stops : List Token) : Nat → Reader Nat
  | 0 => throw .malformed
  | fuel + 1 => do
    if ← isNext stops then missing else node hs nested unindented fuel

/-- Read the items of a list that stands deeper than its surroundings. -/
def items (hs : Handles) : Nat → Reader (List Nat)
  | 0 => throw .malformed
  | fuel + 1 => do
    if ← pass .item then
      let v ← nodeOr hs false false [.item, .blockEnd] fuel
      return v :: (← items hs fuel)
    expect .blockEnd
    return []

/-- Read the items of a list that stands no deeper than its surroundings. -/
def unindentedItems (hs : Handles) : Nat → Reader (List Nat)
  | 0 => throw .malformed
  | fuel + 1 => do
    if ← pass .item then
      let v ← nodeOr hs false false [.item, .key, .value, .blockEnd] fuel
      return v :: (← unindentedItems hs fuel)
    return []

/-- Read the entries of a map outside brackets. -/
def entries (hs : Handles) : Nat → Reader (List (Nat × Nat))
  | 0 => throw .malformed
  | fuel + 1 => do
    if ← pass .key then
      let k ← nodeOr hs false true [.key, .value, .blockEnd] fuel
      let v ← entryValue hs false true [.key, .value, .blockEnd] fuel
      return (k, v) :: (← entries hs fuel)
    expect .blockEnd
    return []

/-- Read the value of a key. -/
def entryValue (hs : Handles) (nested unindented : Bool) (stops : List Token) : Nat → Reader Nat
  | 0 => throw .malformed
  | fuel + 1 => do
    if ← pass .value then nodeOr hs nested unindented stops fuel else missing

/-- Read the items of a list in brackets, and the closing bracket. A key makes a map of one entry.
In front of every item but the first stands a comma. -/
def nestedItems (hs : Handles) (first : Bool) : Nat → Reader (List Nat)
  | 0 => throw .malformed
  | fuel + 1 => do
    if ← pass .closeList then return []
    if !first then expect .comma
    if ← isNext [.key] then
      let n ← beginCollection none ⟨.map, .map []⟩
      advance
      let k ← nodeOr hs true false [.value, .comma, .closeList] fuel
      let v ← entryValue hs true false [.comma, .closeList] fuel
      fill n (.map [(k, v)])
      return n :: (← nestedItems hs false fuel)
    if ← pass .closeList then return []
    let v ← node hs true false fuel
    return v :: (← nestedItems hs false fuel)

/-- Read the entries of a map in brackets, and the closing bracket. A node that is no key has no
value. In front of every entry but the first stands a comma. -/
def nestedEntries (hs : Handles) (first : Bool) : Nat → Reader (List (Nat × Nat))
  | 0 => throw .malformed
  | fuel + 1 => do
    if ← pass .closeMap then return []
    if !first then expect .comma
    if ← pass .key then
      let k ← nodeOr hs true false [.value, .comma, .closeMap] fuel
      let v ← entryValue hs true false [.comma, .closeMap] fuel
      return (k, v) :: (← nestedEntries hs false fuel)
    if ← pass .closeMap then return []
    let k ← node hs true false fuel
    let v ← missing
    return (k, v) :: (← nestedEntries hs false fuel)

end

/-- Read the instructions in front of a document, at most as many as the number says: the version at
most once and of the first major number, and no handle twice. -/
def instructions (version : Bool) (hs : Handles) : Nat → Reader Handles
  | 0 => throw .malformed
  | fuel + 1 => do
    match ← peek with
    | some (.instruction i) =>
      advance
      match i with
      | .version major =>
        if version || major != 1 then throw .malformed
        instructions true hs fuel
      | .handle h s =>
        if (hs.lookup h).isSome then throw .malformed
        instructions version ((h, s) :: hs) fuel
      | .other => instructions version hs fuel
    | _ => return hs ++ standardHandles

/-- The marks between documents and the instructions. -/
def isBetween : Token → Bool
  | .instruction _ | .documentStart | .documentEnd => true
  | _ => false

/-- Pass the marks of the end of a document, at most as many as the number says. -/
def passEnds : Nat → Reader Unit
  | 0 => throw .malformed
  | fuel + 1 => do
    if ← pass .documentEnd then passEnds fuel

/-- Read the end of the text. What follows a document may be nothing but marks of its end. -/
def ending (fuel : Nat) : Reader Unit := do
  passEnds fuel
  if (← peek).isSome then
    let _ ← instructions false [] fuel
    throw .malformed

/-- Read the only document of a text: its node, unless there is none at all. -/
def document (fuel : Nat) : Reader (Option Nat) := do
  match ← peek with
  | none => return none
  | some t =>
    let n ←
      if isBetween t && t != .documentEnd then do
        let hs ← instructions false [] fuel
        expect .documentStart
        if (← peek).all isBetween then missing else node hs false false fuel
      else node standardHandles false false fuel
    ending fuel
    return some n

end Reader

/-- The graph of a text and the number of its only node. A text without any node has a missing
one. -/
def graphOf (s : List Char) : Except Fault (Graph × Nat) := do
  let ts := tokens s
  let (n, r) ← (Reader.document (4 * ts.length + 4)).run ⟨ts, [], #[], 0⟩
  match n with
  | some n => return (⟨r.nodes⟩, n)
  | none => return (⟨#[.missing]⟩, 0)

end SchemaMarkup.Document
