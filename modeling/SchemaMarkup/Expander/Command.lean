import SchemaMarkup.Expander.Basic
import SchemaMarkup.Markup.Place

set_option autoImplicit false

/-!
# Commands to the expander

What can be asked of an expander, as data, so that a session with an expander is a list of commands.

## Main definitions

* `SchemaMarkup.Expander.Command` — what can be asked.
* `SchemaMarkup.Expander.Reply` — what is answered.
* `SchemaMarkup.Expander.perform` — the answer to a command, and the expander after it.
-/

namespace SchemaMarkup.Expander

/-- What can be asked of an expander. -/
inductive Command where
  | setSemantic (semantic : Option String)
  | enable (flag : Bool)
  | addSuffixes (ss : List (Option String))
  | removeSuffixes (ss : List (Option String))
  | expand (html : String)
  | fragment (directive : String)
  | semantic
  | suffixes
  /-- The start tag at an offset of a document. -/
  | scanTag (html : String) (start : Nat)
  /-- The start tag at an offset, expanded for the given attribute names. -/
  | expandTag (html : String) (start : Nat) (names : List String)
  /-- The raw text at an offset, up to the closing tag of the given name. -/
  | skipRaw (html : String) (start : Nat) (name : String)
  /-- A command to the engine of the expander. -/
  | engine (c : Engine.Command)
  deriving Repr

/-- The answer to a command: what an engine may answer, a tag if there is one, the text of an
expanded tag with the number of attributes replaced, or a raw text with its end. -/
inductive Reply where
  | plain (a : Answer)
  | tag (p : Option PlacedTag)
  | tagText (t : Option (String × Nat))
  | raw (stop : Nat) (text : String)
  deriving DecidableEq, Repr

/-- Why a command has no answer. -/
inductive Fault where
  | unknownFlavour (u : UnknownFlavour)
  | obstacle (o : Vocabulary.Obstacle)
  deriving DecidableEq, Repr

/-- The pieces of the start tag at an offset. -/
def tagPieces (html : List Char) (start : Nat) (names : List String) : Option (List Piece) :=
  (Tag.at? html start).map fun p => Piece.ofTag names p.tag

/-- Why the start tag at an offset cannot be expanded. -/
def tagObstacle? (e : Engine) (html : List Char) (start : Nat) (names : List String) :
    Option Vocabulary.Obstacle :=
  (tagPieces html start names).bind fun ps => (e.reach ps).2

/-- The start tag at an offset with its directive replaced, the number of attributes replaced, and
the engine after it. -/
def expandTagAt (e : Engine) (html : List Char) (start : Nat) (names : List String) :
    Option (List Char × Nat × Engine) :=
  (tagPieces html start names).map fun ps =>
    let r := e.expand ps
    ((html.drop start).take 1 ++ r.1, (Piece.directives ps).length, r.2)

/-- The expander after a command. A flavour that does not exist changes nothing. -/
def next (r : Expander) : Command → Expander
  | .setSemantic s => (r.setSemantic s).toOption.getD r
  | .enable flag => r.enable flag
  | .addSuffixes ss => r.addSuffixes ss
  | .removeSuffixes ss => r.removeSuffixes ss
  | .expand html => (r.expand html).2
  | .fragment d => (r.fragment d).2
  | .expandTag html start names =>
    match expandTagAt r.engine html.toList start names with
    | some (_, _, engine) => { r with engine }
    | none => r
  | .engine c => { r with engine := r.engine.next c }
  | .semantic | .suffixes | .scanTag .. | .skipRaw .. => r

/-- Why a command has no answer. -/
def fault? (r : Expander) : Command → Option Fault
  | .setSemantic s =>
    match r.setSemantic s with
    | .ok _ => none
    | .error u => some (.unknownFlavour u)
  | .expand html => (r.expandObstacle? html).map .obstacle
  | .fragment d => (r.engine.fragmentObstacle? d).map .obstacle
  | .expandTag html start names =>
    (tagObstacle? r.engine html.toList start names).map .obstacle
  | .engine c => (r.engine.obstacle? c).map .obstacle
  | _ => none

/-- The answer to a command that has one. -/
def answer (r : Expander) : Command → Reply
  | .setSemantic _ | .enable _ | .addSuffixes _ | .removeSuffixes _ => .plain .done
  | .expand html => .plain (.text (r.expand html).1)
  | .fragment d => .plain (.text (r.fragment d).1)
  | .semantic => .plain (.text r.engine.renderer.flavour.name)
  | .suffixes => .plain (.names r.suffixes)
  | .scanTag html start => .tag (Tag.at? html.toList start)
  | .expandTag html start names =>
    .tagText ((expandTagAt r.engine html.toList start names).map fun t =>
      (String.ofList t.1, t.2.1))
  | .skipRaw html start name =>
    let raw := Segment.rawAt html.toList start name.toList
    .raw raw.1 (String.ofList raw.2)
  | .engine c => .plain (r.engine.answer c)

/-- The answer to a command, or why it has none, and the expander after it. -/
def perform (r : Expander) (c : Command) : Except Fault Reply × Expander :=
  match r.fault? c with
  | some f => (.error f, r.next c)
  | none => (.ok (r.answer c), r.next c)

/-- What a command reports. -/
def commandNotes (r : Expander) : Command → List Note
  | .setSemantic s =>
    match r.setSemantic s with
    | .ok r' => r'.semanticNotes
    | .error _ => []
  | .addSuffixes ss => Suffix.addNotes ss
  | .expand html => r.expandNotes html
  | .fragment d => r.engine.fragmentNotes d
  | .expandTag html start names =>
    match Tag.at? html.toList start with
    | some p => r.engine.directivesNotes (Piece.directives (Piece.ofTag names p.tag))
    | none => []
  | .engine c => r.engine.commandNotes c
  | _ => []

/-- The expander after a list of commands. -/
def run (r : Expander) (cs : List Command) : Expander := cs.foldl next r

@[simp] theorem run_nil (r : Expander) : r.run [] = r := rfl

@[simp] theorem run_cons (r : Expander) (c : Command) (cs : List Command) :
    r.run (c :: cs) = (r.next c).run cs := rfl

end SchemaMarkup.Expander
