import SchemaMarkup.Engine.Directive

set_option autoImplicit false

/-!
# Commands to the engine

What can be asked of an engine, as data, so that a session with an engine is a list of commands.

## Main definitions

* `SchemaMarkup.Engine.Command` — what can be asked.
* `SchemaMarkup.Answer` — what is answered.
* `SchemaMarkup.Engine.obstacle?` — why a command has no answer.
* `SchemaMarkup.Engine.perform` — the answer to a command, and the engine after it.
* `SchemaMarkup.Engine.run` — the engine after a list of commands.
-/

namespace SchemaMarkup

/-- The answer to a command: nothing, a text that may be missing, a flag, or a list of names. -/
inductive Answer where
  | done
  | text (t : Option String)
  | flag (b : Bool)
  | names (ns : List String)
  deriving DecidableEq, Repr

namespace Engine

/-- What can be asked of an engine. -/
inductive Command where
  | setType (t : Option String)
  | requestProperty (p : Option String)
  | setContent (content machineContent : Option String)
  | setFallback (t p : Option String)
  | enable (flag : Bool)
  | display (shape : Shape) (emptyOutput : Bool)
  | scope (t : Option String)
  | current
  | enabled
  | property
  | content
  | fallbackType
  | fallbackProperty
  | describe
  deriving Repr

/-- Why a nested item cannot be written: its type is too long to be written. -/
def itemObstacle? (e : Engine) (p : String) : Option Vocabulary.Obstacle :=
  match e.vocabulary.kind e.current p with
  | .nested => if (e.nestedItem p).1.isUnwritable then some .unwritable else none
  | _ => none

/-- Why a requested property cannot be displayed in a shape. -/
def propertyDisplayObstacle? (e : Engine) (shape : Shape) (p : String) :
    Option Vocabulary.Obstacle :=
  match shape with
  | .automatic =>
    match e.vocabulary.kindObstacle? e.current p with
    | some o => some o
    | none => e.itemObstacle? p
  | _ => none

/-- Why the fallback cannot be displayed in a shape. -/
def fallbackDisplayObstacle? (e : Engine) (shape : Shape) (t : String) :
    Option Vocabulary.Obstacle :=
  match shape, e.request.content, Text.given e.request.fallbackProperty with
  | .automatic, some _, some q => e.vocabulary.kindObstacle? t q
  | _, _, _ => none

/-- Why the request cannot be displayed in a shape. -/
def displayObstacle? (e : Engine) (shape : Shape) : Option Vocabulary.Obstacle :=
  match e.enabled, Text.given e.request.property, Text.given e.request.fallbackType with
  | true, some p, _ => e.propertyDisplayObstacle? shape p
  | true, none, some t => e.fallbackDisplayObstacle? shape t
  | _, _, _ => none

/-- Why a command has no answer. -/
def obstacle? (e : Engine) : Command → Option Vocabulary.Obstacle
  | .requestProperty p => p.bind fun p => e.vocabulary.propertyObstacle? e.current p
  | .setFallback t p =>
    p.bind fun p => e.vocabulary.propertyObstacle? (e.vocabulary.resolve t) p
  | .display shape _ => e.displayObstacle? shape
  | _ => none

/-- The engine after a command. A property that cannot be judged is not requested, and what was
requested before stays; the item to fall back on is set all the same. -/
def next (e : Engine) (c : Command) : Engine :=
  match c with
  | .setType t => e.setType t
  | .requestProperty p => if (e.obstacle? c).isSome then e else e.requestProperty p
  | .setContent content machine => e.setContent content machine
  | .setFallback t p =>
    if (e.obstacle? c).isSome then
      { e with request := { e.request with fallbackType := some (e.vocabulary.resolve t) } }
    else e.setFallback t p
  | .enable flag => e.enable flag
  | .display shape emptyOutput => (e.display shape emptyOutput).2
  | _ => e

/-- The answer to a command that has one. -/
def answer (e : Engine) : Command → Answer
  | .display shape emptyOutput => .text (e.display shape emptyOutput).1
  | .scope t => .text (e.scope t)
  | .current => .text e.current
  | .enabled => .flag e.enabled
  | .property => .text e.request.property
  | .content => .text e.request.content
  | .fallbackType => .text e.request.fallbackType
  | .fallbackProperty => .text e.request.fallbackProperty
  | .describe => .text e.describe
  | _ => .done

/-- The answer to a command, or why it has none, and the engine after it. -/
def perform (e : Engine) (c : Command) : Except Vocabulary.Obstacle Answer × Engine :=
  match e.obstacle? c with
  | some o => (.error o, e.next c)
  | none => (.ok (e.answer c), e.next c)

/-- What displaying a request reports: the property and its kind, when the kind decides the
shape. -/
def displayNotes (e : Engine) (shape : Shape) : List Note :=
  match e.enabled, shape, Text.given e.request.property with
  | true, .automatic, some p =>
    let current := e.current
    let kind := (e.vocabulary.kind e.current p).label
    if (e.vocabulary.kindObstacle? e.current p).isSome then []
    else [.step s!"Rendering {current}.{p} as {kind}"]
  | _, _, _ => []

/-- What a command reports. -/
def commandNotes (e : Engine) : Command → List Note
  | .setType t => e.vocabulary.resolveNotes t
  | .setFallback t _ => e.vocabulary.resolveNotes t
  | .display shape _ => e.displayNotes shape
  | .scope t => e.scopeNotes t
  | _ => []

/-- The engine after a list of commands. -/
def run (e : Engine) (cs : List Command) : Engine := cs.foldl next e

@[simp] theorem run_nil (e : Engine) : e.run [] = e := rfl

@[simp] theorem run_cons (e : Engine) (c : Command) (cs : List Command) :
    e.run (c :: cs) = (e.next c).run cs := rfl

/-- A session is run part by part. -/
theorem run_append (e : Engine) (cs ds : List Command) : e.run (cs ++ ds) = (e.run cs).run ds :=
  List.foldl_append

end Engine

end SchemaMarkup
