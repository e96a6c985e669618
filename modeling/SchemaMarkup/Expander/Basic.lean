import SchemaMarkup.Engine.Command
import SchemaMarkup.Expander.Suffix
import SchemaMarkup.Markup.Piece
import SchemaMarkup.Settings.Basic

set_option autoImplicit false

/-!
# The expander

The expander replaces the directive attributes of a document by the fragments that its engine writes
for them, from left to right, and copies everything else. The type that a directive makes current
stays current for the directives after it, also in the documents that follow.

## Main definitions

* `SchemaMarkup.Engine.expand` — replace the directives among pieces.
* `SchemaMarkup.Engine.reach` — the pieces up to the first directive that has no fragment.
* `SchemaMarkup.Expander` — an engine with the suffixes of the attributes that it looks for.
* `SchemaMarkup.Expander.new`, `SchemaMarkup.Expander.setSemantic` — choose the flavour.
* `SchemaMarkup.Expander.expand` — expand a document.

## Main results

* `SchemaMarkup.Engine.expand_append` — pieces are expanded part by part.
-/

namespace SchemaMarkup

namespace Engine

/-- The pieces with each directive replaced by its fragment, and the engine after them. -/
def expand (e : Engine) : List Piece → List Char × Engine
  | [] => ([], e)
  | .copied s :: ps =>
    let r := e.expand ps
    (s ++ r.1, r.2)
  | .directive _ d :: ps =>
    let f := e.fragment d
    let r := f.2.expand ps
    (f.1.toList ++ r.1, r.2)

/-- The pieces up to the first directive that has no fragment, with that directive, and why it has
none. -/
def reach (e : Engine) : List Piece → List Piece × Option Vocabulary.Obstacle
  | [] => ([], none)
  | .copied s :: ps =>
    let r := e.reach ps
    (.copied s :: r.1, r.2)
  | .directive a d :: ps =>
    match e.fragmentObstacle? d with
    | some o => ([.directive a d], some o)
    | none =>
      let r := (e.fragment d).2.reach ps
      (.directive a d :: r.1, r.2)

/-- What writing the fragments of directives in order reports. -/
def directivesNotes (e : Engine) : List String → List Note
  | [] => []
  | d :: ds => e.fragmentNotes d ++ (e.fragment d).2.directivesNotes ds

/-- Pieces are expanded part by part. -/
theorem expand_append (e : Engine) (ps qs : List Piece) :
    e.expand (ps ++ qs) =
      ((e.expand ps).1 ++ ((e.expand ps).2.expand qs).1, ((e.expand ps).2.expand qs).2) := by
  induction ps generalizing e with
  | nil => rfl
  | cons p ps ih => cases p <;> simp [expand, ih]

end Engine

/-- An engine with the suffixes of the attributes that hold directives. -/
structure Expander where
  settings : Settings
  /-- The vocabulary of the engine of every flavour. -/
  vocabulary : Vocabulary
  /-- Whether the engine of a new flavour writes markup. -/
  enabled : Bool
  /-- The suffixes in order of registration. -/
  suffixes : List String
  engine : Engine

namespace Expander

/-- The engine for the flavour of the given name. -/
def engineFor (settings : Settings) (v : Vocabulary) (enabled : Bool) (semantic : Option String) :
    Except UnknownFlavour Engine :=
  (Flavour.ofName semantic).map fun f => Engine.new (.make f none settings.schemaUrl) v enabled

/-- An expander. What is not given is taken from the settings. The suffix of the settings is
registered before those given. -/
def new (settings : Settings) (v : Vocabulary) (semantic : Option String)
    (suffixes : List (Option String)) (enabled : Option Bool) : Except UnknownFlavour Expander :=
  let flag := enabled.getD settings.enabled
  (engineFor settings v flag ((Text.given semantic).getD settings.semantic)).map fun engine =>
    { settings, vocabulary := v, enabled := flag, engine
      suffixes := Suffix.addAll [] (some settings.defaultSuffix :: suffixes) }

variable (r : Expander)

/-- The flavour is chosen anew: a new engine begins with the root as its current type. -/
def setSemantic (semantic : Option String) : Except UnknownFlavour Expander :=
  (engineFor r.settings r.vocabulary r.enabled semantic).map fun engine =>
    { r with engine }

/-- Turn markup on or off. -/
def enable (flag : Bool) : Expander := { r with enabled := flag, engine := r.engine.enable flag }

/-- Register suffixes. -/
def addSuffixes (ss : List (Option String)) : Expander :=
  { r with suffixes := Suffix.addAll r.suffixes ss }

/-- Unregister suffixes. -/
def removeSuffixes (ss : List (Option String)) : Expander :=
  { r with suffixes := Suffix.removeAll r.suffixes ss }

/-- The names of the attributes that hold directives. -/
def attributeNames : List String := r.suffixes.map r.settings.attributeName

/-- The pieces of a document for this expander. -/
def pieces (html : String) : List Piece := Piece.ofText r.attributeNames html.toList

/-- The pieces of a document up to the first directive that has no fragment. -/
def reachedPieces (html : String) : List Piece := (r.engine.reach (r.pieces html)).1

/-- Why a document cannot be expanded. -/
def expandObstacle? (html : String) : Option Vocabulary.Obstacle :=
  (r.engine.reach (r.pieces html)).2

/-- The document with each directive replaced by its fragment, and the expander after it. -/
def expand (html : String) : String × Expander :=
  let (out, engine) := r.engine.expand (r.reachedPieces html)
  (String.ofList out, { r with engine })

/-- The fragment of one directive, and the expander after it. -/
def fragment (directive : String) : String × Expander :=
  let (out, engine) := r.engine.fragment directive
  (out, { r with engine })

/-! ## Reports -/

/-- What choosing a flavour reports. -/
def semanticNotes : List Note :=
  let flavour := r.engine.renderer.flavour.name
  [.detail s!"Semantic set to {flavour}"]

/-- What making the expander reports. -/
def newNotes (suffixes : List (Option String)) : List Note :=
  r.semanticNotes ++ Suffix.addNotes (some r.settings.defaultSuffix :: suffixes)

/-- What expanding a document reports. -/
def expandNotes (html : String) : List Note :=
  let directives := Piece.directives (r.reachedPieces html)
  let count := directives.length
  r.engine.directivesNotes directives ++
    if (r.expandObstacle? html).isSome then []
    else [.detail s!"Rewrote {count} directive attribute(s)"]

end Expander

end SchemaMarkup
