import SchemaMarkup.Engine.Basic

set_option autoImplicit false

/-!
# Directives in the engine

What the engine writes for a directive. A type among the tokens becomes current first. The candidate
of the plan is then written as a property, followed by the item that is expected of it if one is
named. With no candidate, a directive that names a type writes the current item, and any other
directive writes nothing.

## Main definitions

* `SchemaMarkup.Engine.afterType` — the engine once the type of a plan is current.
* `SchemaMarkup.Engine.fragment` — the fragment of a directive, and the engine after it.
* `SchemaMarkup.Engine.fragmentObstacle?` — why a directive has no fragment.
* `SchemaMarkup.Engine.fragmentNotes` — what writing it reports.
-/

namespace SchemaMarkup.Engine

/-- What writing the attributes of an item reports. -/
def scopeNotes (e : Engine) (t : Option String) : List Note :=
  if e.enabled then e.vocabulary.resolveNotes (Text.given t) else []

/-- The engine once the type that a plan names is current. -/
def afterType (e : Engine) (plan : Plan) : Engine :=
  match Text.given plan.setType with
  | some t => e.setType (some t)
  | none => e

/-- The fragment of a candidate: the property, followed by the item that is expected of it. A
disabled engine writes neither. -/
def candidateFragment (e : Engine) (c : String × Option String) : String × Engine :=
  let (html, e') := (e.requestProperty (some c.1)).display .bare true
  match Text.given c.2 with
  | some t => (if html = "" then html else html ++ " " ++ e'.scope (some t), e')
  | none => (html, e')

/-- Why the candidate of a plan cannot be told for the current type. -/
def candidateObstacle? (e : Engine) (plan : Plan) : Option Vocabulary.Obstacle :=
  plan.candidateObstacle? e.vocabulary e.current

/-- The fragment of a plan, and the engine after it. A plan whose candidate cannot be told has no
fragment: what stands for it is never answered (`Engine.fragmentObstacle?`). -/
def planFragment (e : Engine) (plan : Plan) : String × Engine :=
  let e' := e.afterType plan
  match e'.candidateObstacle? plan, plan.candidate? e'.vocabulary e'.current with
  | some _, _ => ("", e')
  | none, some c => e'.candidateFragment c
  | none, none => (if (Text.given plan.setType).isSome then e'.scope none else "", e')

/-- The fragment of a directive, and the engine after it. -/
def fragment (e : Engine) (directive : String) : String × Engine :=
  e.planFragment (.ofDirective e.vocabulary directive)

/-- Why a directive has no fragment. -/
def fragmentObstacle? (e : Engine) (directive : String) : Option Vocabulary.Obstacle :=
  let plan := Plan.ofDirective e.vocabulary directive
  (e.afterType plan).candidateObstacle? plan

/-- What writing the fragment of a directive reports. -/
def fragmentNotes (e : Engine) (directive : String) : List Note :=
  let plan := Plan.ofDirective e.vocabulary directive
  let e' := e.afterType plan
  let candidate := plan.candidate? e'.vocabulary e'.current
  let candidateNotes := match e'.candidateObstacle? plan, candidate with
    | none, some c => if (Text.given c.2).isSome then e'.scopeNotes c.2 else []
    | _, _ => []
  Token.directiveNotes directive ++ [.step s!"Directive '{directive}'"] ++ candidateNotes

end SchemaMarkup.Engine
