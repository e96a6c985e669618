import SchemaMarkup.Directive.Token

set_option autoImplicit false

/-!
# Directive plans

A plan is the joint meaning of the tokens of a directive: the type to make current, and the
properties to try, some for a certain type only. The first property in the plan that the current
type has is its candidate.

## Main definitions

* `SchemaMarkup.Plan` — a plan.
* `SchemaMarkup.Plan.ofTokens` — the plan of a list of tokens.
* `SchemaMarkup.Plan.candidate?` — the property to render for the current type.

## Main results

* `SchemaMarkup.Plan.hasProperty_of_candidate?` — a candidate is a property of the current type.
-/

namespace SchemaMarkup

/-- Properties to try in order, each with the type expected of its values if one is given. -/
abbrev Candidates := List (String × Option String)

/-- The joint meaning of the tokens of a directive: the type to make current, the properties to try
when a certain type is current, and the properties to try after those. -/
structure Plan where
  setType : Option String
  specialized : List (String × Candidates)
  shared : Candidates
  deriving Repr

namespace Plan

/-- The plan of no tokens. -/
def blank : Plan := ⟨none, [], []⟩

/-- Take one token into a plan. A type alone becomes the type to make current, the last one winning.
A property is tried in the order in which it first came, and its last expected type counts. -/
def add (p : Plan) (t : Token) : Plan :=
  match Text.given t.type, Text.given t.property with
  | some ty, none => { p with setType := some ty }
  | some ty, some pr =>
    let before := (p.specialized.lookup ty).getD []
    { p with specialized := Table.put ty (Table.put pr t.expected before) p.specialized }
  | none, some pr => { p with shared := Table.put pr t.expected p.shared }
  | none, none => p

/-- The plan of a list of tokens. -/
def ofTokens (tokens : List Token) : Plan := tokens.foldl add blank

/-- The plan of a directive. -/
def ofDirective (v : Vocabulary) (directive : String) : Plan :=
  ofTokens (Token.ofDirective v directive)

/-- The properties to try for the current type: those for this type come before those for any. -/
def candidatesFor (current : String) (p : Plan) : Candidates :=
  ((p.specialized.lookup current).getD []) ++ p.shared

/-- The first property to try that the current type has. -/
def candidate? (v : Vocabulary) (current : String) (p : Plan) : Option (String × Option String) :=
  (p.candidatesFor current).find? fun c => v.hasProperty current c.1

/-- Why the candidate cannot be told. -/
def candidateObstacle? (v : Vocabulary) (current : String) (p : Plan) :
    Option Vocabulary.Obstacle :=
  (p.candidatesFor current).findSome? fun c => v.propertyObstacle? current c.1

/-- A candidate is a property of the current type. -/
theorem hasProperty_of_candidate? {v : Vocabulary} {current : String} {p : Plan}
    {c : String × Option String} (h : p.candidate? v current = some c) :
    v.hasProperty current c.1 = true := by
  simpa using List.find?_some h

end Plan

end SchemaMarkup
