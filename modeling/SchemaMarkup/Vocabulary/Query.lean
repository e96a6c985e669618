import SchemaMarkup.Vocabulary.Lookup

set_option autoImplicit false

/-!
# Queries

What can be asked of a vocabulary, as data, and the answers. A missing name is no type and no
property.

## Main definitions

* `SchemaMarkup.Vocabulary.Query` — what can be asked.
* `SchemaMarkup.Vocabulary.Reply` — what is answered.
* `SchemaMarkup.Vocabulary.obstacle?` — why there is no answer.
* `SchemaMarkup.Vocabulary.reply` — the answer to a query.

## Main results

* `SchemaMarkup.Vocabulary.kindOf_some` — the kind that is answered is the kind of the property.
-/

namespace SchemaMarkup

namespace Key

/-- The first key does not stand behind the second one, if the two have an order: texts are ordered
by their characters, numbers by size, days and moments by time. -/
def precedes? : Key → Key → Option Bool
  | text s, text t => some (s ≤ t)
  | number n k, number n' k' => some (numberPrecedes n k n' k')
  | number _ _, infinite negative => some !negative
  | infinite negative, number _ _ => some negative
  | infinite negative, infinite negative' => some (negative || !negative')
  | nan, number _ _ | nan, infinite _ | number _ _, nan | infinite _, nan | nan, nan => some true
  | date d, date d' => some (d.daysBefore ≤ d'.daysBefore)
  | moment z i, moment z' i' => if z = z' then some (i ≤ i') else none
  | bytes bs, bytes bs' => some (bs ≤ bs')
  | _, _ => none

/-- Texts always have an order. -/
theorem precedes?_text (s t : String) : precedes? (text s) (text t) = some (decide (s ≤ t)) := rfl

end Key

namespace Vocabulary

/-- What can be asked of a vocabulary. -/
inductive Query where
  | root
  | names
  | has (type : Option String)
  | resolve (type : Option String)
  | parent (type : Option String)
  | lineage (type : Option String)
  | hasProperty (type property : Option String)
  | expectedTypes (type property : Option String)
  | kind (type property : Option String)
  | nestedType (type property : Option String)
  | describe
  /-- The whole vocabulary. -/
  | listing
  deriving Repr

/-- The answer to a query. -/
inductive Reply where
  | text (t : String)
  | flag (b : Bool)
  | name (t : Value)
  | names (ns : List Value)
  /-- The types, each with its properties in order. -/
  | listing (ts : List (TypeDef × List Property))

/-- Entries in the order of their keys. -/
def sortByKey {ν : Type} (entries : List (Key × ν)) : List (Key × ν) :=
  entries.mergeSort fun a b => (Key.precedes? a.1 b.1).getD true

/-- The entries have an order: each key can be compared with the first. -/
def isOrdered {ν : Type} : List (Key × ν) → Bool
  | [] => true
  | e :: es => es.all fun e' => (Key.precedes? e.1 e'.1).isSome

/-- The types in the order of their names, their properties likewise. -/
def listed (v : Vocabulary) : List (TypeDef × List Property) :=
  (sortByKey v.types).map fun t => (t.2, (sortByKey t.2.properties).map Prod.snd)

/-- The description of a vocabulary. -/
def describe (v : Vocabulary) : String :=
  let count := v.types.length
  let root := v.root
  s!"VocabularyRegistry(types={count}, root='{root}')"

/-- The expected types of a property, none for a missing type or property. -/
def expectedOf (v : Vocabulary) (type property : Option String) : List Value :=
  (type.bind fun t => property.map fun p => v.expectedTypes t p).getD []

/-- The kind of a property. -/
def kindOf (v : Vocabulary) (type property : Option String) : PropertyKind :=
  if property.any (· ∈ machineProperties) then .machine
  else kindOfExpected (v.expectedOf type property)

/-- Why a query has no answer. -/
def obstacle? (v : Vocabulary) : Query → Option Obstacle
  | .names => if isOrdered v.types then none else some .unordered
  | .lineage t => t.bind fun t => if v.isAstray t then some .astray else none
  | .hasProperty t p => t.bind fun t => p.bind fun p => v.propertyObstacle? t p
  | .expectedTypes t p => t.bind fun t => p.bind fun p => v.expectedObstacle? t p
  | .kind t p | .nestedType t p => t.bind fun t => p.bind fun p => v.kindObstacle? t p
  | .listing =>
    if isOrdered v.types && v.types.all fun t => isOrdered t.2.properties then none
    else some .unordered
  | .root | .has _ | .resolve _ | .parent _ | .describe => none

/-- The answer to a query that has one. -/
def answer (v : Vocabulary) : Query → Reply
  | .root => .text v.root
  | .names => .names ((sortByKey v.types).map fun t => t.2.name)
  | .has t => .flag (t.any v.has)
  | .resolve t => .text (v.resolve t)
  | .parent t => .name ((t.map fun t => v.parent (.text t)).getD .null)
  | .lineage t => .names ((t.map v.ancestry).getD [])
  | .hasProperty t p => .flag (t.any fun t => p.any fun p => v.hasProperty t p)
  | .expectedTypes t p => .names (v.expectedOf t p)
  | .kind t p => .text (v.kindOf t p).label
  | .nestedType t p => .name ((t.bind fun t => p.bind fun p => v.nestedType? t p).getD .null)
  | .describe => .text v.describe
  | .listing => .listing v.listed

/-- The answer to a query, or why it has none. -/
def reply (v : Vocabulary) (q : Query) : Except Obstacle Reply :=
  match v.obstacle? q with
  | some o => .error o
  | none => .ok (v.answer q)

/-- What a query reports. -/
def queryNotes (v : Vocabulary) : Query → List Note
  | .resolve t => v.resolveNotes t
  | _ => []

/-- The kind that is answered is the kind of the property. -/
theorem kindOf_some (v : Vocabulary) (type property : String) :
    v.kindOf (some type) (some property) = v.kind type property := by
  simp [kindOf, kind, expectedOf]

end Vocabulary

end SchemaMarkup
