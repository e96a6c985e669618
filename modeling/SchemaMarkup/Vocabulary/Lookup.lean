import SchemaMarkup.Vocabulary.Basic

set_option autoImplicit false

/-!
# Questions to a vocabulary

Which types there are, what a type descends from, which properties it has, and what a property
expects. A type has the properties that it or one of its ancestors declares; the nearest declaration
counts. The first expected type of a property decides how its values are rendered.

## Main definitions

* `SchemaMarkup.Vocabulary.has`, `SchemaMarkup.Vocabulary.resolve` — known types, and the root in
  place of unknown ones.
* `SchemaMarkup.Vocabulary.lineage` — a type and its ancestors, up to the first repetition.
* `SchemaMarkup.Vocabulary.declaration?` — the declaration of a property that counts for a type.
* `SchemaMarkup.Vocabulary.hasProperty`, `SchemaMarkup.Vocabulary.expectedTypes`,
  `SchemaMarkup.Vocabulary.kind`, `SchemaMarkup.Vocabulary.nestedType?` — what follows from it.
* `SchemaMarkup.Vocabulary.Obstacle` — why a question may have no answer.

## Main results

* `SchemaMarkup.Vocabulary.has_resolve` — resolving always gives a type of the vocabulary.
* `SchemaMarkup.Vocabulary.nodup_lineage` — a lineage has no repetition.
-/

namespace SchemaMarkup

/-- How the values of a property are rendered: as plain text, as a machine-readable value, or as an
item of their own. -/
inductive PropertyKind where
  | plain
  | machine
  | nested
  deriving DecidableEq, Repr

/-- The name of a kind. -/
def PropertyKind.label : PropertyKind → String
  | plain => "text"
  | machine => "meta"
  | nested => "nested"

namespace Vocabulary

/-- Why a question has no answer. Only vocabularies that are read from a document can be such. -/
inductive Obstacle where
  /-- The way up from a type ends at a parent that can be no type. -/
  | astray
  /-- What a declaration says is no list of types. -/
  | unlisted
  /-- The first type that a property expects can be no type. -/
  | oddType
  /-- There are names of different sorts, which have no common order. -/
  | unordered
  /-- A name is too long to be written. -/
  | unwritable
  deriving DecidableEq, Repr

/-- An obstacle in words, for the one that is told in words. -/
def Obstacle.message? : Obstacle → Option String
  | unwritable => some (Numeral.limitMessage "")
  | astray | unlisted | oddType | unordered => none

variable (v : Vocabulary)

/-- The keys of the types, in order of registration. -/
def keys : List Key := Table.keys v.types

/-- The definition of a type. -/
def definition? (k : Key) : Option TypeDef := v.types.lookup k

/-- The key is that of a type of the vocabulary. -/
def hasKey (k : Key) : Bool := (v.definition? k).isSome

/-- The name is a type of the vocabulary. -/
def has (name : String) : Bool := v.hasKey (.text name)

/-- The name itself if it is a type of the vocabulary, the root otherwise. -/
def resolve (name : Option String) : String :=
  match name with
  | some n => if v.has n then n else v.root
  | none => v.root

/-- What resolving a name reports: nothing unless an unknown name was given. -/
def resolveNotes (name : Option String) : List Note :=
  match name with
  | some n => if v.has n then [] else [.step s!"Unknown type '{n}', falling back to {v.root}"]
  | none => []

/-- The parent that a type declares, as written. -/
def parent (k : Key) : Value := ((v.definition? k).map (·.parent)).getD .null

/-- The key of the parent that a type declares. -/
def parentKey? (k : Key) : Option Key := (v.definition? k).bind (·.parentKey?)

/-- The types met on the way up from a type, at most `n` of them, up to the first that is unknown or
among those seen. -/
def climb : Nat → List Key → Option Key → List Key
  | 0, _, _ => []
  | _ + 1, _, none => []
  | n + 1, seen, some t =>
    if v.hasKey t && !seen.contains t then t :: climb n (t :: seen) (v.parentKey? t) else []

/-- A type followed by its ancestors. The way up ends at the first type that has no parent in the
vocabulary or has been met before, hence after at most as many types as there are. -/
def lineage (name : String) : List Key := v.climb v.types.length [] (some (.text name))

/-- The names of a type and its ancestors. An ancestor is named as it is where it is a parent. -/
def ancestry (name : String) : List Value :=
  match v.lineage name with
  | [] => []
  | k :: ks => .text name :: ((k :: ks).dropLast.map v.parent)

/-- The way up from a type ends at a parent that can be no type, so that nothing can be said about
the ancestors of the type. -/
def isAstray (name : String) : Bool :=
  (v.lineage name).any fun k => (v.definition? k).any (·.isAstray)

/-- The declaration of a property that counts for a type: the nearest in the lineage. -/
def declaration? (type property : String) : Option Property :=
  (v.lineage type).findSome? fun k =>
    (v.definition? k).bind fun d => d.properties.lookup (.text property)

/-- The type has the property, by its own declaration or an ancestor's. The empty name is no type
and no property here. -/
def hasProperty (type property : String) : Bool :=
  type != "" && property != "" && (v.declaration? type property).isSome

/-- Why it cannot be said whether a type has a property. -/
def propertyObstacle? (type property : String) : Option Obstacle :=
  if type != "" && property != "" && v.isAstray type then some .astray else none

/-- The types expected of a property's values, in order of preference. -/
def expectedTypes (type property : String) : List Value :=
  if property = "" then [] else ((v.declaration? type property).map (·.types)).getD []

/-- Why the expected types of a property cannot be said. -/
def expectedObstacle? (type property : String) : Option Obstacle :=
  if property = "" then none
  else if v.isAstray type then some .astray
  else if (v.declaration? type property).any (·.isUnlisted) then some .unlisted
  else none

/-- Properties whose values are machine-readable whatever they expect. -/
def machineProperties : List String := ["interactionCount"]

/-- The expected types whose values are machine-readable. -/
def machineTypes : List String := ["Date", "DateTime"]

/-- The expected types whose values are plain text. -/
def plainTypes : List String := ["Text", "URL", "Number", "Integer", "Float", "Boolean", "Time"]

/-- The kind that the first expected type decides: every type that is not primitive makes an item of
its own, and nothing expected makes plain text. -/
def kindOfExpected : List Value → PropertyKind
  | [] => .plain
  | .text t :: _ =>
    if t ∈ machineTypes then .machine else if t ∈ plainTypes then .plain else .nested
  | _ :: _ => .nested

/-- How the values of a property are rendered. -/
def kind (type property : String) : PropertyKind :=
  if property ∈ machineProperties then .machine else kindOfExpected (v.expectedTypes type property)

/-- A value that is neither a key nor a set can be no type. -/
def isOddType : Value → Bool
  | .set _ => false
  | t => t.key?.isNone

/-- Why the kind of a property cannot be said. -/
def kindObstacle? (type property : String) : Option Obstacle :=
  if property ∈ machineProperties then none
  else
    match v.expectedObstacle? type property with
    | some o => some o
    | none => if (v.expectedTypes type property).head?.any isOddType then some .oddType else none

/-- The type of the item that a nested property holds. -/
def nestedType? (type property : String) : Option Value :=
  match v.kind type property with
  | .nested => (v.expectedTypes type property).head?
  | _ => none

/-! ## Types of the vocabulary -/

theorem hasKey_iff_mem_keys (k : Key) : v.hasKey k = true ↔ k ∈ v.keys := by
  simp only [hasKey, definition?, keys, Table.keys]
  generalize v.types = ts
  induction ts with
  | nil => simp
  | cons e ts ih =>
    obtain ⟨k', d⟩ := e
    by_cases h : k = k'
    · subst h
      simp
    · have hb : (k == k') = false := by simpa using h
      simp only [List.lookup_cons, hb, ih, List.map_cons, List.mem_cons, h, false_or]

theorem has_iff_mem_keys (name : String) : v.has name = true ↔ Key.text name ∈ v.keys :=
  v.hasKey_iff_mem_keys _

/-- The root is a type of the vocabulary. -/
theorem has_root : v.has v.root = true := (v.has_iff_mem_keys v.root).2 v.root_mem

/-- Resolving always gives a type of the vocabulary. -/
theorem has_resolve (name : Option String) : v.has (v.resolve name) = true := by
  cases name with
  | none => exact v.has_root
  | some n =>
    rw [resolve]
    split
    · assumption
    · exact v.has_root

/-! ## Lineages -/

theorem not_mem_seen_of_mem_climb {n : Nat} {seen : List Key} {t : Option Key} {x : Key}
    (h : x ∈ v.climb n seen t) : x ∉ seen := by
  induction n generalizing seen t with
  | zero => simp [climb] at h
  | succ n ih =>
    cases t with
    | none => simp [climb] at h
    | some t =>
      rw [climb] at h
      split at h
      · rename_i ht
        rcases List.mem_cons.1 h with rfl | h
        · simpa using (Bool.and_eq_true_iff.1 ht).2
        · exact fun hx => ih h (List.mem_cons_of_mem _ hx)
      · simp at h

/-- Every type of a lineage is a type of the vocabulary. -/
theorem hasKey_of_mem_climb {n : Nat} {seen : List Key} {t : Option Key} {x : Key}
    (h : x ∈ v.climb n seen t) : v.hasKey x = true := by
  induction n generalizing seen t with
  | zero => simp [climb] at h
  | succ n ih =>
    cases t with
    | none => simp [climb] at h
    | some t =>
      rw [climb] at h
      split at h
      · rename_i ht
        rcases List.mem_cons.1 h with rfl | h
        · exact (Bool.and_eq_true_iff.1 ht).1
        · exact ih h
      · simp at h

theorem nodup_climb (n : Nat) (seen : List Key) (t : Option Key) : (v.climb n seen t).Nodup := by
  induction n generalizing seen t with
  | zero => simp [climb]
  | succ n ih =>
    cases t with
    | none => simp [climb]
    | some t =>
      rw [climb]
      split
      · rw [List.nodup_cons]
        exact ⟨fun h => v.not_mem_seen_of_mem_climb h List.mem_cons_self, ih _ _⟩
      · simp

/-- A lineage has no repetition. -/
theorem nodup_lineage (name : String) : (v.lineage name).Nodup := v.nodup_climb _ _ _

end Vocabulary

end SchemaMarkup
