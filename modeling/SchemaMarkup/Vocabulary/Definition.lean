import SchemaMarkup.Text.Utf8
import SchemaMarkup.Document.Fault
import SchemaMarkup.Vocabulary.Lookup

set_option autoImplicit false

/-!
# Vocabularies from document values

A vocabulary file maps type names to definitions. A definition has an entry for the parent and one
for the properties, which maps property names to expected types. Whatever stands for nothing may be
left out or left blank.

## Main definitions

* `SchemaMarkup.TypeDef.Fault` — the ways in which a value is no definition.
* `SchemaMarkup.TypeDef.ofValue` — the definition that a value describes.
* `SchemaMarkup.Vocabulary.LoadFault` — the ways in which definitions make no vocabulary.
* `SchemaMarkup.Vocabulary.ofDefinitions` — the vocabulary of named definitions.

## Main results

* `SchemaMarkup.TypeDef.ofValue_of_isBlank` — a blank value is the definition without entries.
-/

namespace SchemaMarkup

namespace TypeDef

/-- The ways in which a value is no definition of a type. -/
inductive Fault where
  /-- The value has no entries. -/
  | notRecord
  /-- The properties are no table. -/
  | notTable
  /-- The properties are a list, and the item at the index is no pair. -/
  | notPair (index length : Nat)
  deriving DecidableEq, Repr

/-- A fault in words; only the last kind has any. -/
def Fault.message : Fault → String
  | notRecord => ""
  | notTable => ""
  | notPair index length =>
    s!"dictionary update sequence element #{index} has length {length}; 2 is required"

/-- The entries that a list of pairs describes, from the pair with the given index on. -/
def entriesOfPairs (index : Nat) : List Value → Except Fault (List (Value × Value))
  | [] => .ok []
  | v :: vs =>
    match v.items? with
    | some [k, x] =>
      if k.key?.isNone then .error .notTable
      else (entriesOfPairs (index + 1) vs).map ((k, x) :: ·)
    | some items => .error (.notPair index items.length)
    | none => .error .notTable

/-- The entries that a value describes: those of a map, or those that a list of pairs makes. -/
def entriesOf (v : Value) : Except Fault (List (Value × Value)) :=
  if v.isBlank then .ok []
  else
    match v with
    | .map es => .ok es
    | v =>
      match v.items? with
      | some items => entriesOfPairs 0 items
      | none => .error .notTable

/-- The properties that a value describes. -/
def propertiesOf (v : Value) : Except Fault (List (Key × Property)) := do
  let es ← entriesOf v
  match Value.entries? es with
  | some es => return es.map fun e => (e.1, ⟨e.2.1, e.2.2⟩)
  | none => throw .notTable

/-- The definition of the type with the given name that a value describes. A value that stands for
nothing is a definition without entries. -/
def ofValue (name v : Value) : Except Fault TypeDef :=
  if v.isBlank then .ok (.blank name)
  else
    match v with
    | .map es => do
      let properties ← propertiesOf ((Value.entry? "properties" es).getD .null)
      return ⟨name, (Value.entry? "extends" es).getD .null, properties⟩
    | _ => .error .notRecord

/-- A blank value is the definition without entries. -/
theorem ofValue_of_isBlank {name v : Value} (h : v.isBlank = true) :
    ofValue name v = .ok (.blank name) := by
  unfold ofValue
  exact if_pos h

end TypeDef

namespace Vocabulary

/-- The ways in which there is no vocabulary. -/
inductive LoadFault where
  /-- There is no file at the path. -/
  | fileMissing (path : String)
  /-- The file is no text. -/
  | notText (f : Text.Utf8.Fault)
  /-- The file is no document. -/
  | unreadable (name : String) (f : Document.Fault)
  /-- The document is no mapping. -/
  | notMapping (name : String)
  /-- A definition has a fault. -/
  | definition (f : TypeDef.Fault)
  /-- The types do not fit together. -/
  | inconsistent (f : Fault)
  deriving DecidableEq, Repr

/-- A fault in words. -/
def LoadFault.message : LoadFault → String
  | fileMissing path => s!"Vocabulary file not found: {path}"
  | notText f => f.account
  | unreadable name f => f.message?.getD s!"Failed to parse {name}"
  | notMapping name => s!"{name} must map type names to definitions"
  | definition f => f.message
  | inconsistent f => f.message

/-- The fault lies in the file as a whole or in how its types fit together, so that its author is
told. Any other fault is one of a single value. -/
def LoadFault.isTold : LoadFault → Bool
  | fileMissing _ | notMapping _ | unreadable _ .malformed => true
  | inconsistent (.rootMissing _) | inconsistent (.parentMissing _) => true
  | inconsistent (.parentUnknown _ _) => true
  | _ => false

/-- The vocabulary of named definitions. Each definition is read in order, a name given twice
keeping its place and taking the later one, and then the types are checked. -/
def ofDefinitions (definitions : List (Value × Value)) (root : String) :
    Except LoadFault Vocabulary := do
  let some entries := Value.entries? definitions | throw (.definition .notTable)
  let types ← entries.mapM fun e =>
    ((TypeDef.ofValue e.2.1 e.2.2).map fun d => (e.1, d)).mapError .definition
  (ofTypes types root).mapError .inconsistent

end Vocabulary

end SchemaMarkup
