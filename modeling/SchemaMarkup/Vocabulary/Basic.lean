import SchemaMarkup.Trace
import SchemaMarkup.Value.Key

set_option autoImplicit false

/-!
# Vocabularies

A vocabulary is a set of named types. Each type names its parent and declares properties, and each
property lists the types that are expected of its values. One type is the root: unknown types count
as the root, and it alone needs no parent. Every other type has a parent among the types of the
vocabulary. Parents may run in a circle.

Names are usually texts. A vocabulary that is read from a document may also have numbers, days and
the like as names, so types and properties are known by their keys and keep the form in which their
names are written.

## Main definitions

* `SchemaMarkup.Property` — a property as a type declares it.
* `SchemaMarkup.TypeDef` — the definition of a type.
* `SchemaMarkup.Vocabulary` — a consistent set of types.
* `SchemaMarkup.Vocabulary.Fault` — the ways in which a set of types is inconsistent.
* `SchemaMarkup.Vocabulary.ofTypes` — the vocabulary of a set of types, or the first fault.

## Main results

* `SchemaMarkup.Vocabulary.ofTypes_isOk_iff` — which sets of types make a vocabulary.
-/

namespace SchemaMarkup

/-- A property as a type declares it: its name, and what is said about the types expected of its
values. -/
structure Property where
  name : Value
  expected : Value
  deriving Repr, Inhabited

namespace Property

/-- The declaration is not left blank, and what it says is no list of types. -/
def isUnlisted (p : Property) : Bool := !p.expected.isBlank && p.expected.items?.isNone

/-- The expected types in order of preference. A text counts as the list of its characters, a map as
the list of its keys. -/
def types (p : Property) : List Value :=
  if p.expected.isBlank then [] else p.expected.items?.getD []

/-- A list of types is what it says. -/
theorem types_list (name : Value) (vs : List Value) : types ⟨name, .list vs⟩ = vs := by
  cases vs <;> simp [types, Value.isBlank]

end Property

/-- The definition of a type: its name, its parent and the properties that it declares itself. -/
structure TypeDef where
  name : Value
  /-- The name of the parent, as written, or null. -/
  parent : Value
  properties : List (Key × Property)
  deriving Repr, Inhabited

namespace TypeDef

/-- A type with no parent and no properties. -/
def blank (name : Value) : TypeDef := ⟨name, .null, []⟩

/-- The key of the parent. -/
def parentKey? (d : TypeDef) : Option Key :=
  match d.parent with
  | .null => none
  | p => p.key?

/-- A parent is given that can be no type. -/
def isAstray (d : TypeDef) : Bool :=
  match d.parent with
  | .null => false
  | p => p.key?.isNone

end TypeDef

/-- A consistent set of types, in order of registration: each name once, the root among them, and
every other type with a parent among them. -/
structure Vocabulary where
  root : String
  types : List (Key × TypeDef)
  nodup_keys : (Table.keys types).Nodup
  root_mem : Key.text root ∈ Table.keys types
  parent_mem : ∀ e ∈ types, e.1 ≠ .text root → ∃ p ∈ Table.keys types, e.2.parentKey? = some p

namespace Vocabulary

/-- The root that a vocabulary has unless another is named. -/
def defaultRoot : String := "Thing"

/-- The ways in which a set of types is inconsistent. -/
inductive Fault where
  /-- The root is not among the types. -/
  | rootMissing (root : String)
  /-- A type other than the root has no parent. -/
  | parentMissing (name : String)
  /-- The parent of a type other than the root is not among the types. -/
  | parentUnknown (name parent : String)
  /-- The parent of a type other than the root can be no type. -/
  | parentAstray
  /-- A fault lies in a name that is too long to be written. -/
  | unwritable
  deriving DecidableEq, Repr

/-- A fault in words, for those that are told in words. -/
def Fault.message : Fault → String
  | rootMissing root => s!"Root type '{root}' missing from vocabulary"
  | parentMissing name => s!"Type '{name}' has no parent type"
  | parentUnknown name parent => s!"Type '{name}' extends unknown type '{parent}'"
  | parentAstray => ""
  | unwritable => Numeral.limitMessage ""

/-- The fault that a type has no parent. -/
def missing (d : TypeDef) : Fault :=
  if d.name.isUnwritable then .unwritable else .parentMissing d.name.label

/-- The fault that the parent of a type is unknown. -/
def unknown (d : TypeDef) : Fault :=
  if d.name.isUnwritable || d.parent.isUnwritable then .unwritable
  else .parentUnknown d.name.label d.parent.label

/-- The fault of one type among types with the given keys. -/
def parentFault? (root : String) (keys : List Key) (e : Key × TypeDef) : Option Fault :=
  if e.1 = .text root then none
  else if e.2.isAstray then some .parentAstray
  else
    match e.2.parentKey? with
    | none => some (missing e.2)
    | some p => if p ∈ keys then none else some (unknown e.2)

theorem parentFault?_eq_none {root : String} {keys : List Key} {e : Key × TypeDef}
    (h : parentFault? root keys e = none) (hr : e.1 ≠ .text root) :
    ∃ p ∈ keys, e.2.parentKey? = some p := by
  rw [parentFault?, if_neg hr] at h
  split at h
  · simp at h
  · split at h
    · simp at h
    · rename_i p hp
      split at h
      · exact ⟨p, by assumption, hp⟩
      · simp at h

/-- The vocabulary of a list of types; a type given twice keeps its place and takes the later
definition. The root is looked for first, then the parent of each type in order, and the first fault
is the answer. -/
def ofTypes (entries : List (Key × TypeDef)) (root : String) : Except Fault Vocabulary :=
  if hroot : .text root ∈ Table.keys (Table.ofList entries) then
    match h : (Table.ofList entries).findSome?
        (parentFault? root (Table.keys (Table.ofList entries))) with
    | some fault => .error fault
    | none =>
      .ok
        { root
          types := Table.ofList entries
          nodup_keys := Table.nodup_keys_ofList entries
          root_mem := hroot
          parent_mem := fun e he =>
            parentFault?_eq_none (List.findSome?_eq_none_iff.1 h e he) }
  else
    .error (.rootMissing root)

/-- A list of types makes a vocabulary exactly when the root is among them and no type has a
fault. -/
theorem ofTypes_isOk_iff (entries : List (Key × TypeDef)) (root : String) :
    (ofTypes entries root).isOk = true ↔ .text root ∈ Table.keys (Table.ofList entries) ∧
      ∀ e ∈ Table.ofList entries,
        parentFault? root (Table.keys (Table.ofList entries)) e = none := by
  rw [ofTypes]
  split
  · rename_i hroot
    split
    · rename_i fault h
      have hne : ¬∀ e ∈ Table.ofList entries,
          parentFault? root (Table.keys (Table.ofList entries)) e = none := by
        intro hall
        rw [List.findSome?_eq_none_iff.2 hall] at h
        simp at h
      simp only [hroot, true_and, iff_false_right hne]
      simp [Except.isOk, Except.toBool]
    · rename_i h
      simpa [Except.isOk, Except.toBool, hroot] using h
  · rename_i hroot
    simp [Except.isOk, Except.toBool, hroot]

/-- The vocabulary that has nothing but its root. -/
def rootOnly (root : String) : Vocabulary where
  root
  types := [(.text root, TypeDef.blank (.text root))]
  nodup_keys := by simp [Table.keys]
  root_mem := by simp [Table.keys]
  parent_mem := by simp

end Vocabulary

end SchemaMarkup
