import Mathlib.Tactic.Lemma
import SchemaMarkup.Vocabulary.Lookup

set_option autoImplicit false

/-!
# Names of a vocabulary

What is known of the names that a vocabulary gives out. Resolving gives a type of the vocabulary and
a property that a type has is declared somewhere in it, so that a character which no name holds is
in none of them. Questions about the properties of a type always have an answer when every parent is
written as a name.

## Main definitions

* `SchemaMarkup.Vocabulary.NamesAvoid` — no name of the vocabulary holds a certain character.
* `SchemaMarkup.Vocabulary.ParentsNamed` — every parent can be a type.

## Main results

* `SchemaMarkup.Vocabulary.not_mem_of_has`, `SchemaMarkup.Vocabulary.not_mem_of_hasProperty` — the
  names of types and of properties that types have.
* `SchemaMarkup.Vocabulary.parentsNamed_of_root` — the parent of the root decides.
* `SchemaMarkup.Vocabulary.propertyObstacle?_eq_none` — questions about properties have an answer.
-/

namespace SchemaMarkup.Vocabulary

variable {v : Vocabulary} {c : Char}

/-- Neither the name of a type nor the name of a declared property holds the character. -/
def NamesAvoid (v : Vocabulary) (c : Char) : Prop :=
  (∀ n, .text n ∈ v.keys → c ∉ n.toList) ∧
    ∀ e ∈ v.types, ∀ n, .text n ∈ Table.keys e.2.properties → c ∉ n.toList

/-- Every parent is a name or missing. -/
def ParentsNamed (v : Vocabulary) : Prop := ∀ e ∈ v.types, e.2.isAstray = false

instance (v : Vocabulary) : Decidable v.ParentsNamed :=
  inferInstanceAs (Decidable (∀ e ∈ v.types, e.2.isAstray = false))

/-- A definition that is found is one of the vocabulary. -/
lemma mem_types_of_definition? {k : Key} {d : TypeDef} (h : v.definition? k = some d) :
    (k, d) ∈ v.types := Table.mem_of_lookup h

/-- A declaration that counts for a type is made in the vocabulary. -/
lemma exists_mem_of_declaration? {t p : String} {d : Property}
    (h : v.declaration? t p = some d) : ∃ e ∈ v.types, (Key.text p, d) ∈ e.2.properties := by
  obtain ⟨k, -, hk⟩ := List.exists_of_findSome?_eq_some h
  obtain ⟨def', hdef, hlookup⟩ := Option.bind_eq_some_iff.1 hk
  exact ⟨(k, def'), mem_types_of_definition? hdef, Table.mem_of_lookup hlookup⟩

/-- A property that a type has is declared in the vocabulary. -/
lemma exists_declared_of_hasProperty {t p : String} (h : v.hasProperty t p = true) :
    ∃ e ∈ v.types, .text p ∈ Table.keys e.2.properties := by
  simp only [hasProperty, Bool.and_eq_true] at h
  obtain ⟨d, hd⟩ := Option.isSome_iff_exists.1 h.2
  obtain ⟨e, he, hmem⟩ := exists_mem_of_declaration? hd
  exact ⟨e, he, List.mem_map_of_mem hmem⟩

/-- The name of a type does not hold a character that names avoid. -/
theorem not_mem_of_has (h : v.NamesAvoid c) {t : String} (ht : v.has t = true) :
    c ∉ t.toList :=
  h.1 t ((v.has_iff_mem_keys t).1 ht)

/-- The name of a property that a type has does not hold a character that names avoid. -/
theorem not_mem_of_hasProperty (h : v.NamesAvoid c) {t p : String}
    (hp : v.hasProperty t p = true) : c ∉ p.toList := by
  obtain ⟨e, he, hdeclared⟩ := exists_declared_of_hasProperty hp
  exact h.2 e he p hdeclared

/-- A property that a type has is not empty. -/
lemma ne_empty_of_hasProperty {t p : String} (h : v.hasProperty t p = true) : p ≠ "" := by
  simp only [hasProperty, Bool.and_eq_true, bne_iff_ne] at h
  exact h.1.2

/-- The names of a vocabulary that has nothing but its root. -/
lemma namesAvoid_rootOnly {root : String} (h : c ∉ root.toList) :
    (rootOnly root).NamesAvoid c := by
  constructor
  · intro n hn
    obtain rfl : n = root := by simpa [rootOnly, keys, Table.keys] using hn
    exact h
  · intro e he n hn
    obtain rfl : e = (.text root, TypeDef.blank (.text root)) := by simpa [rootOnly] using he
    simp [TypeDef.blank, Table.keys] at hn

/-- A known name is resolved to itself. -/
lemma resolve_of_has {t : String} (h : v.has t = true) : v.resolve (some t) = t := by
  rw [resolve, if_pos h]

/-! ## Parents that are named -/

/-- All parents can be types if that of the root can: the others are types. -/
theorem parentsNamed_of_root (h : ∀ d, (Key.text v.root, d) ∈ v.types → d.isAstray = false) :
    v.ParentsNamed := by
  rintro ⟨k, d⟩ hd
  by_cases hroot : k = .text v.root
  · exact h d (hroot ▸ hd)
  · obtain ⟨p, -, hp⟩ := v.parent_mem _ hd hroot
    simp only [TypeDef.parentKey?] at hp
    rw [TypeDef.isAstray]
    split at hp
    · simp at hp
    · simp [hp]

/-- No way up ends at a parent that can be no type. -/
lemma isAstray_eq_false (h : v.ParentsNamed) (t : String) : v.isAstray t = false := by
  rw [isAstray, List.any_eq_false]
  intro k _
  cases hd : v.definition? k with
  | none => simp
  | some d => simpa using h (k, d) (mem_types_of_definition? hd)

/-- It can be said whether a type has a property. -/
theorem propertyObstacle?_eq_none (h : v.ParentsNamed) (t p : String) :
    v.propertyObstacle? t p = none := by
  simp [propertyObstacle?, isAstray_eq_false h t]

end SchemaMarkup.Vocabulary
