import SchemaMarkup.Proofs.Vocabulary.Names

set_option autoImplicit false

/-!
# Types that properties expect

A property is expected to list the names of types, or to say nothing. Where every property of a
vocabulary does, the questions about expected types have an answer, and the answer is a name.

## Main definitions

* `SchemaMarkup.Property.listsNames` — a declaration lists names, or says nothing.
* `SchemaMarkup.Vocabulary.ExpectsNames` — all declarations do.
* `SchemaMarkup.Vocabulary.NamesGiven` — no type has the empty name.
* `SchemaMarkup.Vocabulary.HasKind` — a property is known to be of a kind.

## Main results

* `SchemaMarkup.Vocabulary.exists_name_of_mem_expectedTypes` — what is expected is a name.
* `SchemaMarkup.Vocabulary.expectedTypes_ne_nil_of_nested` — a nested property expects something.
* `SchemaMarkup.Vocabulary.kindObstacle?_eq_none` — questions about kinds have an answer.
-/

namespace SchemaMarkup

/-- The value is a text. -/
def Value.isName : Value → Bool
  | text _ => true
  | _ => false

lemma Value.exists_of_isName {x : Value} (h : x.isName = true) : ∃ name, x = text name := by
  cases x with
  | text name => exact ⟨name, rfl⟩
  | _ => simp [isName] at h

/-- What is said about the types expected of a property is a list of names, or null. -/
def Property.listsNames (p : Property) : Bool :=
  match p.expected with
  | .null => true
  | .list vs => vs.all Value.isName
  | _ => false

namespace Property

variable {p : Property}

/-- A list of names, or null, is a list of types. -/
lemma isUnlisted_eq_false (h : p.listsNames = true) : p.isUnlisted = false := by
  obtain ⟨name, expected⟩ := p
  cases expected <;> simp_all [listsNames, isUnlisted, Value.isBlank]

/-- What is listed is a name. -/
lemma exists_name_of_mem_types (h : p.listsNames = true) {x : Value} (hx : x ∈ p.types) :
    ∃ name, x = .text name := by
  obtain ⟨name, expected⟩ := p
  cases expected with
  | null => simp [types, Value.isBlank] at hx
  | list vs =>
    rw [types_list] at hx
    exact Value.exists_of_isName (List.all_eq_true.1 h x hx)
  | _ => simp [listsNames] at h

end Property

namespace Vocabulary

variable {v : Vocabulary} {t p : String}

/-- Every property lists the names of the types that it expects, or says nothing of them. -/
def ExpectsNames (v : Vocabulary) : Prop :=
  ∀ e ∈ v.types, ∀ p ∈ e.2.properties, p.2.listsNames = true

instance (v : Vocabulary) : Decidable v.ExpectsNames :=
  inferInstanceAs (Decidable (∀ e ∈ v.types, ∀ p ∈ e.2.properties, p.2.listsNames = true))

/-- Neither a type nor a type that is expected of a property has the empty name. -/
def NamesGiven (v : Vocabulary) : Prop :=
  ∀ e ∈ v.types, e.1 ≠ .text "" ∧ ∀ p ∈ e.2.properties, ∀ x ∈ p.2.types, x.isBlank = false

instance (v : Vocabulary) : Decidable v.NamesGiven :=
  inferInstanceAs (Decidable (∀ e ∈ v.types, e.1 ≠ .text "" ∧
    ∀ p ∈ e.2.properties, ∀ x ∈ p.2.types, x.isBlank = false))

/-- It can be said how the values of the property are rendered, and it is in this way. -/
def HasKind (v : Vocabulary) (t p : String) (k : PropertyKind) : Prop :=
  v.kindObstacle? t p = none ∧ v.kind t p = k

instance (v : Vocabulary) (t p : String) (k : PropertyKind) : Decidable (v.HasKind t p k) :=
  inferInstanceAs (Decidable (v.kindObstacle? t p = none ∧ v.kind t p = k))

/-- The declaration that counts for a type lists names. -/
lemma ExpectsNames.declaration? (h : v.ExpectsNames) {d : Property}
    (hd : v.declaration? t p = some d) : d.listsNames = true := by
  obtain ⟨e, he, hmem⟩ := exists_mem_of_declaration? hd
  exact h e he _ hmem

/-- What is expected of a property is a name. -/
theorem exists_name_of_mem_expectedTypes (h : v.ExpectsNames) {x : Value}
    (hx : x ∈ v.expectedTypes t p) : ∃ name, x = .text name := by
  rw [expectedTypes] at hx
  split at hx
  · simp at hx
  · cases hd : v.declaration? t p with
    | none => simp [hd] at hx
    | some d =>
      rw [hd] at hx
      exact Property.exists_name_of_mem_types (h.declaration? hd) hx

/-- What is expected of a property has a name. -/
lemma NamesGiven.ne_empty_of_mem_expectedTypes (h : v.NamesGiven) {name : String}
    (hx : .text name ∈ v.expectedTypes t p) : name ≠ "" := by
  rintro rfl
  rw [expectedTypes] at hx
  split at hx
  · simp at hx
  · cases hd : v.declaration? t p with
    | none => simp [hd] at hx
    | some d =>
      rw [hd] at hx
      obtain ⟨e, he, hmem⟩ := exists_mem_of_declaration? hd
      exact absurd ((h e he).2 _ hmem _ hx) (by simp [Value.isBlank])

/-- A type of the vocabulary has a name. -/
lemma NamesGiven.ne_empty_of_has (h : v.NamesGiven) (ht : v.has t = true) : t ≠ "" := by
  rintro rfl
  obtain ⟨e, he, hkey⟩ := List.mem_map.1 ((v.has_iff_mem_keys "").1 ht)
  exact (h e he).1 hkey

/-- A nested property expects something. -/
theorem expectedTypes_ne_nil_of_nested (h : v.kind t p = .nested) : v.expectedTypes t p ≠ [] := by
  intro hnil
  rw [kind, hnil] at h
  split at h <;> simp [kindOfExpected] at h

/-- It can be said what a property expects. -/
lemma expectedObstacle?_eq_none (hparents : v.ParentsNamed) (hexpects : v.ExpectsNames)
    (t p : String) : v.expectedObstacle? t p = none := by
  rw [expectedObstacle?, isAstray_eq_false hparents]
  cases hd : v.declaration? t p with
  | none => simp
  | some d => simp [Property.isUnlisted_eq_false (hexpects.declaration? hd)]

/-- It can be said how the values of a property are rendered. -/
theorem kindObstacle?_eq_none (hparents : v.ParentsNamed) (hexpects : v.ExpectsNames)
    (t p : String) : v.kindObstacle? t p = none := by
  have hodd : (v.expectedTypes t p).head?.any isOddType = false := by
    cases hhead : (v.expectedTypes t p).head? with
    | none => rfl
    | some x =>
      obtain ⟨name, rfl⟩ := exists_name_of_mem_expectedTypes hexpects (List.mem_of_head? hhead)
      simp [isOddType]
  rw [kindObstacle?, expectedObstacle?_eq_none hparents hexpects]
  simp [hodd]

end Vocabulary

end SchemaMarkup
