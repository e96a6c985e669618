import SchemaMarkup.Engine.Command
import SchemaMarkup.Proofs.Vocabulary.Expected

set_option autoImplicit false

/-!
# Sessions with an engine

What an engine keeps in the course of a session. A command changes the current type only if it sets
one, and the flag only if it sets that. The current type and the fallback type are types of the
vocabulary, and the fallback property is one that the fallback type has. If the vocabulary lists
nothing but names of types, every command has an answer.

## Main definitions

* `SchemaMarkup.Engine.Consistent` — the types and the fallback property belong together.
* `SchemaMarkup.Engine.ItemOf` — the item that is the value of a nested property.

## Main results

* `SchemaMarkup.Engine.exists_next_eq` — what a command changes.
* `SchemaMarkup.Engine.Consistent.run` — an engine stays consistent.
* `SchemaMarkup.Engine.exists_itemOf` — how the item of a nested property is chosen.
* `SchemaMarkup.Engine.obstacle?_eq_none` — nothing is in the way of a command.
-/

namespace SchemaMarkup

namespace Engine

variable {e : Engine} {c : Command} {p t : String}

/-! ## What a command keeps -/

/-- **What a command changes**: setting a type changes the current type, turning markup on or off
changes the flag, and nothing else changes but the request. -/
theorem exists_next_eq (e : Engine) (c : Command) :
    ∃ q, e.next c =
      { e with
        current := match c with
          | .setType t => e.vocabulary.resolve t
          | _ => e.current
        enabled := match c with
          | .enable flag => flag
          | _ => e.enabled
        request := q } := by
  cases c with
  | requestProperty p =>
    simp only [next]
    split
    · exact ⟨e.request, rfl⟩
    · exact ⟨_, rfl⟩
  | setFallback t p =>
    simp only [next]
    split
    · exact ⟨_, rfl⟩
    · exact ⟨_, rfl⟩
  | _ => exact ⟨_, rfl⟩

@[simp] lemma next_renderer (e : Engine) (c : Command) : (e.next c).renderer = e.renderer := by
  obtain ⟨q, hq⟩ := e.exists_next_eq c
  rw [hq]

@[simp] lemma next_vocabulary (e : Engine) (c : Command) :
    (e.next c).vocabulary = e.vocabulary := by
  obtain ⟨q, hq⟩ := e.exists_next_eq c
  rw [hq]

/-- Only setting a type changes the current type. -/
lemma next_current (e : Engine) (c : Command) :
    (e.next c).current =
      match c with
      | .setType t => e.vocabulary.resolve t
      | _ => e.current := by
  obtain ⟨q, hq⟩ := e.exists_next_eq c
  rw [hq]

/-- Only turning markup on or off changes whether it is written. -/
lemma next_enabled (e : Engine) (c : Command) :
    (e.next c).enabled =
      match c with
      | .enable flag => flag
      | _ => e.enabled := by
  obtain ⟨q, hq⟩ := e.exists_next_eq c
  rw [hq]

@[simp] lemma run_renderer (e : Engine) (cs : List Command) :
    (e.run cs).renderer = e.renderer := by
  induction cs generalizing e with
  | nil => rfl
  | cons c cs ih => rw [run_cons, ih, next_renderer]

@[simp] lemma run_vocabulary (e : Engine) (cs : List Command) :
    (e.run cs).vocabulary = e.vocabulary := by
  induction cs generalizing e with
  | nil => rfl
  | cons c cs ih => rw [run_cons, ih, next_vocabulary]

/-! ## Consistency -/

/-- The types that an engine holds are types of its vocabulary, and a fallback property comes with a
fallback type that has it. -/
structure Consistent (e : Engine) : Prop where
  current : e.vocabulary.has e.current = true
  fallbackType : ∀ t ∈ e.request.fallbackType, e.vocabulary.has t = true
  fallbackProperty : ∀ q ∈ e.request.fallbackProperty,
    ∃ t ∈ e.request.fallbackType, e.vocabulary.hasProperty t q = true

/-- A new engine is consistent. -/
lemma consistent_new (r : Renderer) (v : Vocabulary) (flag : Bool) :
    (new r v flag).Consistent :=
  ⟨v.has_root, by simp [new, Request.blank], by simp [new, Request.blank]⟩

/-- An engine that keeps its current type and its fallback stays consistent. -/
lemma Consistent.of_eq {e' : Engine} (h : e.Consistent) (hv : e'.vocabulary = e.vocabulary)
    (hcurrent : e'.current = e.current)
    (htype : e'.request.fallbackType = e.request.fallbackType)
    (hproperty : e'.request.fallbackProperty = e.request.fallbackProperty) :
    e'.Consistent := by
  refine ⟨?_, ?_, ?_⟩
  · rw [hv, hcurrent]
    exact h.current
  · rw [hv, htype]
    exact h.fallbackType
  · rw [hv, htype, hproperty]
    exact h.fallbackProperty

/-- A fallback is consistent however it is set. -/
lemma Consistent.setFallback (h : e.Consistent) (t p : Option String) :
    (e.setFallback t p).Consistent := by
  refine ⟨h.current, ?_, ?_⟩
  · intro t' ht'
    obtain rfl : e.vocabulary.resolve t = t' := by simpa [Engine.setFallback] using ht'
    exact e.vocabulary.has_resolve t
  · intro q hq
    obtain ⟨-, hvalid⟩ := Option.filter_eq_some_iff.1 hq
    exact ⟨e.vocabulary.resolve t, rfl, hvalid⟩

/-- A command keeps an engine consistent. -/
lemma Consistent.next (h : e.Consistent) (hparents : e.vocabulary.ParentsNamed) (c : Command) :
    (e.next c).Consistent := by
  cases c with
  | setType t => exact ⟨e.vocabulary.has_resolve t, h.fallbackType, h.fallbackProperty⟩
  | requestProperty p =>
    simp only [Engine.next]
    split
    · exact h
    · exact h.of_eq rfl rfl rfl rfl
  | setContent content machine => exact h.of_eq rfl rfl rfl rfl
  | setFallback t p =>
    -- the fallback type alone is set only where the property cannot be judged
    have hjudged : e.obstacle? (.setFallback t p) = none := by
      cases p <;> simp [obstacle?, Vocabulary.propertyObstacle?_eq_none hparents]
    simp only [Engine.next, hjudged]
    exact h.setFallback t p
  | enable flag => exact h.of_eq rfl rfl rfl rfl
  | display shape emptyOutput => exact ⟨h.current, by simp [Engine.next, Request.blank],
      by simp [Engine.next, Request.blank]⟩
  | _ => exact h

/-- **An engine stays consistent** in every session. -/
theorem Consistent.run (h : e.Consistent) (hparents : e.vocabulary.ParentsNamed)
    (cs : List Command) : (e.run cs).Consistent := by
  induction cs generalizing e with
  | nil => exact h
  | cons c cs ih =>
    rw [run_cons]
    exact ih (h.next hparents c) (by rwa [next_vocabulary])

/-! ## Nested items -/

/-- The item that is the value of a nested property: an item of the pending fallback type, with the
pending fallback property, if the property expects that type; otherwise an item of the first type
that it expects, with no property. -/
inductive ItemOf (e : Engine) (p : String) : String → Option String → Prop where
  | fallback {t : String} (ht : t ∈ e.request.fallbackType)
      (hexpected : .text t ∈ e.vocabulary.expectedTypes e.current p) :
      ItemOf e p t e.request.fallbackProperty
  | first {t : String} {rest : List Value}
      (hfallback : ∀ t' ∈ e.request.fallbackType,
        .text t' ∉ e.vocabulary.expectedTypes e.current p)
      (hexpected : e.vocabulary.expectedTypes e.current p = .text t :: rest) :
      ItemOf e p t none

/-- The item of a nested property has one of the types that the property expects. -/
lemma ItemOf.mem_expectedTypes {inner : Option String} (h : e.ItemOf p t inner) :
    .text t ∈ e.vocabulary.expectedTypes e.current p := by
  cases h with
  | fallback ht hexpected => exact hexpected
  | first hfallback hexpected => rw [hexpected]; exact List.mem_cons_self

/-- The item of a nested property is chosen in this way. -/
theorem exists_itemOf (hexpects : e.vocabulary.ExpectsNames)
    (hne : e.vocabulary.expectedTypes e.current p ≠ []) :
    ∃ t inner, e.ItemOf p t inner ∧ e.nestedItem p = (.text t, inner) := by
  simp only [nestedItem]
  split
  · rename_i hany
    obtain ⟨x, hx, hkey⟩ := List.any_eq_true.1 hany
    obtain ⟨name, rfl⟩ := Vocabulary.exists_name_of_mem_expectedTypes hexpects hx
    cases ht : e.request.fallbackType with
    | none =>
      -- null is no name
      simp [fallbackValue, ht, Value.key?] at hkey
    | some t =>
      obtain rfl : name = t := by simpa [fallbackValue, ht, Value.key?] using hkey
      exact ⟨name, _, .fallback ht hx, by simp [fallbackValue, ht]⟩
  · rename_i hany
    obtain ⟨x, xs, hcons⟩ := List.exists_cons_of_ne_nil hne
    obtain ⟨name, rfl⟩ := Vocabulary.exists_name_of_mem_expectedTypes hexpects
      (hcons ▸ List.mem_cons_self)
    refine ⟨name, none, .first (fun t' ht' hx => hany ?_) hcons, by rw [hcons]; rfl⟩
    exact List.any_eq_true.2 ⟨.text t', hx, by simp [fallbackValue, Option.mem_def.1 ht']⟩

/-! ## Nothing is in the way -/

/-- Nothing is in the way of a display. -/
lemma displayObstacle?_eq_none (hparents : e.vocabulary.ParentsNamed)
    (hexpects : e.vocabulary.ExpectsNames) (shape : Shape) : e.displayObstacle? shape = none := by
  have hkind := Vocabulary.kindObstacle?_eq_none hparents hexpects
  have hitem : ∀ p, e.itemObstacle? p = none := by
    intro p
    rw [itemObstacle?]
    split
    · rename_i hnested
      obtain ⟨t, inner, -, hitem⟩ :=
        exists_itemOf hexpects (Vocabulary.expectedTypes_ne_nil_of_nested hnested)
      rw [hitem]
      rfl
    · rfl
  have hproperty : ∀ p, e.propertyDisplayObstacle? shape p = none := by
    intro p
    cases shape <;> simp [propertyDisplayObstacle?, hkind, hitem]
  have hfallback : ∀ t, e.fallbackDisplayObstacle? shape t = none := by
    intro t
    unfold fallbackDisplayObstacle?
    split
    · exact hkind _ _
    · rfl
  unfold displayObstacle?
  split
  · exact hproperty _
  · exact hfallback _
  · rfl

/-- **Nothing is in the way of a command** if the parents of all types are named and all properties
list names. -/
theorem obstacle?_eq_none (hparents : e.vocabulary.ParentsNamed)
    (hexpects : e.vocabulary.ExpectsNames) (c : Command) : e.obstacle? c = none := by
  have hproperty := Vocabulary.propertyObstacle?_eq_none hparents
  cases c with
  | requestProperty p => cases p <;> simp [obstacle?, hproperty]
  | setFallback t p => cases p <;> simp [obstacle?, hproperty]
  | display shape emptyOutput => exact displayObstacle?_eq_none hparents hexpects shape
  | _ => rfl

end Engine

end SchemaMarkup
