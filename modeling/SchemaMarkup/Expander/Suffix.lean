import SchemaMarkup.Text.Blank
import SchemaMarkup.Text.Lower
import SchemaMarkup.Trace

set_option autoImplicit false

/-!
# Attribute suffixes

The suffixes of the directive attributes are kept in the order of their registration, in lower case
and without white space at their ends. Empty suffixes are not registered, and none is registered
twice.

## Main definitions

* `SchemaMarkup.Suffix.normal` — the form in which a suffix is kept.
* `SchemaMarkup.Suffix.add`, `SchemaMarkup.Suffix.remove` — register and unregister a suffix.

## Main results

* `SchemaMarkup.Suffix.mem_add_iff`, `SchemaMarkup.Suffix.nodup_add` — registering.
* `SchemaMarkup.Suffix.mem_remove_iff`, `SchemaMarkup.Suffix.nodup_remove` — unregistering.
-/

namespace SchemaMarkup.Suffix

/-- The form in which a suffix is kept; a missing suffix is empty. -/
def normal (s : Option String) : String := Text.lower (Text.strip (s.getD ""))

/-- Register a suffix at the end, unless it is empty or registered already. -/
def add (registered : List String) (s : Option String) : List String :=
  let n := normal s
  if n = "" || registered.contains n then registered else registered ++ [n]

/-- Unregister a suffix. -/
def remove (registered : List String) (s : Option String) : List String :=
  registered.erase (normal s)

/-- Register suffixes in order. -/
def addAll (registered : List String) (ss : List (Option String)) : List String :=
  ss.foldl add registered

/-- Unregister suffixes in order. -/
def removeAll (registered : List String) (ss : List (Option String)) : List String :=
  ss.foldl remove registered

/-- What registering suffixes reports: every empty one. -/
def addNotes (ss : List (Option String)) : List Note :=
  ss.flatMap fun s => if normal s = "" then [.step "Ignoring empty directive suffix"] else []

/-- What is registered after a suffix is. -/
theorem mem_add_iff {registered : List String} {s : Option String} {n : String} :
    n ∈ add registered s ↔ n ∈ registered ∨ (n = normal s ∧ n ≠ "") := by
  simp only [add]
  split
  · rename_i h
    simp only [Bool.or_eq_true, decide_eq_true_eq, List.contains_iff_mem] at h
    constructor
    · exact Or.inl
    · rintro (h' | ⟨rfl, hne⟩)
      · exact h'
      · exact h.resolve_left hne
  · rename_i h
    simp only [Bool.or_eq_true, decide_eq_true_eq, List.contains_iff_mem, not_or] at h
    simp only [List.mem_append, List.mem_singleton]
    constructor
    · rintro (h' | rfl)
      · exact .inl h'
      · exact .inr ⟨rfl, h.1⟩
    · rintro (h' | ⟨h', -⟩)
      · exact .inl h'
      · exact .inr h'

/-- Registering keeps the suffixes distinct. -/
theorem nodup_add {registered : List String} (s : Option String) (h : registered.Nodup) :
    (add registered s).Nodup := by
  simp only [add]
  split
  · exact h
  · rename_i hn
    simp only [Bool.or_eq_true, decide_eq_true_eq, List.contains_iff_mem, not_or] at hn
    rw [List.nodup_append]
    exact ⟨h, by simp, by rintro a ha b hb rfl; simp_all⟩

/-- What is registered after a suffix is unregistered. -/
theorem mem_remove_iff {registered : List String} (h : registered.Nodup) {s : Option String}
    {n : String} : n ∈ remove registered s ↔ n ∈ registered ∧ n ≠ normal s := by
  rw [remove, h.mem_erase_iff, and_comm]

/-- Unregistering keeps the suffixes distinct. -/
theorem nodup_remove {registered : List String} (s : Option String) (h : registered.Nodup) :
    (remove registered s).Nodup := h.erase _

end SchemaMarkup.Suffix
