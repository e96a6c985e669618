import Mathlib.Data.List.Induction
import SchemaMarkup.Table

set_option autoImplicit false

/-!
# Searching tables

The first key of a table with some property, in terms of the entries that were written: it is the
one that was written first, and its value is the one that was written last.

## Main results

* `SchemaMarkup.Table.find?_put` — searching after writing one key.
* `SchemaMarkup.Table.find?_ofList` — searching after writing the entries of a list.
-/

namespace SchemaMarkup.Table

variable {κ ν : Type} [BEq κ]

lemma ofList_concat (entries : List (κ × ν)) (k : κ) (v : ν) :
    ofList (entries ++ [(k, v)]) = put k v (ofList entries) := by
  simp [ofList]

variable [LawfulBEq κ]

/-- Writing a key gives its new value to the key that is found, and is found itself if no key was
found before. -/
theorem find?_put (p : κ → Bool) (k : κ) (v : ν) (t : List (κ × ν)) :
    (put k v t).find? (fun e => p e.1) =
      match t.find? (fun e => p e.1) with
      | some e => some (e.1, if e.1 == k then v else e.2)
      | none => if p k then some (k, v) else none := by
  induction t with
  | nil =>
    rw [put, List.find?_cons]
    cases p k <;> rfl
  | cons e t ih =>
    obtain ⟨k', v'⟩ := e
    rw [put]
    by_cases hk : (k == k') = true
    · obtain rfl := eq_of_beq hk
      rw [if_pos hk, List.find?_cons, List.find?_cons]
      cases hp : p k with
      | true => simp
      | false =>
        -- a key that is found further on has the property, so it is not the one written
        simp only
        cases ht : t.find? (fun e => p e.1) with
        | none => simp
        | some e =>
          have hne : (e.1 == k) = false := by
            rw [beq_eq_false_iff_ne]
            rintro rfl
            have hpe := List.find?_some ht
            simp [hp] at hpe
          simp [hne]
    · rw [if_neg hk, List.find?_cons, List.find?_cons, ih]
      cases hp : p k' with
      | true =>
        have hne : (k' == k) = false := by
          rw [beq_eq_false_iff_ne]
          rintro rfl
          simp at hk
        simp [hne]
      | false => rfl

/-- **The first key written decides the place and the last one the value.** -/
theorem find?_ofList (p : κ → Bool) (entries : List (κ × ν)) :
    (ofList entries).find? (fun e => p e.1) =
      (entries.find? fun e => p e.1).map fun e =>
        (e.1, (entries.reverse.lookup e.1).getD e.2) := by
  induction entries using List.reverseRecOn with
  | nil => rfl
  | append_singleton entries e ih =>
    obtain ⟨k, v⟩ := e
    rw [ofList_concat, find?_put, ih, List.find?_append, List.reverse_append]
    cases hfind : entries.find? fun e => p e.1 with
    | some e =>
      simp only [Option.map_some, Option.some_or, List.reverse_cons, List.reverse_nil,
        List.nil_append, List.singleton_append, List.lookup_cons]
      cases e.1 == k <;> rfl
    | none =>
      simp only [Option.map_none, Option.none_or, List.find?_cons, List.find?_nil]
      cases p k <;> simp

end SchemaMarkup.Table
