set_option autoImplicit false

/-!
# Tables in order of insertion

A table is a list of keys with their values, each key once, in the order in which the keys were
first written. Writing a key again keeps its place and replaces its value. Reading is
`List.lookup`.

## Main definitions

* `SchemaMarkup.Table.put` — write one key.
* `SchemaMarkup.Table.ofList` — write the entries of a list in order.

## Main results

* `SchemaMarkup.Table.keys_put` — writing a key adds it at the end unless it is there already.
* `SchemaMarkup.Table.lookup_put` — reading after writing.
* `SchemaMarkup.Table.nodup_keys_ofList` — a table has no key twice.
-/

namespace SchemaMarkup.Table

variable {κ ν : Type} [BEq κ]

/-- Write the value `v` at the key `k`, in the key's place if it has one, at the end otherwise. -/
def put (k : κ) (v : ν) : List (κ × ν) → List (κ × ν)
  | [] => [(k, v)]
  | (k', v') :: t => if k == k' then (k', v) :: t else (k', v') :: put k v t

/-- The keys in order. -/
def keys (t : List (κ × ν)) : List κ := t.map Prod.fst

/-- The table that results from writing the entries of a list in order. -/
def ofList (entries : List (κ × ν)) : List (κ × ν) := entries.foldl (fun t e => put e.1 e.2 t) []

variable [LawfulBEq κ]

/-- Writing a key keeps the keys, and adds the key at the end if it was missing. -/
theorem keys_put [DecidableEq κ] (k : κ) (v : ν) (t : List (κ × ν)) :
    keys (put k v t) = if k ∈ keys t then keys t else keys t ++ [k] := by
  induction t with
  | nil => simp [put, keys]
  | cons e t ih =>
    obtain ⟨k', v'⟩ := e
    by_cases h : k = k'
    · subst h
      simp [put, keys]
    · have hb : (k == k') = false := by simpa using h
      simp only [keys] at ih
      simp only [put, hb, Bool.false_eq_true, if_false, keys, List.map_cons, ih, List.mem_cons, h,
        false_or]
      by_cases hk : k ∈ List.map Prod.fst t <;> simp [hk]

/-- Reading after writing: the key written has the new value, the others keep theirs. -/
theorem lookup_put (k k' : κ) (v : ν) (t : List (κ × ν)) :
    (put k v t).lookup k' = if k' == k then some v else t.lookup k' := by
  induction t with
  | nil =>
    rw [put, List.lookup_cons]
    split <;> simp_all
  | cons e t ih =>
    obtain ⟨k₀, v₀⟩ := e
    rw [put]
    split
    · rename_i h
      obtain rfl := eq_of_beq h
      simp only [List.lookup_cons]
      split <;> simp_all
    · rename_i h
      simp only [List.lookup_cons, ih]
      split
      · rename_i h'
        obtain rfl := eq_of_beq h'
        have : (k' == k) = false := by
          simp only [beq_eq_false_iff_ne, ne_eq]
          rintro rfl
          simp at h
        simp [this]
      · rfl

/-- What is read is an entry of the table. -/
theorem mem_of_lookup {k : κ} {v : ν} {t : List (κ × ν)} (h : t.lookup k = some v) :
    (k, v) ∈ t := by
  obtain ⟨before, after, rfl, -⟩ := List.lookup_eq_some_iff.1 h
  exact List.mem_append_right before List.mem_cons_self

theorem nodup_keys_put (k : κ) (v : ν) {t : List (κ × ν)} (h : (keys t).Nodup) :
    (keys (put k v t)).Nodup := by
  classical
  rw [keys_put]
  split
  · exact h
  · rename_i hk
    rw [List.nodup_append]
    exact ⟨h, by simp, by rintro a ha b hb rfl; simp_all⟩

/-- A table written entry by entry has no key twice. -/
theorem nodup_keys_ofList (entries : List (κ × ν)) : (keys (ofList entries)).Nodup := by
  suffices ∀ t : List (κ × ν), (keys t).Nodup →
      (keys (entries.foldl (fun t e => put e.1 e.2 t) t)).Nodup from this [] (by simp [keys])
  induction entries with
  | nil => exact fun t h => h
  | cons e entries ih => exact fun t h => ih _ (nodup_keys_put e.1 e.2 h)

end SchemaMarkup.Table
