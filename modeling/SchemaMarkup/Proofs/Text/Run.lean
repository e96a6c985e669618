import Mathlib.Data.List.TakeWhile

set_option autoImplicit false

/-!
# Maximal runs

A run of characters of a class is maximal in a text if what follows it is empty or begins with a
character outside the class. Every text begins with exactly one maximal run of a class, and it is
the one that `List.takeWhile` takes.

## Main definitions

* `SchemaMarkup.Text.IsRun` — a maximal run and what follows it.

## Main results

* `SchemaMarkup.Text.IsRun.takeWhile_append`, `SchemaMarkup.Text.IsRun.dropWhile_append` — a
  maximal run is what is taken.
* `SchemaMarkup.Text.isRun_takeWhile` — what is taken is a maximal run.
-/

namespace SchemaMarkup.Text

variable {p : Char → Bool} {w s t : List Char}

/-- The text `w` is a run of characters of the class `p`, and the text `s` does not begin with
another one. -/
def IsRun (p : Char → Bool) (w s : List Char) : Prop :=
  (∀ c ∈ w, p c = true) ∧ ∀ c, s.head? = some c → p c = false

/-- What is taken from a text is a maximal run in it. -/
theorem isRun_takeWhile (p : Char → Bool) (s : List Char) :
    IsRun p (s.takeWhile p) (s.dropWhile p) := by
  refine ⟨fun c hc => List.mem_takeWhile_imp hc, fun c hc => ?_⟩
  have h := List.head?_dropWhile_not p s
  rw [hc] at h
  simpa using h

/-- A class is left out at the beginning of a text that begins outside the class. -/
lemma dropWhile_of_head? (h : ∀ c, s.head? = some c → p c = false) : s.dropWhile p = s := by
  cases s with
  | nil => rfl
  | cons c s =>
    have hc : ¬p c = true := by simp [h c rfl]
    exact List.dropWhile_cons_of_neg hc

/-- A maximal run is what is taken. -/
theorem IsRun.takeWhile_append (h : IsRun p w s) : (w ++ s).takeWhile p = w := by
  have hs : s.takeWhile p = [] := by
    cases s with
    | nil => rfl
    | cons c s =>
      have hc : ¬p c = true := by simp [h.2 c rfl]
      exact List.takeWhile_cons_of_neg hc
  rw [List.takeWhile_append_of_pos h.1, hs, List.append_nil]

/-- What follows a maximal run is what is left. -/
theorem IsRun.dropWhile_append (h : IsRun p w s) : (w ++ s).dropWhile p = s := by
  rw [List.dropWhile_append_of_pos h.1, dropWhile_of_head? h.2]

/-- Whether a run is maximal depends on the first character that follows. -/
lemma IsRun.congr (h : IsRun p w s) (hst : s.head? = t.head?) : IsRun p w t :=
  ⟨h.1, fun c hc => h.2 c (hst.trans hc)⟩

/-- The first character outside a class stands in the first of two texts that has one. -/
lemma head?_dropWhile_append (p : Char → Bool) (w s : List Char) :
    ((w ++ s).dropWhile p).head? = (w.dropWhile p).head?.or (s.dropWhile p).head? := by
  simp only [← List.find?_not_eq_head?_dropWhile, List.find?_append]

/-- A run is maximal before a character outside the class. -/
lemma isRun_cons {c : Char} (hw : ∀ d ∈ w, p d = true) (hc : p c = false) :
    IsRun p w (c :: s) := by
  refine ⟨hw, fun d hd => ?_⟩
  obtain rfl : c = d := by simpa using hd
  exact hc

/-- Behind one beginning, the first character depends on the first one that follows. -/
lemma head?_append_congr (w : List Char) (h : s.head? = t.head?) :
    (w ++ s).head? = (w ++ t).head? := by
  rw [List.head?_append, List.head?_append, h]

end SchemaMarkup.Text
