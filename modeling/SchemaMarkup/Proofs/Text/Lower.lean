import Mathlib.Tactic.Lemma
import SchemaMarkup.Text.Lower

set_option autoImplicit false

/-!
# The length of lower-case forms

Lower-casing keeps the number of characters, but for the capital I with a dot above, which becomes
two. A lower-case form without the combining dot is as long as the text.

## Main definitions

* `SchemaMarkup.Text.combiningDot` — the dot that becomes a character of its own.

## Main results

* `SchemaMarkup.Text.length_lowerChars` — the length of a lower-case form without the dot.
-/

namespace SchemaMarkup.Text

/-- The dot above, as a character of its own. -/
def combiningDot : Char := Char.ofNat 0x307

/-- The lower-case form of a character is one character, or holds the dot. -/
lemma length_lowerBetween_or (before : List Char) (c : Char) (after : List Char) :
    (lowerBetween before c after).length = 1 ∨ combiningDot ∈ lowerBetween before c after := by
  rw [lowerBetween]
  split
  · exact .inl rfl
  · rw [lowerChar]
    split
    · exact .inl rfl
    · split
      · exact .inr (List.mem_cons_of_mem _ List.mem_cons_self)
      · exact .inl rfl

/-- **A lower-case form without the dot is as long as the text.** -/
theorem length_lowerChars {s : List Char} (h : combiningDot ∉ lowerChars s) :
    (lowerChars s).length = s.length := by
  have hfrom : ∀ before, combiningDot ∉ lowerFrom before s →
      (lowerFrom before s).length = s.length := by
    intro before hnot
    clear h
    induction s generalizing before with
    | nil => rfl
    | cons c s ih =>
      rw [lowerFrom, List.mem_append, not_or] at hnot
      have hone := (length_lowerBetween_or before c s).resolve_right hnot.1
      rw [lowerFrom, List.length_append, hone, ih _ hnot.2, List.length_cons, Nat.add_comm]
  exact hfrom [] h

end SchemaMarkup.Text
