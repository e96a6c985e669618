import SchemaMarkup.Text.CaseRanges
import SchemaMarkup.Text.Letter

set_option autoImplicit false

/-!
# Lower case

The full lower-casing of a text. Nearly every character has a form of its own; two need more. The
capital I with a dot above becomes two characters, and the form of a capital sigma depends on its
neighbours: at the end of a word it is the final sigma.

## Main definitions

* `SchemaMarkup.Text.lowerChar` — the lower-case form of a character that stands alone.
* `SchemaMarkup.Text.isFinal` — whether a capital sigma between two texts ends a word.
* `SchemaMarkup.Text.lower` — the lower-case form of a text.

-/

namespace SchemaMarkup.Text

/-- The lower-case form of the code point within a run, if it belongs to the run. -/
def CaseRun.lower? (r : CaseRun) (n : Nat) : Option Nat :=
  if r.first ≤ n && n ≤ r.last && (n - r.first) % r.stride == 0 then
    some (n + r.offset).toNat
  else
    none

/-- The lower-case form of a character, its neighbours left aside. The capital I with a dot above
keeps its dot as a combining character. -/
def lowerChar (c : Char) : List Char :=
  if c.toNat < 0x80 then
    [if 'A' ≤ c ∧ c ≤ 'Z' then Char.ofNat (c.toNat + 32) else c]
  else if c.toNat = 0x130 then
    [Char.ofNat 0x69, Char.ofNat 0x307]
  else
    [((caseRuns.findSome? (·.lower? c.toNat)).map Char.ofNat).getD c]

/-- The character is passed over in the look for a cased neighbour. -/
def isCaseIgnorable (c : Char) : Bool := inRanges caseIgnorableRanges c.toNat

/-- The character has case. -/
def isCased (c : Char) : Bool := inRanges casedRanges c.toNat

/-- The first character that is not passed over has case. -/
def meetsCased (s : List Char) : Bool :=
  ((s.dropWhile isCaseIgnorable).head?.map isCased).getD false

/-- A sigma ends a word when a cased character stands before it and none after it. What stands
before is given backwards, from the sigma on. -/
def isFinal (before after : List Char) : Bool := meetsCased before && !meetsCased after

/-- The lower-case form of a character between two texts, the first given backwards. -/
def lowerBetween (before : List Char) (c : Char) (after : List Char) : List Char :=
  if c.toNat = 0x3A3 then
    [Char.ofNat (if isFinal before after then 0x3C2 else 0x3C3)]
  else
    lowerChar c

/-- The lower-case form of the text that follows `before`, which is given backwards. -/
def lowerFrom (before : List Char) : List Char → List Char
  | [] => []
  | c :: cs => lowerBetween before c cs ++ lowerFrom (c :: before) cs

/-- The lower-case form of a text. -/
def lowerChars (s : List Char) : List Char := lowerFrom [] s

/-- The lower-case form of a text. -/
def lower (s : String) : String := String.ofList (lowerChars s.toList)

/-- Lower-casing never empties a text and never fills an empty one. -/
theorem lowerChars_eq_nil_iff (s : List Char) : lowerChars s = [] ↔ s = [] := by
  cases s with
  | nil => simp [lowerChars, lowerFrom]
  | cons c cs =>
    simp only [lowerChars, lowerFrom, List.append_eq_nil_iff, reduceCtorEq, iff_false, not_and]
    intro h
    simp only [lowerBetween, lowerChar] at h
    split at h
    · simp at h
    · split at h
      · simp at h
      · split at h <;> simp at h

end SchemaMarkup.Text
