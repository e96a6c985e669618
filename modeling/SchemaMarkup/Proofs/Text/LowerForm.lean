import Mathlib.Tactic.Lemma
import SchemaMarkup.Text.Blank
import SchemaMarkup.Text.Lower

set_option autoImplicit false

/-!
# Texts in lower case

A lower-case form is made of characters that are their own lower-case forms, so that lower-casing it
again changes nothing. The only character whose form depends on others is the capital sigma, and it
looks no further than to the next character that is neither passed over nor has case: texts on the
two sides of such a character are lower-cased each by itself.

## Main definitions

* `SchemaMarkup.Text.IsLower` — a character is its own lower-case form.
* `SchemaMarkup.Text.CaseRun.avoids` — the lower-case forms of a run lie outside another run.
* `SchemaMarkup.Text.Separates` — a sigma looks no further than to the character.

## Main results

* `SchemaMarkup.Text.isLower_of_mem_lowerChars` — what lower-case forms are made of.
* `SchemaMarkup.Text.lowerChars_eq_self_iff` — which texts are their own lower-case forms.
* `SchemaMarkup.Text.lowerChars_append_cons` — lower-casing on both sides of a separator.
-/

namespace SchemaMarkup.Text

variable {r r' : CaseRun} {m n : Nat} {c d : Char} {s t before after : List Char}

/-! ## Forms outside the tables -/

namespace CaseRun

/-- The lower-case form of the first code point of a run. -/
def lowFirst (r : CaseRun) : Nat := (r.first + r.offset).toNat

/-- The lower-case form of the last code point of a run. -/
def lowLast (r : CaseRun) : Nat := (r.last + r.offset).toNat

/-- The code points of a run are all even or all odd. -/
def isAlternate (r : CaseRun) : Bool := r.stride == 2 || r.first == r.last

/-- No lower-case form of the first run belongs to the second one: it lies before it, behind it or in
its gaps. -/
def avoids (r r' : CaseRun) : Bool :=
  r.lowLast.blt r'.first || (r'.last.blt r.lowFirst ||
    (r.isAlternate && r'.stride == 2 && Nat.blt 0 r.lowFirst &&
      (r.lowFirst + r'.first) % 2 == 1))

lemma lower?_eq_some_iff :
    r.lower? n = some m ↔ r.first ≤ n ∧ n ≤ r.last ∧ (n - r.first) % r.stride = 0 ∧
      (n + r.offset).toNat = m := by
  rw [lower?]
  split
  · rename_i h
    simp only [Bool.and_eq_true, decide_eq_true_eq, beq_iff_eq] at h
    simp [h]
  · rename_i h
    simp only [Bool.and_eq_true, decide_eq_true_eq, beq_iff_eq, not_and] at h
    simp only [reduceCtorEq, false_iff, not_and]
    exact fun h₁ h₂ h₃ => absurd h₃ (h ⟨h₁, h₂⟩)

lemma lower?_eq_none_of_avoids (h : r.avoids r' = true) (hm : r.lower? n = some m) :
    r'.lower? m = none := by
  obtain ⟨hfirst, hlast, hstride, rfl⟩ := lower?_eq_some_iff.1 hm
  rw [← Option.not_isSome_iff_eq_none, Option.isSome_iff_exists]
  rintro ⟨k, hk⟩
  obtain ⟨hfirst', hlast', hstride', -⟩ := lower?_eq_some_iff.1 hk
  simp only [avoids, Bool.or_eq_true, Bool.and_eq_true, Nat.blt_eq, beq_iff_eq, isAlternate,
    lowFirst, lowLast] at h
  rcases h with h | h | ⟨⟨⟨halternate, hgap⟩, hpositive⟩, hodd⟩
  · omega
  · omega
  · rw [hgap] at hstride'
    have heven : (n - r.first) % 2 = 0 := by
      rcases halternate with hr | hr
      · rwa [hr] at hstride
      · omega
    omega

end CaseRun

/-- The character with two characters in its lower-case form, as a run. -/
def dottedRun : CaseRun := ⟨0x130, 0x130, 1, 0⟩

/-- **No lower-case form is in the tables again.** -/
lemma avoids_of_mem_caseRuns (hr : r ∈ caseRuns) (hr' : r' ∈ dottedRun :: caseRuns) :
    r.avoids r' = true := by
  have hall : caseRuns.all (fun r => (dottedRun :: caseRuns).all r.avoids) = true := by
    decide +kernel
  exact List.all_eq_true.1 (List.all_eq_true.1 hall r hr) r' hr'

/-! ## Characters in lower case -/

/-- The character is its own lower-case form, whatever stands around it. -/
def IsLower (c : Char) : Prop := c.toNat ≠ 0x3A3 ∧ lowerChar c = [c]

instance (c : Char) : Decidable (IsLower c) :=
  inferInstanceAs (Decidable (c.toNat ≠ 0x3A3 ∧ lowerChar c = [c]))

/-- A character outside the tables is its own lower-case form. -/
lemma isLower_of_not_mem (h : ∀ r ∈ dottedRun :: caseRuns, r.lower? c.toNat = none) :
    IsLower c := by
  have hdotted : c.toNat ≠ 0x130 := by
    intro hc
    have hnone := h dottedRun List.mem_cons_self
    rw [hc] at hnone
    exact absurd hnone (by decide)
  have hrun : ∀ n, (∃ r ∈ caseRuns, (r.lower? n).isSome = true) → c.toNat ≠ n := by
    rintro n ⟨r, hr, hsome⟩ rfl
    rw [h r (List.mem_cons_of_mem _ hr)] at hsome
    simp at hsome
  have hsigma : c.toNat ≠ 0x3A3 := hrun _ (by decide +kernel)
  have hcapital : ¬('A' ≤ c ∧ c ≤ 'Z') := by
    rintro ⟨hA, hZ⟩
    refine hrun c.toNat ⟨⟨0x41, 0x5A, 1, 32⟩, by rw [caseRuns]; exact List.mem_cons_self, ?_⟩ rfl
    have hA' : 0x41 ≤ c.toNat := hA
    have hZ' : c.toNat ≤ 0x5A := hZ
    simp [CaseRun.lower?, hA', hZ', Nat.mod_one]
  have hnone : caseRuns.findSome? (·.lower? c.toNat) = none :=
    List.findSome?_eq_none_iff.2 fun r hr => h r (List.mem_cons_of_mem _ hr)
  refine ⟨hsigma, ?_⟩
  rw [lowerChar, if_neg hcapital, if_neg hdotted, hnone]
  split <;> rfl

/-- What has no code point in the tables, when it is made a character. -/
lemma isLower_ofNat (h : ∀ r ∈ dottedRun :: caseRuns, r.lower? m = none) :
    IsLower (Char.ofNat m) := by
  by_cases hvalid : m.isValidChar
  · have hm : (Char.ofNat m).toNat = m := by
      rw [Char.ofNat, dif_pos hvalid]
      rfl
    exact isLower_of_not_mem (by rwa [hm])
  · rw [Char.ofNat, dif_neg hvalid]
    decide +kernel

/-- The lower-case form of a character is in lower case. -/
lemma isLower_of_mem_lowerChar (hc : c.toNat ≠ 0x3A3) (hd : d ∈ lowerChar c) : IsLower d := by
  rw [lowerChar] at hd
  split at hd
  · rename_i hascii
    obtain rfl := List.mem_singleton.1 hd
    split
    · rename_i hcapital
      have hall : ∀ n ≤ 0x5A, 0x41 ≤ n → IsLower (Char.ofNat (n + 32)) := by decide +kernel
      exact hall c.toNat hcapital.2 hcapital.1
    · rename_i hcapital
      exact ⟨hc, by rw [lowerChar, if_pos hascii, if_neg hcapital]⟩
  · split at hd
    · simp only [List.mem_cons, List.not_mem_nil, or_false] at hd
      rcases hd with rfl | rfl <;> decide +kernel
    · rename_i hdotted
      obtain rfl := List.mem_singleton.1 hd
      cases hfind : caseRuns.findSome? (·.lower? c.toNat) with
      | some m =>
        obtain ⟨r, hr, hm⟩ := List.exists_of_findSome?_eq_some hfind
        exact isLower_ofNat fun r' hr' =>
          CaseRun.lower?_eq_none_of_avoids (avoids_of_mem_caseRuns hr hr') hm
      | none =>
        rw [List.findSome?_eq_none_iff] at hfind
        refine isLower_of_not_mem fun r hr => ?_
        rcases List.mem_cons.1 hr with rfl | hr
        · rw [← Option.not_isSome_iff_eq_none, Option.isSome_iff_exists]
          rintro ⟨m, hm⟩
          obtain ⟨hfirst, hlast, -⟩ := CaseRun.lower?_eq_some_iff.1 hm
          exact hdotted (Nat.le_antisymm hlast hfirst)
        · exact hfind r hr

lemma isLower_of_mem_lowerBetween (hd : d ∈ lowerBetween before c after) : IsLower d := by
  rw [lowerBetween] at hd
  split at hd
  · obtain rfl := List.mem_singleton.1 hd
    split <;> decide +kernel
  · rename_i hc
    exact isLower_of_mem_lowerChar hc hd

/-- **A lower-case form is made of characters in lower case.** -/
theorem isLower_of_mem_lowerChars (hd : d ∈ lowerChars s) : IsLower d := by
  have hfrom : ∀ before, d ∈ lowerFrom before s → IsLower d := by
    intro before hmem
    clear hd
    induction s generalizing before with
    | nil => simp [lowerFrom] at hmem
    | cons c s ih =>
      rw [lowerFrom, List.mem_append] at hmem
      rcases hmem with hmem | hmem
      · exact isLower_of_mem_lowerBetween hmem
      · exact ih _ hmem
  exact hfrom [] hd

/-- **The texts that are their own lower-case forms** are those of characters in lower case. -/
theorem lowerChars_eq_self_iff : lowerChars s = s ↔ ∀ c ∈ s, IsLower c := by
  constructor
  · intro h c hc
    rw [← h] at hc
    exact isLower_of_mem_lowerChars hc
  · intro h
    have hfrom : ∀ before, lowerFrom before s = s := by
      induction s with
      | nil => exact fun _ => rfl
      | cons c s ih =>
        intro before
        obtain ⟨hsigma, hc⟩ := h c List.mem_cons_self
        rw [lowerFrom, lowerBetween, if_neg hsigma, hc,
          ih fun d hd => h d (List.mem_cons_of_mem _ hd)]
        rfl
    exact hfrom []

/-- A character in lower case is kept. -/
lemma mem_lowerChars (hc : IsLower c) (h : c ∈ s) : c ∈ lowerChars s := by
  have hfrom : ∀ before, c ∈ lowerFrom before s := by
    induction s with
    | nil => simp at h
    | cons d s ih =>
      intro before
      rw [lowerFrom, List.mem_append]
      rcases List.mem_cons.1 h with rfl | hs
      · rw [lowerBetween, if_neg hc.1, hc.2]
        exact .inl List.mem_cons_self
      · exact .inr (ih hs _)
  exact hfrom []

/-- White space is in lower case. -/
lemma isLower_of_isBlank (h : isBlank c = true) : IsLower c := by
  have hall : ∀ n ∈ [9, 10, 11, 12, 13, 28, 29, 30, 31, 32, 0x85, 0xA0, 0x1680] ++
      (List.range' 0x2000 11 ++ [0x2028, 0x2029, 0x202F, 0x205F, 0x3000]),
      IsLower (Char.ofNat n) := by
    decide +kernel
  have hc := hall c.toNat (by
    simp only [isBlank, Bool.or_eq_true, Bool.and_eq_true, decide_eq_true_eq, beq_iff_eq] at h
    simp only [List.mem_append, List.mem_cons, List.not_mem_nil, or_false, List.mem_range'_1]
    omega)
  rwa [Char.ofNat_toNat] at hc

/-! ## Separators -/

/-- A sigma looks no further than to the character, which is in lower case itself. -/
structure Separates (c : Char) : Prop where
  kept : isCaseIgnorable c = false
  caseless : isCased c = false
  lower : IsLower c

/-- A hyphen is looked at no further. -/
lemma separates_hyphen : Separates '-' :=
  ⟨by decide +kernel, by decide +kernel, by decide +kernel⟩

/-- Beyond a separator no cased neighbour is met. -/
lemma meetsCased_append_cons (hd : Separates d) (s t : List Char) :
    meetsCased (s ++ d :: t) = meetsCased s := by
  rw [meetsCased, meetsCased, List.dropWhile_append]
  split
  · rename_i h
    rw [List.isEmpty_iff.1 h, List.dropWhile_cons_of_neg (by simp [hd.kept])]
    simp [hd.caseless]
  · rename_i h
    cases hs : s.dropWhile isCaseIgnorable with
    | nil => simp [hs] at h
    | cons c s => rfl

/-- What stands before a separator does not matter behind it. -/
lemma lowerFrom_append_cons (hd : Separates d) (s t before : List Char) :
    lowerFrom (before ++ d :: t) s = lowerFrom before s := by
  induction s generalizing before with
  | nil => rfl
  | cons c s ih =>
    have hfinal : isFinal (before ++ d :: t) s = isFinal before s := by
      rw [isFinal, isFinal, meetsCased_append_cons hd]
    rw [lowerFrom, lowerFrom, lowerBetween, lowerBetween, hfinal, ← List.cons_append, ih]

/-- **Texts on the two sides of a separator** are lower-cased each by itself. -/
theorem lowerChars_append_cons (hd : Separates d) (s t : List Char) :
    lowerChars (s ++ d :: t) = lowerChars s ++ d :: lowerChars t := by
  have hfrom : ∀ before, lowerFrom before (s ++ d :: t) = lowerFrom before s ++ d :: lowerChars t := by
    induction s with
    | nil =>
      intro before
      obtain ⟨hsigma, hlower⟩ := hd.lower
      have hbehind := lowerFrom_append_cons hd t before []
      rw [List.nil_append] at hbehind
      have hhead : lowerBetween before d t = [d] := by rw [lowerBetween, if_neg hsigma, hlower]
      rw [List.nil_append, lowerFrom, lowerFrom, hhead, hbehind]
      rfl
    | cons c s ih =>
      intro before
      have hfinal : isFinal before (s ++ d :: t) = isFinal before s := by
        rw [isFinal, isFinal, meetsCased_append_cons hd]
      rw [List.cons_append, lowerFrom, lowerFrom, lowerBetween, lowerBetween, hfinal, ih,
        List.append_assoc]
  exact hfrom []

end SchemaMarkup.Text
