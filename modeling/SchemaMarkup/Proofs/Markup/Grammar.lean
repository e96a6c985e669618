import SchemaMarkup.Markup.Tag
import SchemaMarkup.Proofs.Text.Run

set_option autoImplicit false

/-!
# The grammar of start tags

Which texts are read as an attribute or as a start tag, told without the readers. An attribute fits
before a text when that text cannot be taken for a part of it; a tag consists of a name, attributes
that fit before each other, and the gaps between them. Reading finds exactly the parts that fit.

## Main definitions

* `SchemaMarkup.Attribute.Fits` — an attribute can stand before a text.
* `SchemaMarkup.Attribute.Begins` — an attribute can stand after a gap.
* `SchemaMarkup.Tag.AttributesFit`, `SchemaMarkup.Tag.Fits` — the parts of a tag fit together.

## Main results

* `SchemaMarkup.Attribute.fits_of_read`, `SchemaMarkup.Attribute.read_of_fits` — reading an attribute.
* `SchemaMarkup.Tag.readAttributes_eq_some_iff`, `SchemaMarkup.Tag.readAfter_eq_some_iff` — reading
  a tag.
-/

namespace SchemaMarkup

open Text (isBlank IsRun)

/-- The first character that is no white space, up to a closing bracket, does not depend on what
stands behind the bracket. -/
lemma Tag.head?_dropWhile_bracket (s rest : List Char) :
    ((s ++ '>' :: rest).dropWhile isBlank).head? = ((s ++ ['>']).dropWhile isBlank).head? := by
  rw [Text.head?_dropWhile_append, Text.head?_dropWhile_append,
    List.dropWhile_cons_of_neg (by decide), List.dropWhile_cons_of_neg (by decide)]
  rfl

namespace Attribute

/-! ## Values -/

/-- A value fits before the text `s`: one in quotes does not hold its quote, and one without quotes
is a maximal run that does not begin with a quote. -/
def ValueFits (quote : Option Char) (value s : List Char) : Prop :=
  match quote with
  | some q => isQuote q = true ∧ q ∉ value
  | none => IsRun isValueChar value s ∧ ∀ c, value.head? = some c → isQuote c = false

lemma isBlank_of_isQuote {q : Char} (h : isQuote q = true) : isBlank q = false := by
  simp only [isQuote, Bool.or_eq_true, beq_iff_eq] at h
  rcases h with rfl | rfl <;> decide

/-- A value is read only where it fits. -/
lemma valueFits_of_readValue {s : List Char} {r : Option Char × List Char × List Char}
    (h : readValue s = some r) : ValueFits r.1 r.2.1 r.2.2 := by
  cases s with
  | nil =>
    simp only [readValue, Option.some.injEq] at h
    subst h
    exact ⟨⟨by simp, by simp⟩, by simp⟩
  | cons q s =>
    rw [readValue] at h
    split at h
    · rename_i hq
      split at h
      · simp at h
      · simp only [Option.some.injEq] at h
        subst h
        refine ⟨hq, fun hmem => ?_⟩
        simpa using List.mem_takeWhile_imp hmem
    · rename_i hq
      simp only [Option.some.injEq] at h
      subst h
      refine ⟨Text.isRun_takeWhile isValueChar (q :: s), fun c hc => ?_⟩
      rw [List.head?_takeWhile, List.head?_cons, Option.filter_eq_some_iff] at hc
      obtain ⟨hc, -⟩ := hc
      obtain rfl : q = c := by simpa using hc
      simpa using hq

/-- A value that fits is read. -/
lemma readValue_of_valueFits {quote : Option Char} {value s : List Char}
    (h : ValueFits quote value s) :
    readValue (quote.toList ++ value ++ quote.toList ++ s) = some (quote, value, s) := by
  cases quote with
  | some q =>
    obtain ⟨hq, hv⟩ := h
    have hrun : IsRun (· != q) value (q :: s) := by
      refine Text.isRun_cons (fun c hc => ?_) (by simp)
      simp only [bne_iff_ne, ne_eq]
      rintro rfl
      exact hv hc
    have hsource : (some q).toList ++ value ++ (some q).toList ++ s = q :: (value ++ q :: s) := by
      simp
    rw [hsource, readValue, if_pos hq, hrun.dropWhile_append, hrun.takeWhile_append]
  | none =>
    obtain ⟨hrun, hhead⟩ := h
    have hsource : (none : Option Char).toList ++ value ++ (none : Option Char).toList ++ s =
        value ++ s := by simp
    rw [hsource]
    cases hs : value ++ s with
    | nil =>
      obtain ⟨rfl, rfl⟩ := List.append_eq_nil_iff.1 hs
      rfl
    | cons c rest =>
      have hc : isQuote c = false := by
        cases value with
        | nil =>
          -- the text begins with white space or the closing bracket, which are no quotes
          have hstop := hrun.2 c (by rw [List.nil_append] at hs; rw [hs]; rfl)
          by_contra hq
          rw [Bool.not_eq_false] at hq
          have hb := isBlank_of_isQuote hq
          simp only [isQuote, Bool.or_eq_true, beq_iff_eq] at hq
          rcases hq with rfl | rfl <;> simp [isValueChar, hb] at hstop
        | cons d value =>
          simp only [List.cons_append, List.cons.injEq] at hs
          exact hs.1 ▸ hhead d rfl
      rw [readValue, if_neg (by simp [hc]), ← hs, hrun.takeWhile_append, hrun.dropWhile_append]

/-! ## Attributes -/

/-- An assignment fits before the text `s`: white space stands before and after the equals sign, as
much as there is, and the value fits. -/
def AssignmentFits (m : Assignment) (s : List Char) : Prop :=
  (∀ c ∈ m.before, isBlank c = true) ∧
    IsRun isBlank m.after (m.quote.toList ++ m.value ++ m.quote.toList ++ s) ∧
    ValueFits m.quote m.value s

/-- An attribute fits before the text `s`. The name of a bare attribute is a maximal run with no
equals sign behind it. -/
def Fits (a : Attribute) (s : List Char) : Prop :=
  match a.assignment with
  | some m => (∀ c ∈ a.name, isNameChar c = true) ∧ AssignmentFits m s
  | none => IsRun isNameChar a.name s ∧ (s.dropWhile isBlank).head? ≠ some '='

lemma isNameChar_of_isBlank {c : Char} (h : isBlank c = true) : isNameChar c = false := by
  simp [isNameChar, h]

/-- What is read as an attribute fits before what is left. -/
theorem fits_of_read {s rest : List Char} {a : Attribute} (h : read s = some (a, rest)) :
    a.Fits rest := by
  have hname := Text.isRun_takeWhile isNameChar s
  rw [read] at h
  split at h
  · rename_i t ht
    rw [Option.map_eq_some_iff] at h
    obtain ⟨r, hr, h⟩ := h
    simp only [Prod.mk.injEq] at h
    obtain ⟨rfl, rfl⟩ := h
    refine ⟨hname.1, (Text.isRun_takeWhile isBlank _).1, ?_, valueFits_of_readValue hr⟩
    rw [append_of_readValue hr]
    exact Text.isRun_takeWhile isBlank t
  · rename_i hne
    simp only [Option.some.injEq, Prod.mk.injEq] at h
    obtain ⟨rfl, rfl⟩ := h
    refine ⟨hname, fun hhead => ?_⟩
    cases hd : (s.dropWhile isNameChar).dropWhile isBlank with
    | nil => rw [hd] at hhead; simp at hhead
    | cons c t =>
      rw [hd, List.head?_cons, Option.some.injEq] at hhead
      subst hhead
      exact hne t hd

/-- A name before white space and an equals sign is a maximal run. -/
lemma isRun_name {name before : List Char} (hname : ∀ c ∈ name, isNameChar c = true)
    (hbefore : ∀ c ∈ before, isBlank c = true) (s : List Char) :
    IsRun isNameChar name (before ++ '=' :: s) := by
  cases before with
  | nil => exact Text.isRun_cons hname (by decide)
  | cons b before =>
    have hb := isNameChar_of_isBlank (hbefore b List.mem_cons_self)
    exact Text.isRun_cons hname hb

/-- An attribute that fits is read. -/
theorem read_of_fits {s : List Char} {a : Attribute} (h : a.Fits s) :
    read (a.source ++ s) = some (a, s) := by
  obtain ⟨name, assignment⟩ := a
  cases assignment with
  | none =>
    obtain ⟨hname, heq⟩ := h
    have hsource : source ⟨name, none⟩ ++ s = name ++ s := by simp [source]
    rw [hsource, read]
    simp only [hname.takeWhile_append, hname.dropWhile_append]
    split
    · rename_i t ht
      rw [ht] at heq
      exact absurd rfl heq
    · rfl
  | some m =>
    obtain ⟨hname, hbefore, hafter, hvalue⟩ := h
    obtain ⟨before, after, quote, value⟩ := m
    have hread := readValue_of_valueFits hvalue
    simp only at hbefore hafter hread
    obtain ⟨body, hbody⟩ : ∃ body, quote.toList ++ value ++ quote.toList ++ s = body := ⟨_, rfl⟩
    rw [hbody] at hafter hread
    have hsource : source ⟨name, some ⟨before, after, quote, value⟩⟩ ++ s =
        name ++ (before ++ '=' :: (after ++ body)) := by
      simp [source, Assignment.source, ← hbody]
    have hbeforeRun : IsRun isBlank before ('=' :: (after ++ body)) :=
      Text.isRun_cons hbefore (by decide)
    have hnameRun := isRun_name hname hbefore (after ++ body)
    rw [hsource, read]
    simp only [hnameRun.takeWhile_append, hnameRun.dropWhile_append,
      hbeforeRun.takeWhile_append, hbeforeRun.dropWhile_append, hafter.takeWhile_append,
      hafter.dropWhile_append, hread, Option.map_some]

/-- Whether an attribute fits depends on the first character that follows, and on whether the first
one behind white space is an equals sign. -/
lemma Fits.congr {a : Attribute} {s t : List Char} (h : a.Fits s) (hhead : s.head? = t.head?)
    (hblank : (t.dropWhile isBlank).head? = some '=' → (s.dropWhile isBlank).head? = some '=') :
    a.Fits t := by
  obtain ⟨name, assignment⟩ := a
  cases assignment with
  | none =>
    obtain ⟨hname, heq⟩ := h
    exact ⟨hname.congr hhead, fun ht => heq (hblank ht)⟩
  | some m =>
    obtain ⟨before, after, quote, value⟩ := m
    obtain ⟨hname, hbefore, hafter, hvalue⟩ := h
    refine ⟨hname, hbefore, hafter.congr (Text.head?_append_congr _ hhead), ?_⟩
    · cases quote with
      | some q => exact hvalue
      | none => exact ⟨hvalue.1.congr hhead, hvalue.2⟩

/-- What stands behind a closing bracket does not matter to an attribute before it. -/
lemma Fits.bracket {a : Attribute} {x s : List Char} (t : List Char)
    (h : a.Fits (x ++ '>' :: s)) : a.Fits (x ++ '>' :: t) := by
  have hhead : (x ++ '>' :: s).head? = (x ++ '>' :: t).head? := Text.head?_append_congr x rfl
  apply h.congr hhead
  rw [Tag.head?_dropWhile_bracket x t, Tag.head?_dropWhile_bracket x s]
  exact id

/-- An attribute stands after a gap: its first character belongs to no gap and closes no tag. -/
def Begins (a : Attribute) : Prop :=
  ∃ c, a.source.head? = some c ∧ (isNameChar c = true ∨ c = '=')

end Attribute

namespace Tag

/-! ## Tags -/

/-- The attributes fit each before the next one and the last before the text `s`, and the gaps
between them are gaps. -/
def AttributesFit : List (List Char × Attribute) → List Char → Prop
  | [], _ => True
  | (gap, a) :: as, s =>
    (∀ c ∈ gap, isGapChar c = true) ∧ a.Begins ∧ a.Fits (attributesSource as ++ s) ∧
      AttributesFit as s

/-- The parts of a tag fit together. -/
def Fits (t : Tag) : Prop :=
  IsRun isNameChar t.name (attributesSource t.attributes ++ t.gap ++ ['>']) ∧
    AttributesFit t.attributes (t.gap ++ ['>']) ∧ ∀ c ∈ t.gap, isGapChar c = true

@[simp] lemma attributesSource_nil : attributesSource [] = [] := rfl

@[simp] lemma attributesSource_cons (gap : List Char) (a : Attribute)
    (as : List (List Char × Attribute)) :
    attributesSource ((gap, a) :: as) = gap ++ a.source ++ attributesSource as := by
  simp [attributesSource]

@[simp] lemma attributesSource_append (as bs : List (List Char × Attribute)) :
    attributesSource (as ++ bs) = attributesSource as ++ attributesSource bs :=
  List.flatMap_append

lemma isGapChar_eq_false {c : Char} (h : Attribute.isNameChar c = true ∨ c = '=') :
    isGapChar c = false := by
  rcases h with h | rfl
  · simp only [Attribute.isNameChar, Bool.and_eq_true, Bool.not_eq_true', bne_iff_ne] at h
    obtain ⟨⟨⟨hb, -⟩, hs⟩, -⟩ := h
    simp [isGapChar, hb, hs]
  · decide

/-- A gap before an attribute is a maximal run. -/
lemma isRun_gap {gap s : List Char} {a : Attribute} (hgap : ∀ c ∈ gap, isGapChar c = true)
    (ha : a.Begins) : IsRun isGapChar gap (a.source ++ s) := by
  refine ⟨hgap, fun c hc => ?_⟩
  obtain ⟨d, hd, hbegin⟩ := ha
  rw [List.head?_append, hd, Option.some_or, Option.some.injEq] at hc
  exact hc ▸ isGapChar_eq_false hbegin

/-- Attributes fit before a text in place of another if every attribute that fits before an ending
with the one fits before the same ending with the other. -/
lemma AttributesFit.congr {as : List (List Char × Attribute)} {s t : List Char}
    (h : AttributesFit as s)
    (hst : ∀ (a : Attribute) (x : List Char), a.Fits (x ++ s) → a.Fits (x ++ t)) :
    AttributesFit as t := by
  induction as with
  | nil => trivial
  | cons e as ih =>
    obtain ⟨gap, a⟩ := e
    obtain ⟨hgap, hbegin, hfits, hrest⟩ := h
    exact ⟨hgap, hbegin, hst a _ hfits, ih hrest⟩

/-- What stands behind a closing bracket does not matter to the attributes before it. -/
lemma AttributesFit.bracket {as : List (List Char × Attribute)} {x s : List Char}
    (t : List Char) (h : AttributesFit as (x ++ '>' :: s)) :
    AttributesFit as (x ++ '>' :: t) := by
  apply h.congr
  intro a y hfits
  rw [← List.append_assoc] at hfits ⊢
  exact hfits.bracket t

/-- Attributes fit in two parts. -/
lemma attributesFit_append {as bs : List (List Char × Attribute)} {s : List Char} :
    AttributesFit (as ++ bs) s ↔
      AttributesFit as (attributesSource bs ++ s) ∧ AttributesFit bs s := by
  induction as with
  | nil => simp [AttributesFit]
  | cons e as ih =>
    obtain ⟨gap, a⟩ := e
    rw [List.cons_append]
    simp only [AttributesFit, ih, attributesSource_append, List.append_assoc, and_assoc]

/-- What is read as attributes fits before the closing bracket. -/
lemma fits_of_readAttributes {s : List Char}
    {r : (List (List Char × Attribute) × List Char) × List Char}
    (h : readAttributes s = some r) :
    AttributesFit r.1.1 (r.1.2 ++ '>' :: r.2) ∧ ∀ c ∈ r.1.2, isGapChar c = true := by
  fun_induction readAttributes s generalizing r with
  | case1 => simp at h
  | case2 s cs hs =>
    simp only [Option.some.injEq] at h
    subst h
    exact ⟨trivial, (Text.isRun_takeWhile isGapChar s).1⟩
  | case3 => simp at h
  | case4 s c cs hs hc a rest ha ih =>
    rw [Option.map_eq_some_iff] at h
    obtain ⟨r', hr', rfl⟩ := h
    obtain ⟨hfit, hgap⟩ := ih hr'
    have hrun := Text.isRun_takeWhile isGapChar s
    rw [hs] at hrun
    have hcgap : ¬isGapChar c = true := by simp [hrun.2 c rfl]
    have hbegin := isGapChar_of_not hcgap hc
    have hsource := Attribute.source_append_of_read ha
    obtain ⟨d, u, hd⟩ := List.exists_cons_of_ne_nil (Attribute.source_ne_nil_of_read ha hbegin)
    rw [hd, List.cons_append, List.cons.injEq] at hsource
    have hrest : attributesSource r'.1.1 ++ (r'.1.2 ++ '>' :: r'.2) = rest := by
      rw [← List.append_assoc]
      exact append_of_readAttributes hr'
    refine ⟨⟨hrun.1, ⟨c, by rw [hd, List.head?_cons, hsource.1], hbegin⟩, ?_, hfit⟩, hgap⟩
    rw [hrest]
    exact Attribute.fits_of_read ha

/-- Attributes that fit are read, and reading goes on behind them.

**Proof sketch.** Induction on the attributes. The gap before the first one is a maximal run of gap
characters and ends at the attribute (`isRun_gap`), which is read because it fits before the rest
(`Attribute.read_of_fits`). -/
lemma readAttributes_append {as : List (List Char × Attribute)} {s : List Char}
    (has : AttributesFit as s) :
    readAttributes (attributesSource as ++ s) =
      (readAttributes s).map fun r => ((as ++ r.1.1, r.1.2), r.2) := by
  induction as with
  | nil => cases h : readAttributes s <;> simp [h]
  | cons e as ih =>
    obtain ⟨g, a⟩ := e
    obtain ⟨hg, hbegin, hfits, hrest⟩ := has
    have hread := Attribute.read_of_fits hfits
    have hrun := isRun_gap (s := attributesSource as ++ s) hg hbegin
    obtain ⟨c, hc, hcbegin⟩ := hbegin
    obtain ⟨u, hu⟩ := List.head?_eq_some_iff.1 hc
    have hne : c ≠ '>' := by
      rintro rfl
      rcases hcbegin with h | h <;> exact absurd h (by decide)
    have hsource : attributesSource ((g, a) :: as) ++ s =
        g ++ (a.source ++ (attributesSource as ++ s)) := by
      simp
    rw [hsource, readAttributes, hrun.takeWhile_append, hrun.dropWhile_append]
    rw [hu, List.cons_append] at hread ⊢
    simp only [hne, dite_false]
    split
    · rename_i h
      rw [hread] at h
      simp at h
    · rename_i a' rest' h
      rw [hread, Option.some.injEq, Prod.mk.injEq] at h
      obtain ⟨rfl, rfl⟩ := h
      rw [ih hrest, Option.map_map]
      rfl

/-- Without attributes a tag ends behind a gap. -/
lemma readAttributes_gap {gap : List Char} (hgap : ∀ c ∈ gap, isGapChar c = true)
    (s : List Char) : readAttributes (gap ++ '>' :: s) = some (([], gap), s) := by
  have hrun : IsRun isGapChar gap ('>' :: s) := Text.isRun_cons hgap (by decide)
  rw [readAttributes, hrun.takeWhile_append, hrun.dropWhile_append]
  simp

/-- Attributes that fit before the closing bracket are read. -/
lemma readAttributes_of_fits {as : List (List Char × Attribute)} {gap s : List Char}
    (has : AttributesFit as (gap ++ '>' :: s)) (hgap : ∀ c ∈ gap, isGapChar c = true) :
    readAttributes (attributesSource as ++ (gap ++ '>' :: s)) = some ((as, gap), s) := by
  rw [readAttributes_append has, readAttributes_gap hgap]
  simp

/-- **Reading the attributes of a tag** finds the one beginning of a text that fits and ends with a
closing bracket. -/
theorem readAttributes_eq_some_iff {s rest gap : List Char}
    {as : List (List Char × Attribute)} :
    readAttributes s = some ((as, gap), rest) ↔
      attributesSource as ++ gap ++ '>' :: rest = s ∧ AttributesFit as (gap ++ ['>']) ∧
        ∀ c ∈ gap, isGapChar c = true := by
  constructor
  · intro h
    obtain ⟨hfits, hgap⟩ := fits_of_readAttributes h
    exact ⟨append_of_readAttributes h, hfits.bracket [], hgap⟩
  · rintro ⟨rfl, hfits, hgap⟩
    rw [List.append_assoc]
    exact readAttributes_of_fits (hfits.bracket rest) hgap

/-- A name and attributes that fit are read, and reading goes on behind them. -/
lemma readAfter_append {name s : List Char} {as : List (List Char × Attribute)}
    (hname : IsRun isNameChar name (attributesSource as ++ s)) (has : AttributesFit as s) :
    readAfter (name ++ (attributesSource as ++ s)) =
      (readAttributes s).map fun r => (⟨name, as ++ r.1.1, r.1.2⟩, r.2) := by
  rw [readAfter, hname.takeWhile_append, hname.dropWhile_append, readAttributes_append has,
    Option.map_map]
  rfl

/-- **Reading a tag** finds the one beginning of a text whose parts fit together. What stands behind
the tag does not matter. -/
theorem readAfter_eq_some_iff {s rest : List Char} {t : Tag} :
    readAfter s = some (t, rest) ↔ t.body ++ rest = s ∧ t.Fits := by
  constructor
  · intro h
    refine ⟨body_append_of_readAfter h, ?_⟩
    rw [readAfter, Option.map_eq_some_iff] at h
    obtain ⟨⟨⟨as, gap⟩, rest'⟩, hr, h⟩ := h
    simp only [Prod.mk.injEq] at h
    obtain ⟨rfl, rfl⟩ := h
    obtain ⟨hsource, hfits, hgap⟩ := readAttributes_eq_some_iff.1 hr
    refine ⟨?_, hfits, hgap⟩
    have hrun := Text.isRun_takeWhile isNameChar s
    rw [← hsource] at hrun
    exact hrun.congr (Text.head?_append_congr _ rfl)
  · rintro ⟨rfl, hname, hfits, hgap⟩
    have hrun : IsRun isNameChar t.name
        (attributesSource t.attributes ++ t.gap ++ '>' :: rest) :=
      hname.congr (Text.head?_append_congr _ rfl)
    have hbody : t.body ++ rest =
        t.name ++ (attributesSource t.attributes ++ t.gap ++ '>' :: rest) := by
      simp [body]
    have hread := readAttributes_of_fits (hfits.bracket rest) hgap
    rw [← List.append_assoc] at hread
    rw [hbody, readAfter, hrun.takeWhile_append, hrun.dropWhile_append, hread]
    rfl

end Tag

end SchemaMarkup
