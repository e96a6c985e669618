import SchemaMarkup.Markup.Segment
import SchemaMarkup.Proofs.Text.Run

set_option autoImplicit false

/-!
# Segmentations

What it means that a document is split into segments, told without the functions that split it. A
segmentation is built segment by segment from the left: a maximal run of text, a comment up to the
first mark that closes it, a start tag where one can be read, the raw text behind the tag of an
element that holds no markup, and a bracket where none of these begins. Every document has exactly
one segmentation.

## Main definitions

* `SchemaMarkup.Text.CutsBefore` — a text is cut before its first ending of some kind.
* `SchemaMarkup.Segmentation` — the segments that a document splits into.

## Main results

* `SchemaMarkup.segmentation_iff` — the one segmentation of a document is
  `SchemaMarkup.Segment.ofText`.
-/

namespace SchemaMarkup

namespace Text

variable {p : List Char → Bool} {s before after : List Char}

/-- The text `s` is cut before its first ending that satisfies `p`, or at its end if none does. -/
def CutsBefore (p : List Char → Bool) (s before after : List Char) : Prop :=
  before ++ after = s ∧ (after = [] ∨ p after = true) ∧
    ∀ u v, u ++ v = before → v ≠ [] → p (v ++ after) = false

/-- Every text can be cut. -/
lemma exists_cutsBefore (p : List Char → Bool) (s : List Char) :
    ∃ before after, CutsBefore p s before after := by
  induction s with
  | nil => exact ⟨[], [], rfl, .inl rfl, by simp⟩
  | cons c s ih =>
    by_cases h : p (c :: s) = true
    · exact ⟨[], c :: s, rfl, .inr h, by simp⟩
    · obtain ⟨before, after, rfl, hafter, hbefore⟩ := ih
      refine ⟨c :: before, after, rfl, hafter, fun u v huv hv => ?_⟩
      cases u with
      | nil =>
        obtain rfl : v = c :: before := huv
        simpa using h
      | cons d u =>
        rw [List.cons_append, List.cons.injEq] at huv
        exact hbefore u v huv.2 hv

/-- Nothing is cut off in front of an ending that satisfies `p`. -/
lemma CutsBefore.tail {c : Char} (h : CutsBefore p s (c :: before) after) :
    ∃ s', s = c :: s' ∧ p (c :: s') = false ∧ CutsBefore p s' before after := by
  obtain ⟨rfl, hafter, hbefore⟩ := h
  refine ⟨before ++ after, rfl, hbefore [] (c :: before) rfl (by simp), rfl, hafter,
    fun u v huv hv => hbefore (c :: u) v ?_ hv⟩
  rw [List.cons_append, huv]

end Text

open Text (CutsBefore IsRun)

namespace Segment

/-- The text begins with the mark that closes a comment. -/
def closesComment (s : List Char) : Bool := ['-', '-', '>'].isPrefixOf s

/-- The text begins with the rest of the mark that opens a comment. -/
def opensComment (s : List Char) : Bool := ['!', '-', '-'].isPrefixOf s

/-- A comment is cut before the first mark that closes it, and takes the mark. -/
lemma splitComment_of_cutsBefore {s before after : List Char}
    (h : CutsBefore closesComment s before after) :
    splitComment s = (before ++ after.take 3, after.drop 3) := by
  induction before generalizing s with
  | nil =>
    obtain ⟨rfl, rfl | hafter, -⟩ := h
    · rfl
    · obtain ⟨rest, rfl⟩ := List.isPrefixOf_iff_prefix.1 hafter
      rfl
  | cons c before ih =>
    obtain ⟨s', rfl, hc, h⟩ := h.tail
    rw [splitComment.eq_def]
    split
    · rename_i hs
      simp at hs
    · rename_i rest hs
      rw [hs] at hc
      exact absurd hc (by simp [closesComment])
    · rename_i d cs _ hs
      simp only [List.cons.injEq] at hs
      obtain ⟨rfl, rfl⟩ := hs
      rw [ih h]
      rfl

/-- A raw text is cut before the first closing tag. -/
lemma splitRaw_of_cutsBefore {name s before after : List Char}
    (h : CutsBefore (closes name) s before after) : splitRaw name s = (before, after) := by
  induction before generalizing s with
  | nil =>
    obtain ⟨rfl, rfl | hafter, -⟩ := h
    · rfl
    · cases after with
      | nil => rfl
      | cons c after =>
        rw [List.nil_append, splitRaw, if_pos hafter]
  | cons c before ih =>
    obtain ⟨s', rfl, hc, h⟩ := h.tail
    rw [splitRaw, if_neg (by simp [hc]), ih h]

/-- A text that does not go on as a comment opens a tag or nothing. -/
lemma readMarkup_eq_readTag {s : List Char} (h : opensComment s = false) :
    readMarkup s = readTag s := by
  rw [readMarkup.eq_def]
  split
  · simp [opensComment] at h
  · rfl

/-- A tag does not open like a comment. -/
lemma opensComment_of_startsWithLetter {s : List Char} (h : startsWithLetter s = true) :
    opensComment s = false := by
  rw [← Bool.not_eq_true]
  intro hs
  obtain ⟨rest, rfl⟩ := List.isPrefixOf_iff_prefix.1 hs
  have hmark : Text.isLetter '!' = false := by decide +kernel
  simp [startsWithLetter, hmark] at h

end Segment

open Segment (closesComment opensComment closes startsWithLetter opensRaw)

/-- The segments that a document splits into, from left to right. -/
inductive Segmentation : List Char → List Segment → Prop
  /-- Nothing is left. -/
  | nil : Segmentation [] []
  /-- A maximal run of text without an opening bracket. -/
  | text {w rest : List Char} {segs : List Segment} (hne : w ≠ [])
      (hrun : IsRun (· != '<') w rest) (hrest : Segmentation rest segs) :
      Segmentation (w ++ rest) (.text w :: segs)
  /-- A comment with the first closing mark after its opening mark, or up to the end. -/
  | comment {s before after : List Char} {segs : List Segment}
      (hcut : CutsBefore closesComment s before after)
      (hrest : Segmentation (after.drop 3) segs) :
      Segmentation ('<' :: '!' :: '-' :: '-' :: s)
        (.comment ('<' :: '!' :: '-' :: '-' :: (before ++ after.take 3)) :: segs)
  /-- A start tag of an element that holds markup. -/
  | tag {s rest : List Char} {t : Tag} {segs : List Segment} (hletter : startsWithLetter s = true)
      (hread : Tag.readAfter s = some (t, rest)) (hraw : opensRaw t = false)
      (hrest : Segmentation rest segs) :
      Segmentation ('<' :: s) (.tag t :: segs)
  /-- A start tag with the raw text behind it, up to the first closing tag of its name. -/
  | rawTag {s rest before after : List Char} {t : Tag} {segs : List Segment}
      (hletter : startsWithLetter s = true) (hread : Tag.readAfter s = some (t, rest))
      (hraw : opensRaw t = true)
      (hcut : CutsBefore (closes (Text.lowerChars t.name)) rest before after)
      (hrest : Segmentation after segs) :
      Segmentation ('<' :: s) (.tag t :: .raw before :: segs)
  /-- An opening bracket that opens neither a comment nor a tag. -/
  | bracket {s : List Char} {segs : List Segment} (hcomment : opensComment s = false)
      (htag : startsWithLetter s = false ∨ Tag.readAfter s = none)
      (hrest : Segmentation s segs) :
      Segmentation ('<' :: s) (.bracket :: segs)

namespace Segment

lemma ofText_bracket (s : List Char) :
    ofText ('<' :: s) = (readMarkup s).1 ++ ofText (readMarkup s).2 := by
  rw [ofText, if_pos rfl]

lemma ofText_run {w rest : List Char} (hne : w ≠ []) (hrun : IsRun (· != '<') w rest) :
    ofText (w ++ rest) = text w :: ofText rest := by
  obtain ⟨c, u, rfl⟩ := List.exists_cons_of_ne_nil hne
  have hc : c ≠ '<' := by simpa using hrun.1 c List.mem_cons_self
  have hu : IsRun (· != '<') u rest :=
    ⟨fun d hd => hrun.1 d (List.mem_cons_of_mem c hd), hrun.2⟩
  rw [List.cons_append, ofText, if_neg hc, hu.takeWhile_append, hu.dropWhile_append]

/-- What an opening bracket begins continues a segmentation of what follows. -/
lemma segmentation_readMarkup {s : List Char} {segs : List Segment}
    (h : Segmentation (readMarkup s).2 segs) :
    Segmentation ('<' :: s) ((readMarkup s).1 ++ segs) := by
  by_cases hc : opensComment s = true
  · obtain ⟨rest, rfl⟩ := List.isPrefixOf_iff_prefix.1 hc
    obtain ⟨before, after, hcut⟩ := Text.exists_cutsBefore closesComment rest
    have hread : readMarkup (['!', '-', '-'] ++ rest) =
        ([comment ('<' :: '!' :: '-' :: '-' :: (before ++ after.take 3))], after.drop 3) := by
      show ([comment ('<' :: '!' :: '-' :: '-' :: (splitComment rest).1)],
        (splitComment rest).2) = _
      rw [splitComment_of_cutsBefore hcut]
    rw [hread] at h ⊢
    exact .comment hcut h
  · rw [Bool.not_eq_true] at hc
    rw [readMarkup_eq_readTag hc, readTag] at h ⊢
    split at h
    · rename_i hletter
      rw [if_pos hletter]
      split at h
      · rename_i hread
        exact .bracket hc (.inr hread) h
      · rename_i t rest hread
        split at h
        · rename_i hraw
          obtain ⟨before, after, hcut⟩ :=
            Text.exists_cutsBefore (closes (Text.lowerChars t.name)) rest
          rw [splitRaw_of_cutsBefore hcut] at h
          rw [if_pos hraw, splitRaw_of_cutsBefore hcut]
          exact .rawTag hletter hread hraw hcut h
        · rename_i hraw
          rw [if_neg hraw]
          exact .tag hletter hread (by simpa using hraw) h
    · rename_i hletter
      rw [if_neg hletter]
      exact .bracket hc (.inl (by simpa using hletter)) h

/-- The segments that are read make up a segmentation. -/
lemma segmentation_ofText (s : List Char) : Segmentation s (ofText s) := by
  fun_induction ofText s with
  | case1 => exact .nil
  | case2 cs ih => exact segmentation_readMarkup ih
  | case3 c cs hc ih =>
    have hrun := Text.isRun_takeWhile (· != '<') cs
    have hcons : IsRun (· != '<') (c :: cs.takeWhile (· != '<')) (cs.dropWhile (· != '<')) := by
      refine ⟨fun d hd => ?_, hrun.2⟩
      rcases List.mem_cons.1 hd with rfl | hd
      · simpa using hc
      · exact hrun.1 d hd
    have h := Segmentation.text (by simp) hcons ih
    rwa [List.cons_append, List.takeWhile_append_dropWhile] at h

/-- There is no other segmentation than the one that is read.

**Proof sketch.** Induction on the segmentation. Each rule tells what the reader finds at the first
character: where the comment or the raw text ends (`splitComment_of_cutsBefore`,
`splitRaw_of_cutsBefore`), whether a tag is read, and how far the text runs (`ofText_run`). -/
lemma eq_ofText_of_segmentation {s : List Char} {segs : List Segment}
    (h : Segmentation s segs) : segs = ofText s := by
  induction h with
  | nil => rw [ofText]
  | text hne hrun _ ih => rw [ofText_run hne hrun, ih]
  | @comment s before after segs hcut _ ih =>
    have hread : readMarkup ('!' :: '-' :: '-' :: s) =
        ([comment ('<' :: '!' :: '-' :: '-' :: (splitComment s).1)], (splitComment s).2) := rfl
    rw [ofText_bracket, hread, splitComment_of_cutsBefore hcut, ih]
    rfl
  | tag hletter hread hraw _ ih =>
    rw [ofText_bracket, readMarkup_eq_readTag (opensComment_of_startsWithLetter hletter), readTag,
      if_pos hletter, hread]
    simp only [hraw, Bool.false_eq_true, if_false, ih]
    rfl
  | rawTag hletter hread hraw hcut _ ih =>
    rw [ofText_bracket, readMarkup_eq_readTag (opensComment_of_startsWithLetter hletter), readTag,
      if_pos hletter, hread]
    simp only [hraw, if_true, splitRaw_of_cutsBefore hcut, ih]
    rfl
  | bracket hcomment htag _ ih =>
    rw [ofText_bracket, readMarkup_eq_readTag hcomment, readTag]
    rcases htag with hletter | hread
    · rw [if_neg (by simp [hletter]), ih]
      rfl
    · split
      · rw [hread, ih]
        rfl
      · rw [ih]
        rfl

end Segment

/-- **A document has exactly one segmentation**, the one that is read from left to right. -/
theorem segmentation_iff {s : List Char} {segs : List Segment} :
    Segmentation s segs ↔ segs = Segment.ofText s := by
  constructor
  · exact Segment.eq_ofText_of_segmentation
  · rintro rfl
    exact Segment.segmentation_ofText s

/-- The segments of a segmentation make up the document. -/
lemma Segmentation.sources_eq {s : List Char} {segs : List Segment} (h : Segmentation s segs) :
    Segment.sources segs = s := by
  rw [segmentation_iff.1 h, Segment.sources_ofText]

end SchemaMarkup
