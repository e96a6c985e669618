import Mathlib.Data.List.Forall2
import SchemaMarkup.Markup.Place
import SchemaMarkup.Proofs.Markup.Grammar

set_option autoImplicit false

/-!
# Tags in other surroundings

The scan for a tag looks neither back nor further than the closing bracket. A tag that it finds in a
document is found wherever the same characters stand, and in a document that is cut off it finds the
tags that end in front of the cut and no others.

## Main definitions

* `SchemaMarkup.Tag.Span.IsMoved`, `SchemaMarkup.PlacedTag.IsMoved` — an attribute and a tag at
  another place.

## Main results

* `SchemaMarkup.Tag.at?_eq_some_iff` — a tag is found exactly where it stands.
* `SchemaMarkup.Tag.at?_take_eq_some_iff` — which tags are found in a document that is cut off.
* `SchemaMarkup.Tag.at?_moved` — the scan for a tag is local.
-/

namespace SchemaMarkup

/-! ## Other places -/

/-- The attribute `y` is the attribute `x`, but stands `d` characters further on. -/
structure Tag.Span.IsMoved (d : Int) (x y : Tag.Span) : Prop where
  name_eq : y.name = x.name
  value_eq : y.value = x.value
  start_eq : (y.start : Int) = x.start + d
  stop_eq : (y.stop : Int) = x.stop + d

/-- The tag `q` is the tag `p`, but stands `d` characters further on with all its attributes. -/
structure PlacedTag.IsMoved (d : Int) (p q : PlacedTag) : Prop where
  tag_eq : q.tag = p.tag
  start_eq : (q.start : Int) = p.start + d
  stop_eq : (q.stop : Int) = p.stop + d
  spans : List.Forall₂ (Tag.Span.IsMoved d) p.spans q.spans

namespace Tag

variable {html : List Char} {start : Nat} {p : PlacedTag}

/-- Attributes are as far from each other wherever the first one begins. -/
lemma forall₂_isMoved_spansFrom {first first' : Nat} {d : Int} (h : (first' : Int) = first + d)
    (as : List (List Char × Attribute)) :
    List.Forall₂ (Span.IsMoved d) (spansFrom first as) (spansFrom first' as) := by
  induction as generalizing first first' with
  | nil => exact .nil
  | cons e as ih =>
    obtain ⟨gap, a⟩ := e
    have hstart : ((first' + gap.length : Nat) : Int) = (first + gap.length : Nat) + d := by omega
    have hstop : ((first' + gap.length + a.source.length : Nat) : Int) =
        (first + gap.length + a.source.length : Nat) + d := by omega
    exact .cons ⟨rfl, rfl, hstart, hstop⟩ (ih hstop)

/-! ## Where a tag is found -/

/-- **A tag is found exactly where it stands**: where its parts fit together behind any character.
Neither what is before it nor what is behind it matters. -/
theorem at?_eq_some_iff :
    at? html start = some p ↔
      p.start = start ∧ p.stop = start + 1 + p.tag.body.length ∧ p.tag.Fits ∧
        ∃ before c rest, before.length = start ∧ html = before ++ c :: (p.tag.body ++ rest) := by
  constructor
  · intro h
    obtain ⟨⟨t, rest⟩, hread, rfl⟩ := Option.map_eq_some_iff.1 h
    obtain ⟨hbody, hfits⟩ := readAfter_eq_some_iff.1 hread
    -- a tag has a closing bracket at least
    have hne : html.drop (start + 1) ≠ [] := by simp [← hbody, body]
    have hlt : start < html.length := by
      by_contra hge
      exact hne (List.drop_eq_nil_of_le (by omega))
    refine ⟨rfl, rfl, hfits, html.take start, html[start], rest, ?_, ?_⟩
    · rw [List.length_take, Nat.min_eq_left hlt.le]
    · rw [hbody, List.getElem_cons_drop, List.take_append_drop]
  · rintro ⟨hstart, hstop, hfits, before, c, rest, rfl, rfl⟩
    have hdrop : (before ++ c :: (p.tag.body ++ rest)).drop (before.length + 1) =
        p.tag.body ++ rest := by
      rw [List.drop_length_add_append, List.drop_succ_cons, List.drop_zero]
    rw [at?, hdrop, readAfter_eq_some_iff.2 ⟨rfl, hfits⟩, Option.map_some, ← hstop, ← hstart]

/-- The text of a tag in the document in which it is found. -/
lemma extract_of_at? (h : at? html start = some p) :
    ∃ c, html.extract start p.stop = c :: p.tag.body := by
  obtain ⟨-, hstop, -, before, c, rest, rfl, rfl⟩ := at?_eq_some_iff.1 h
  have hlength : p.stop - before.length = (c :: p.tag.body).length := by
    rw [hstop, List.length_cons]
    omega
  refine ⟨c, ?_⟩
  rw [List.extract_eq_take_drop, List.drop_left, hlength, ← List.cons_append, List.take_left]

/-- In a document that is cut off, the tags that end in front of the cut are found. -/
theorem at?_take_eq_some_iff {k : Nat} :
    at? (html.take k) start = some p ↔ at? html start = some p ∧ p.stop ≤ k := by
  constructor
  · intro h
    obtain ⟨hstart, hstop, hfits, before, c, rest, hbefore, htake⟩ := at?_eq_some_iff.1 h
    have hhtml : html = before ++ c :: (p.tag.body ++ (rest ++ html.drop k)) := by
      have hsplit := List.take_append_drop k html
      rw [htake] at hsplit
      simpa using hsplit.symm
    have hlength := congrArg List.length htake
    simp only [List.length_take, List.length_append, List.length_cons] at hlength
    exact ⟨at?_eq_some_iff.2 ⟨hstart, hstop, hfits, before, c, _, hbefore, hhtml⟩, by omega⟩
  · rintro ⟨h, hk⟩
    obtain ⟨hstart, hstop, hfits, before, c, rest, rfl, rfl⟩ := at?_eq_some_iff.1 h
    obtain ⟨n, rfl⟩ := Nat.exists_eq_add_of_le hk
    refine at?_eq_some_iff.2 ⟨hstart, hstop, hfits, before, c, rest.take n, rfl, ?_⟩
    have hlength : p.stop + n = (before ++ c :: p.tag.body).length + n := by
      simp [hstop, Nat.add_assoc, Nat.add_comm]
    have hsource : before ++ c :: (p.tag.body ++ rest) = before ++ c :: p.tag.body ++ rest := by
      simp
    rw [hlength, hsource, List.take_length_add_append]
    simp

/-! ## What is found elsewhere -/

/-- **The scan for a tag is local.** Take the text of a tag that is found in a document, and put any
text before it and any text behind it: there the same tag is found, and it and its attributes have
moved as far as its text has. If no tag is found at an offset of a document, none is found there in
any beginning of the document.

**Proof sketch.** The tag is found where it stands, and only the first character of its text, which
the scan does not look at, is not its own (`at?_eq_some_iff`). Places are told by lengths, so they
move together (`forall₂_isMoved_spansFrom`). A tag that is found in a beginning of a document would
be found in the document (`at?_take_eq_some_iff`). -/
theorem at?_moved (html : List Char) (start : Nat) :
    (∀ p, at? html start = some p → ∀ before after : List Char,
        ∃ q, at? (before ++ html.extract start p.stop ++ after) before.length = some q ∧
          p.IsMoved (before.length - start) q) ∧
      (at? html start = none → ∀ k, at? (html.take k) start = none) := by
  refine ⟨fun p hp before after => ?_, fun hnone k => ?_⟩
  · obtain ⟨hstart, hstop, hfits, -⟩ := at?_eq_some_iff.1 hp
    obtain ⟨c, htext⟩ := extract_of_at? hp
    let q : PlacedTag := ⟨p.tag, before.length, before.length + 1 + p.tag.body.length⟩
    have hq : at? (before ++ html.extract start p.stop ++ after) before.length = some q :=
      at?_eq_some_iff.2 ⟨rfl, rfl, hfits, before, c, after, rfl, by simp [htext, q]⟩
    have hfirst : ((before.length + 1 + p.tag.name.length : Nat) : Int) =
        (p.start + 1 + p.tag.name.length : Nat) + (before.length - start) := by omega
    exact ⟨q, hq, rfl, by simp only [q]; omega, by simp only [q]; omega,
      forall₂_isMoved_spansFrom hfirst p.tag.attributes⟩
  · refine Option.eq_none_iff_forall_ne_some.2 fun p hp => ?_
    obtain ⟨hfound, -⟩ := at?_take_eq_some_iff.1 hp
    exact Option.some_ne_none p (hfound.symm.trans hnone)

/-- A tag with a bracket in quotes is moved to where quotes and a bracket are around it. A tag with a
quote that is not closed is cut off behind the quote. -/
theorem at?_moved_quoted :
    let html := "x<p a='>' b=c/ />y".toList
    let p : PlacedTag := ⟨⟨['p'], [([' '], ⟨['a'], some ⟨[], [], some '\'', ['>']⟩⟩),
      ([' '], ⟨['b'], some ⟨[], [], none, ['c', '/']⟩⟩)], [' ', '/']⟩, 1, 17⟩
    at? html 1 = some p ∧
      (∃ q, at? "<!--'<p a='>' b=c/ />'>".toList 5 = some q ∧ p.IsMoved 4 q) ∧
      at? "<p a='>b".toList 0 = none ∧ at? "<p a='".toList 0 = none := by
  intro html p
  have hp : at? html 1 = some p := by decide +kernel
  have hnone : at? "<p a='>b".toList 0 = none := by decide +kernel
  obtain ⟨q, hq, hmoved⟩ := (at?_moved html 1).1 p hp "<!--'".toList "'>".toList
  exact ⟨hp, ⟨q, hq, hmoved⟩, hnone, (at?_moved _ 0).2 hnone 6⟩

end Tag

end SchemaMarkup
