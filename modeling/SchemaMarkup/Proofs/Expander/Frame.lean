import SchemaMarkup.Proofs.Engine.Expand
import SchemaMarkup.Proofs.Markup.Segmentation

set_option autoImplicit false

/-!
# What expanding leaves alone

A document is written again segment by segment. Only start tags change, and in a tag only the place
of its first attribute that has a value and a registered name, where the fragment of that value is
written. The engine goes from one directive to the next in the order of the document.

## Main definitions

* `SchemaMarkup.Tag.directivePlace?` — the place that changes in a tag.
* `SchemaMarkup.Segment.rewrite`, `SchemaMarkup.Segment.rewriteAll` — segments as they are written
  again.

## Main results

* `SchemaMarkup.Segment.rewriteAll_eq_expand` — pieces and segments are written the same.
* `SchemaMarkup.Expander.expand_frame` — a document is written segment by segment.
-/

namespace SchemaMarkup

namespace Tag

/-! ## The place of a directive -/

/-- The place of the first attribute that has a value and a name among those given in any letter
case. Offsets count from the opening bracket. -/
def directivePlace? (names : List String) (t : Tag) : Option Span :=
  (t.spans 1).find? fun s =>
    s.value.isSome && names.contains (String.ofList (Text.lowerChars s.name))

lemma find?_spansFrom (names : List String) (start : Nat)
    (as : List (List Char × Attribute)) :
    ((spansFrom start as).find? fun s =>
        s.value.isSome && names.contains (String.ofList (Text.lowerChars s.name))) =
      (splitDirective? names as).map fun r =>
        let first := start + (attributesSource r.1).length + r.2.1.1.length
        ⟨r.2.1.2.name, r.2.1.2.value?, first, first + r.2.1.2.source.length⟩ := by
  induction as generalizing start with
  | nil => rfl
  | cons e as ih =>
    obtain ⟨gap, a⟩ := e
    have hdirective : (a.value?.isSome &&
        names.contains (String.ofList (Text.lowerChars a.name))) = isDirective names a := by
      rw [isDirective, Attribute.value?, Option.isSome_map]
    rw [spansFrom, List.find?_cons, splitDirective?]
    simp only [hdirective, ih]
    cases isDirective names a with
    | true => simp
    | false =>
      simp only [Bool.false_eq_true, if_false, Option.map_map]
      refine Option.map_congr fun r _ => ?_
      simp only [Function.comp_apply, attributesSource_cons, List.length_append]
      congr 1 <;> omega

/-- A tag with a directive, as it is written. -/
lemma source_of_directive? {names : List String} {t : Tag} {before after : List Char}
    {a : Attribute} (h : t.directive? names = some (before, a, after)) :
    t.source = '<' :: before ++ a.source ++ after := by
  rw [source, ← append_of_directive? h]
  rfl

/-- The directive of a tag is at its place: what stands before the place and after it is what stands
before the directive and after it. -/
lemma directivePlace?_eq (names : List String) (t : Tag) :
    t.directivePlace? names = (t.directive? names).map fun r =>
      ⟨r.2.1.name, r.2.1.value?, ('<' :: r.1).length, ('<' :: r.1 ++ r.2.1.source).length⟩ := by
  rw [directivePlace?, spans, find?_spansFrom, directive?, Option.map_map]
  refine Option.map_congr fun r _ => ?_
  simp only [Function.comp_apply, List.length_append, List.length_cons, List.cons_append]
  congr 1 <;> omega

end Tag

namespace Segment

/-! ## Writing segments again -/

/-- A segment with its directive replaced, and the engine after it. Only start tags have a
directive. -/
def rewrite (names : List String) (e : Engine) : Segment → List Char × Engine
  | .tag t =>
    match t.directivePlace? names with
    | some place =>
      let f := e.fragment (String.ofList (place.value.getD []))
      (t.source.take place.start ++ f.1.toList ++ t.source.drop place.stop, f.2)
    | none => (t.source, e)
  | s => (s.source, e)

/-- Segments with their directives replaced one after another, and the engine after them. -/
def rewriteAll (names : List String) (e : Engine) : List Segment → List Char × Engine
  | [] => ([], e)
  | s :: segs =>
    let w := s.rewrite names e
    let r := rewriteAll names w.2 segs
    (w.1 ++ r.1, r.2)

variable {names : List String} {e : Engine}

/-- A tag with no directive is copied. -/
lemma rewrite_of_directive?_none {t : Tag} (h : t.directive? names = none) :
    (tag t).rewrite names e = (t.source, e) := by
  rw [rewrite, Tag.directivePlace?_eq, h]
  rfl

/-- A tag with a directive is copied up to the directive and after it. -/
lemma rewrite_of_directive? {t : Tag} {before after : List Char} {a : Attribute}
    (h : t.directive? names = some (before, a, after)) :
    (tag t).rewrite names e =
      ('<' :: before ++ (e.fragment (String.ofList (a.value?.getD []))).1.toList ++ after,
        (e.fragment (String.ofList (a.value?.getD []))).2) := by
  rw [rewrite, Tag.directivePlace?_eq, h]
  simp only [Option.map_some, Tag.source_of_directive? h]
  rw [List.drop_left, List.append_assoc ('<' :: before), List.take_left]

/-- A segment is written like its pieces. -/
lemma rewrite_eq_expand (names : List String) (e : Engine) (s : Segment) :
    s.rewrite names e = e.expand (Piece.ofSegment names s) := by
  cases s with
  | tag t =>
    rw [Piece.ofSegment, Piece.ofTag]
    cases h : t.directive? names with
    | none =>
      rw [rewrite_of_directive?_none h]
      simp [Engine.expand, Tag.source]
    | some r =>
      obtain ⟨before, a, after⟩ := r
      rw [rewrite_of_directive? h]
      simp [Engine.expand]
  | text s => simp [rewrite, Piece.ofSegment, Engine.expand]
  | comment s => simp [rewrite, Piece.ofSegment, Engine.expand]
  | raw s => simp [rewrite, Piece.ofSegment, Engine.expand]
  | bracket => simp [rewrite, Piece.ofSegment, Engine.expand]

/-- **Segments are written like their pieces**, and the engine goes through them in order. -/
theorem rewriteAll_eq_expand (names : List String) (e : Engine) (segs : List Segment) :
    rewriteAll names e segs = e.expand (segs.flatMap (Piece.ofSegment names)) := by
  induction segs generalizing e with
  | nil => rfl
  | cons s segs ih =>
    rw [rewriteAll, rewrite_eq_expand, List.flatMap_cons, Engine.expand_append, ih]

/-- Segments are written part by part. -/
lemma rewriteAll_append (names : List String) (e : Engine) (segs segs' : List Segment) :
    rewriteAll names e (segs ++ segs') =
      ((rewriteAll names e segs).1 ++ (rewriteAll names (rewriteAll names e segs).2 segs').1,
        (rewriteAll names (rewriteAll names e segs).2 segs').2) := by
  simp only [rewriteAll_eq_expand, List.flatMap_append, Engine.expand_append]

end Segment

namespace Expander

variable {r : Expander} {html : String} {segs : List Segment}

/-- A document is expanded by writing its segments again. -/
lemma perform_expand_of_segmentation (h : Segmentation html.toList segs)
    (ho : r.expandObstacle? html = none) :
    r.perform (.expand html) =
      (.ok (.plain (.text (String.ofList
          (Segment.rewriteAll r.attributeNames r.engine segs).1))),
        { r with engine := (Segment.rewriteAll r.attributeNames r.engine segs).2 }) := by
  have hpieces : r.pieces html = segs.flatMap (Piece.ofSegment r.attributeNames) := by
    rw [segmentation_iff.1 h]
    rfl
  rw [perform_expand ho, hpieces, Segment.rewriteAll_eq_expand]

/-- **Expanding leaves everything but directives alone.** Every document has exactly one
segmentation. Its segments make up the document, and written again one after another they make up
the expanded document, if nothing is in the way; and nothing is if the parents of all types are
named.

**Proof sketch.** The segments that are read are the only segmentation (`segmentation_iff`). The
pieces of a document are those of its segments, and a segment is written like its pieces: the place
of a directive is what lies between the piece before it and the piece after it
(`Tag.directivePlace?_eq`). -/
theorem expand_frame (r : Expander) (html : String) :
    ∃ segs, Segmentation html.toList segs ∧
      (∀ segs', Segmentation html.toList segs' → segs' = segs) ∧
      Segment.sources segs = html.toList ∧
      (r.expandObstacle? html = none →
        let written := Segment.rewriteAll r.attributeNames r.engine segs
        r.perform (.expand html) =
          (.ok (.plain (.text (String.ofList written.1))), { r with engine := written.2 })) ∧
      (r.engine.vocabulary.ParentsNamed → r.expandObstacle? html = none) := by
  have hsegs := segmentation_iff.2 (rfl : Segment.ofText html.toList = _)
  exact ⟨Segment.ofText html.toList, hsegs, fun segs' h => segmentation_iff.1 h,
    Segment.sources_ofText html.toList, perform_expand_of_segmentation hsegs,
    fun h => expandObstacle?_eq_none h html⟩

end Expander

end SchemaMarkup
