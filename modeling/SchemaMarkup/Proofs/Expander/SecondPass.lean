import SchemaMarkup.Proofs.Expander.Frame
import SchemaMarkup.Proofs.Markup.Locality
import SchemaMarkup.Proofs.Markup.Replace

set_option autoImplicit false

/-!
# Expanding twice

An expanded document has no directives left, so that expanding it again changes nothing. What is
inserted or removed could change how the document is read the second time: a name could close a
quote, a tag that is not read the first time could be read the second time, and where a directive is
removed its neighbours could grow together. The conditions below exclude just that.

## Main definitions

* `SchemaMarkup.Tag.IsSingle` — a tag has at most one directive.
* `SchemaMarkup.Segment.RemovalClear`, `SchemaMarkup.Segment.RemovalsClear` — nothing grows together
  where a directive is removed.
* `SchemaMarkup.Segment.ScansSucceed` — every tag that is begun is read.
* `SchemaMarkup.Segment.NoDirectives` — no tag has a directive.

## Main results

* `SchemaMarkup.Segment.exists_segmentation_rewriteAll` — what is written has segments without
  directives.
* `SchemaMarkup.Expander.expand_expanded` — expanding twice.
-/

namespace SchemaMarkup

open Text (isBlank IsRun SameStart)

namespace Tag

variable {names : List String} {t : Tag} {as : List (List Char × Attribute)}

/-! ## Tags with one directive -/

/-- The tag has at most one attribute that could be its directive. -/
def IsSingle (names : List String) (t : Tag) : Prop :=
  (t.attributes.filter fun e => isDirective names e.2).length ≤ 1

instance (names : List String) (t : Tag) : Decidable (t.IsSingle names) :=
  inferInstanceAs (Decidable (_ ≤ _))

lemma splitDirective?_eq_none (h : ∀ e ∈ as, isDirective names e.2 = false) :
    splitDirective? names as = none := by
  induction as with
  | nil => rfl
  | cons e as ih =>
    have he := h e List.mem_cons_self
    rw [splitDirective?, if_neg (by simp [he]), ih fun x hx => h x (List.mem_cons_of_mem e hx)]
    rfl

/-- The other attributes of a tag with a single directive are none. -/
lemma IsSingle.others
    {r : List (List Char × Attribute) × (List Char × Attribute) × List (List Char × Attribute)}
    (h : t.IsSingle names) (hr : splitDirective? names t.attributes = some r) :
    ∀ e ∈ r.1 ++ r.2.2, isDirective names e.2 = false := by
  obtain ⟨hdirective, -⟩ := isDirective_of_splitDirective? hr
  rw [IsSingle, ← append_of_splitDirective? hr, List.filter_append, List.filter_cons,
    if_pos hdirective, List.length_append, List.length_cons] at h
  have hbefore : r.1.filter (fun e => isDirective names e.2) = [] :=
    List.length_eq_zero_iff.1 (by omega)
  have hafter : r.2.2.filter (fun e => isDirective names e.2) = [] :=
    List.length_eq_zero_iff.1 (by omega)
  intro e he
  rcases List.mem_append.1 he with he | he
  · simpa using List.filter_eq_nil_iff.1 hbefore e he
  · simpa using List.filter_eq_nil_iff.1 hafter e he

/-- Written attributes are no directives: the names of directives hold a hyphen. -/
lemma isDirective_of_marks {marks : List Attribute} (hmarks : Renderer.Marks marks)
    (hnames : ∀ n ∈ names, '-' ∈ n.toList) {a : Attribute} (ha : a ∈ marks) :
    isDirective names a = false := by
  have hlower : ∀ n ∈ Renderer.markNames, '-' ∉ Text.lowerChars n.toList := by decide +kernel
  have hhyphen := hlower _ (hmarks.names a ha)
  rw [String.toList_ofList] at hhyphen
  rw [isDirective, Bool.and_eq_false_iff]
  refine .inr ?_
  rw [← Bool.not_eq_true, List.contains_iff_mem]
  intro hmem
  exact hhyphen (by simpa using hnames _ hmem)

/-- The attributes from a replaced one on are written ones and those that stood behind it. -/
lemma mem_splice {gap close : List Char} {marks : List Attribute}
    {after : List (List Char × Attribute)} {e : List Char × Attribute}
    (h : e ∈ (splice gap marks after close).1) : e.2 ∈ marks ∨ ∃ e' ∈ after, e'.2 = e.2 := by
  have hrow : ∀ (g : List Char) (as : List Attribute), e ∈ Attribute.row g as → e.2 ∈ as := by
    intro g as
    induction as generalizing g with
    | nil => simp [Attribute.row]
    | cons a as ih =>
      intro he
      rcases List.mem_cons.1 he with rfl | he
      · exact List.mem_cons_self
      · exact List.mem_cons_of_mem a (ih _ he)
  cases marks with
  | nil =>
    cases after with
    | nil => simp [splice] at h
    | cons x after =>
      obtain ⟨g, a⟩ := x
      rcases List.mem_cons.1 h with rfl | h
      · exact .inr ⟨(g, a), List.mem_cons_self, rfl⟩
      · exact .inr ⟨e, List.mem_cons_of_mem _ h, rfl⟩
  | cons mark marks =>
    rcases List.mem_append.1 h with h | h
    · exact .inl (hrow gap _ h)
    · exact .inr ⟨e, h, rfl⟩

/-- A tag with written attributes in place of its single directive has no directive. -/
lemma IsSingle.directive?_replace {before after : List (List Char × Attribute)}
    {gap : List Char} {a : Attribute} {marks : List Attribute} (h : t.IsSingle names)
    (hsplit : splitDirective? names t.attributes = some (before, (gap, a), after))
    (hmarks : Renderer.Marks marks) (hnames : ∀ n ∈ names, '-' ∈ n.toList) :
    (t.replace before gap marks after).directive? names = none := by
  have hothers := h.others hsplit
  have hnone : ∀ x ∈ (t.replace before gap marks after).attributes,
      isDirective names x.2 = false := by
    intro x hx
    rcases List.mem_append.1 hx with hx | hx
    · exact hothers x (List.mem_append_left _ hx)
    · rcases mem_splice hx with hx | ⟨y, hy, hyx⟩
      · exact isDirective_of_marks hmarks hnames hx
      · exact hyx ▸ hothers y (List.mem_append_right _ hy)
  rw [directive?, splitDirective?_eq_none hnone]
  rfl

end Tag

namespace Segment

/-! ## Conditions on a document -/

/-- If the segment is a tag, it has at most one directive. -/
def IsSingle (names : List String) : Segment → Prop
  | .tag t => t.IsSingle names
  | _ => True

/-- If the segment is a tag whose directive has an empty fragment, then the first character behind
the directive that is no white space is no equals sign. -/
def RemovalClear (names : List String) (e : Engine) : Segment → Prop
  | .tag t =>
    ∀ place ∈ t.directivePlace? names,
      (e.fragment (String.ofList (place.value.getD []))).1 = "" →
        ((t.source.drop place.stop).dropWhile isBlank).head? ≠ some '='
  | _ => True

/-- Nothing grows together where directives are removed one after another. -/
def RemovalsClear (names : List String) : Engine → List Segment → Prop
  | _, [] => True
  | e, s :: segs => s.RemovalClear names e ∧ RemovalsClear names (s.rewrite names e).2 segs

/-- Every tag that is begun is read: no bracket that opens nothing has a letter behind it. -/
def ScansSucceed : List Segment → Prop
  | [] => True
  | s :: segs => (s = bracket → startsWithLetter (sources segs) = false) ∧ ScansSucceed segs

instance (names : List String) (s : Segment) : Decidable (s.IsSingle names) :=
  match s with
  | .tag t => inferInstanceAs (Decidable (t.IsSingle names))
  | .text _ | .comment _ | .raw _ | .bracket => isTrue trivial

instance (names : List String) (e : Engine) (s : Segment) : Decidable (s.RemovalClear names e) :=
  match s with
  | .tag _ => inferInstanceAs (Decidable (∀ place ∈ _, _))
  | .text _ | .comment _ | .raw _ | .bracket => isTrue trivial

instance decidableRemovalsClear (names : List String) (e : Engine) (segs : List Segment) :
    Decidable (RemovalsClear names e segs) :=
  match segs with
  | [] => isTrue trivial
  | s :: segs =>
    have := decidableRemovalsClear names (s.rewrite names e).2 segs
    inferInstanceAs (Decidable (_ ∧ _))

instance decidableScansSucceed (segs : List Segment) : Decidable (ScansSucceed segs) :=
  match segs with
  | [] => isTrue trivial
  | _ :: segs =>
    have := decidableScansSucceed segs
    inferInstanceAs (Decidable (_ ∧ _))

variable {names : List String} {e : Engine} {t : Tag}

/-! ## One tag -/

/-- Where the fragment of a directive is empty, no equals sign comes up behind it. -/
lemma RemovalClear.head?_ne {before after : List Char} {a : Attribute}
    (h : (tag t).RemovalClear names e) (hdirective : t.directive? names = some (before, a, after))
    (hempty : (e.fragment (String.ofList (a.value?.getD []))).1 = "") :
    (after.dropWhile isBlank).head? ≠ some '=' := by
  have hplace := Tag.directivePlace?_eq names t
  rw [hdirective, Option.map_some] at hplace
  have hnext := h _ hplace hempty
  rw [Tag.source_of_directive? hdirective, List.drop_left] at hnext
  exact hnext

/-- **A tag is written again as a tag** of the same name, which has no directive.

**Proof sketch.** Without a directive the tag is copied. Otherwise the directive is replaced by the
attributes that the fragment consists of (`Engine.Writes.marks`), and the result is a tag
(`Tag.Fits.replace`). The attributes that stay are no directives because the tag had a single one,
and those that come in have other names. -/
lemma exists_rewrite_tag (hfits : t.Fits) (hsingle : t.IsSingle names)
    (hclear : (tag t).RemovalClear names e) (havoid : e.NamesAvoid '\'')
    (hnames : ∀ n ∈ names, '-' ∈ n.toList) :
    ∃ t' : Tag, ((tag t).rewrite names e).1 = t'.source ∧ t'.Fits ∧ t'.name = t.name ∧
      t'.body.head? = t.body.head? ∧ t'.directive? names = none := by
  cases hdirective : t.directive? names with
  | none =>
    exact ⟨t, by rw [rewrite_of_directive?_none hdirective], hfits, rfl, rfl, hdirective⟩
  | some r =>
    obtain ⟨s, a, s'⟩ := r
    have hwritten := rewrite_of_directive? (e := e) hdirective
    obtain ⟨before, gap, after, hsplit, hattributes, rfl, rfl⟩ :=
      Tag.exists_of_directive? hdirective
    have hwrites := e.fragment_writes (String.ofList (a.value?.getD []))
    obtain ⟨marks, hmarks, htext⟩ := hwrites.marks (havoid.fragment _)
    have hnext : marks = [] →
        ((Tag.attributesSource after ++ t.gap ++ ['>']).dropWhile isBlank).head? ≠ some '=' := by
      rintro rfl
      apply hclear.head?_ne hdirective
      simpa [Attribute.row] using htext
    refine ⟨t.replace before gap marks after, ?_, hfits.replace hattributes hmarks hnext, rfl,
      hfits.head?_body_replace hattributes marks, hsingle.directive?_replace hsplit hmarks hnames⟩
    rw [hwritten, Tag.source, Tag.body_replace, htext]
    simp

/-- A tag that is written again is read wherever the tag was. -/
lemma exists_readAfter_rewrite {s rest : List Char} (hletter : startsWithLetter s = true)
    (hread : Tag.readAfter s = some (t, rest)) (hsingle : t.IsSingle names)
    (hclear : (tag t).RemovalClear names e) (havoid : e.NamesAvoid '\'')
    (hnames : ∀ n ∈ names, '-' ∈ n.toList) :
    ∃ t' : Tag, ((tag t).rewrite names e).1 = '<' :: t'.body ∧ t'.name = t.name ∧
      t'.directive? names = none ∧
      ∀ rest', startsWithLetter (t'.body ++ rest') = true ∧
        Tag.readAfter (t'.body ++ rest') = some (t', rest') := by
  obtain ⟨rfl, hfits⟩ := Tag.readAfter_eq_some_iff.1 hread
  obtain ⟨t', hwritten, hfits', hname, hhead, hnone⟩ :=
    exists_rewrite_tag hfits hsingle hclear havoid hnames
  refine ⟨t', hwritten, hname, hnone, fun rest' => ⟨?_, Tag.readAfter_eq_some_iff.2 ⟨rfl, hfits'⟩⟩⟩
  exact (startsWithLetter_body hhead rest rest').trans hletter

/-! ## A document -/

/-- What is written agrees with what was there up to the first opening bracket. -/
lemma sameStart_rewriteAll (names : List String) (e : Engine) (segs : List Segment) :
    SameStart (sources segs) (rewriteAll names e segs).1 := by
  induction segs generalizing e with
  | nil => exact Text.sameStart_nil
  | cons s segs ih =>
    cases s with
    | tag t =>
      have hwritten : ∃ u, ((tag t).rewrite names e).1 = '<' :: u := by
        cases h : t.directive? names with
        | none => exact ⟨t.body, by rw [rewrite_of_directive?_none h]; rfl⟩
        | some r =>
          obtain ⟨before, a, after⟩ := r
          rw [rewrite_of_directive? h]
          exact ⟨_, rfl⟩
      obtain ⟨u, hu⟩ := hwritten
      rw [rewriteAll, hu]
      exact Text.sameStart_bracket _ _
    | text s => exact (ih e).append s
    | comment s => exact (ih e).append s
    | raw s => exact (ih e).append s
    | bracket => exact (ih e).append ['<']

/-- What is written for the segments of a text agrees with the text. -/
lemma sameStart_of_segmentation {s : List Char} {segs : List Segment} (h : Segmentation s segs)
    (names : List String) (e : Engine) : SameStart s (rewriteAll names e segs).1 := by
  have hsame := sameStart_rewriteAll names e segs
  rw [h.sources_eq] at hsame
  exact hsame

/-- A raw text is still closed where it was. -/
lemma closes_rewriteAll (names : List String) (e : Engine) {name s : List Char}
    {segs : List Segment} (h : Segmentation s segs) (hs : s = [] ∨ closes name s = true)
    (hname : '<' ∉ name) :
    closes name (rewriteAll names e segs).1 = closes name s := by
  rcases hs with rfl | hclose
  · rw [(sameStart_of_segmentation h names e).eq_nil]
  · obtain ⟨x, segs', rfl, rfl, hx⟩ := exists_of_closes h hclose
    exact ((sameStart_of_segmentation hx names e).closes hname).symm

/-- The names that an engine may write are the same after a segment. -/
lemma namesAvoid_rewrite {c : Char} (h : e.NamesAvoid c) (names : List String) (s : Segment) :
    (s.rewrite names e).2.NamesAvoid c := by
  rw [rewrite_eq_expand]
  exact h.expand _

/-- No tag among the segments has a directive. -/
def NoDirectives (names : List String) (segs : List Segment) : Prop :=
  ∀ t, tag t ∈ segs → t.directive? names = none

lemma noDirectives_tag_cons {segs : List Segment} (ht : t.directive? names = none)
    (h : NoDirectives names segs) : NoDirectives names (tag t :: segs) := by
  intro u hu
  rcases List.mem_cons.1 hu with hu | hu
  · obtain rfl : u = t := by simpa using hu
    exact ht
  · exact h u hu

/-- **What is written has segments without directives**, under the conditions above.

**Proof sketch.** Induction on the segmentation. Text runs, comments, raw texts and brackets are
copied, and they end where they did because what follows agrees with what followed up to the first
bracket (`sameStart_of_segmentation`). A tag is written again as a tag
(`exists_readAfter_rewrite`). -/
theorem exists_segmentation_rewriteAll {s : List Char} {segs : List Segment}
    (h : Segmentation s segs) (hscans : ScansSucceed segs)
    (hsingle : ∀ seg ∈ segs, seg.IsSingle names) (hclear : RemovalsClear names e segs)
    (havoid : e.NamesAvoid '\'') (hnames : ∀ n ∈ names, '-' ∈ n.toList) :
    ∃ segs', Segmentation (rewriteAll names e segs).1 segs' ∧ NoDirectives names segs' := by
  induction h generalizing e with
  | nil => exact ⟨[], .nil, by simp [NoDirectives]⟩
  | @text w rest segs hne hrun hrest ih =>
    obtain ⟨-, hsingle⟩ := List.forall_mem_cons.1 hsingle
    obtain ⟨segs', hsegs', hnone⟩ := ih (e := e) hscans.2 hsingle hclear.2 havoid
    have hsame := sameStart_of_segmentation hrest names e
    exact ⟨text w :: segs', .text hne (hrun.congr hsame.head?_eq) hsegs',
      by simpa [NoDirectives] using hnone⟩
  | @comment s before after segs hcut hrest ih =>
    obtain ⟨-, hsingle⟩ := List.forall_mem_cons.1 hsingle
    obtain ⟨segs', hsegs', hnone⟩ := ih (e := e) hscans.2 hsingle hclear.2 havoid
    have hend : after = [] → (rewriteAll names e segs).1 = [] := by
      rintro rfl
      exact (sameStart_of_segmentation hrest names e).eq_nil
    obtain ⟨hcut', htake, hdrop⟩ := hcut.closesComment hend
    rw [← hdrop] at hsegs'
    have hcomment := Segmentation.comment hcut' hsegs'
    rw [htake] at hcomment
    refine ⟨comment ('<' :: '!' :: '-' :: '-' :: (before ++ after.take 3)) :: segs', ?_, ?_⟩
    · simpa [rewriteAll, rewrite, source] using hcomment
    · simpa [NoDirectives] using hnone
  | @tag s rest t segs hletter hread hraw hrest ih =>
    obtain ⟨hone, hsingle⟩ := List.forall_mem_cons.1 hsingle
    obtain ⟨t', hwritten, hname, hnone', htag⟩ :=
      exists_readAfter_rewrite hletter hread hone hclear.1 havoid hnames
    have havoid' := namesAvoid_rewrite havoid names (tag t)
    obtain ⟨segs', hsegs', hnone⟩ := ih hscans.2 hsingle hclear.2 havoid'
    obtain ⟨hletter', hread'⟩ := htag (rewriteAll names ((tag t).rewrite names e).2 segs).1
    have hraw' : opensRaw t' = false := by rw [opensRaw, hname]; exact hraw
    refine ⟨tag t' :: segs', ?_, noDirectives_tag_cons hnone' hnone⟩
    rw [rewriteAll, hwritten]
    exact .tag hletter' hread' hraw' hsegs'
  | @rawTag s rest before after t segs hletter hread hraw hcut hrest ih =>
    obtain ⟨hone, hsingle⟩ := List.forall_mem_cons.1 hsingle
    obtain ⟨-, hsingle⟩ := List.forall_mem_cons.1 hsingle
    obtain ⟨t', hwritten, hname, hnone', htag⟩ :=
      exists_readAfter_rewrite hletter hread hone hclear.1 havoid hnames
    have havoid' := namesAvoid_rewrite havoid names (tag t)
    obtain ⟨e', he'⟩ : ∃ e', ((tag t).rewrite names e).2 = e' := ⟨_, rfl⟩
    rw [he'] at havoid'
    obtain ⟨segs', hsegs', hnone⟩ :=
      ih (e := e') hscans.2.2 hsingle (he' ▸ hclear.2.2) havoid'
    obtain ⟨hletter', hread'⟩ := htag (before ++ (rewriteAll names e' segs).1)
    have hraw' : opensRaw t' = true := by rw [opensRaw, hname]; exact hraw
    -- the raw text is closed where it was, and nowhere before
    have hbracket : '<' ∉ Text.lowerChars t.name := not_mem_of_opensRaw (by decide) hraw
    have hclose := closes_rewriteAll names e' hrest hcut.2.1 hbracket
    have hcut' := hcut.closes hbracket (sameStart_of_segmentation hrest names e') hclose
    rw [← hname] at hcut'
    have hnoneRaw : NoDirectives names (raw before :: segs') := by
      simpa [NoDirectives] using hnone
    refine ⟨tag t' :: raw before :: segs', ?_, noDirectives_tag_cons hnone' hnoneRaw⟩
    rw [rewriteAll, hwritten, he']
    exact .rawTag hletter' hread' hraw' hcut' hsegs'
  | @bracket s segs hcomment htag hrest ih =>
    obtain ⟨-, hsingle⟩ := List.forall_mem_cons.1 hsingle
    obtain ⟨hletter, hscans⟩ := hscans
    have hletter := hletter rfl
    obtain ⟨segs', hsegs', hnone⟩ := ih (e := e) hscans hsingle hclear.2 havoid
    have hsame := sameStart_of_segmentation hrest names e
    rw [hrest.sources_eq] at hletter
    have hcomment' : opensComment (rewriteAll names e segs).1 = false := by
      rw [opensComment, ← hsame.isPrefixOf (by decide)]
      exact hcomment
    have hletter' : startsWithLetter (rewriteAll names e segs).1 = false := by
      rw [startsWithLetter, ← hsame.head?_eq]
      exact hletter
    exact ⟨bracket :: segs', .bracket hcomment' (.inl hletter') hsegs',
      by simpa [NoDirectives] using hnone⟩

end Segment

namespace Expander

lemma hyphen_mem_attributeNames (r : Expander) :
    ∀ n ∈ r.attributeNames, '-' ∈ n.toList := by
  intro n hn
  obtain ⟨suffix, -, rfl⟩ := List.mem_map.1 hn
  simp [Settings.attributeName]

lemma directives_eq_nil {names : List String} {segs : List Segment}
    (h : Segment.NoDirectives names segs) :
    Piece.directives (segs.flatMap (Piece.ofSegment names)) = [] := by
  induction segs with
  | nil => rfl
  | cons s segs ih =>
    have hrest := ih fun t ht => h t (List.mem_cons_of_mem s ht)
    cases s with
    | tag t =>
      have ht := h t List.mem_cons_self
      simp only [List.flatMap_cons, Piece.ofSegment, Piece.ofTag, ht]
      exact hrest
    | text s => exact hrest
    | comment s => exact hrest
    | raw s => exact hrest
    | bracket => exact hrest

/-- **Expanding twice is expanding once.** If no name holds an apostrophe, every tag that is begun
is read, no tag has two directives, and no equals sign comes up where a directive is removed, then
an expanded document expands to itself and leaves the expander as it is. -/
theorem expand_expanded {r r' : Expander} {html out : String}
    (h : r.perform (.expand html) = (.ok (.plain (.text out)), r'))
    (havoid : r.engine.NamesAvoid '\'')
    (hscans : Segment.ScansSucceed (Segment.ofText html.toList))
    (hsingle : ∀ seg ∈ Segment.ofText html.toList, seg.IsSingle r.attributeNames)
    (hclear : Segment.RemovalsClear r.attributeNames r.engine (Segment.ofText html.toList)) :
    r'.perform (.expand out) = (.ok (.plain (.text out)), r') := by
  have hsegs := Segment.segmentation_ofText html.toList
  rw [perform_expand_of_segmentation hsegs (expandObstacle?_of_perform h)] at h
  simp only [Prod.mk.injEq, Except.ok.injEq, Reply.plain.injEq, Answer.text.injEq,
    Option.some.injEq] at h
  obtain ⟨hout, hr'⟩ := h
  have hnames : r'.attributeNames = r.attributeNames := by rw [← hr']; rfl
  obtain ⟨segs', hsegs', hnone⟩ := Segment.exists_segmentation_rewriteAll hsegs hscans hsingle
    hclear havoid r.hyphen_mem_attributeNames
  have hpieces : Piece.directives (r'.pieces out) = [] := by
    have hwritten : out.toList =
        (Segment.rewriteAll r.attributeNames r.engine (Segment.ofText html.toList)).1 := by
      rw [← hout, String.toList_ofList]
    rw [pieces, hnames, Piece.ofText, hwritten, ← segmentation_iff.1 hsegs']
    exact directives_eq_nil hnone
  obtain ⟨hexpand, hreach⟩ := Engine.expand_of_directives_nil (e := r'.engine) hpieces
  have hobstacle : r'.expandObstacle? out = none := by rw [expandObstacle?, hreach]
  rw [perform_expand hobstacle, hexpand, pieces, Piece.sources_ofText, String.ofList_toList]

/-- A document with a directive that is replaced and one that is removed. -/
theorem expand_expanded_minimal :
    ∃ r', minimal.perform (.expand
          "<p data-sd=\"Thing\" id=a><!-- x --><b data-sd=y c>&lt;</b>") =
        (.ok (.plain (.text
          "<p itemscope itemtype='https://schema.org/Thing' id=a><!-- x --><b  c>&lt;</b>")), r') ∧
      r'.perform (.expand
          "<p itemscope itemtype='https://schema.org/Thing' id=a><!-- x --><b  c>&lt;</b>") =
        (.ok (.plain (.text
          "<p itemscope itemtype='https://schema.org/Thing' id=a><!-- x --><b  c>&lt;</b>")), r') := by
  have hobstacle : minimal.expandObstacle?
      "<p data-sd=\"Thing\" id=a><!-- x --><b data-sd=y c>&lt;</b>" = none := by decide +kernel
  have h := perform_expand hobstacle
  have hout : String.ofList (minimal.engine.expand (minimal.pieces
      "<p data-sd=\"Thing\" id=a><!-- x --><b data-sd=y c>&lt;</b>")).1 =
      "<p itemscope itemtype='https://schema.org/Thing' id=a><!-- x --><b  c>&lt;</b>" := by
    decide +kernel
  rw [hout] at h
  have havoid : minimal.engine.NamesAvoid '\'' :=
    ⟨Vocabulary.namesAvoid_rootOnly (by decide), by decide +kernel⟩
  exact ⟨_, h, expand_expanded h havoid (by decide +kernel) (by decide +kernel) (by decide +kernel)⟩

end Expander

end SchemaMarkup
