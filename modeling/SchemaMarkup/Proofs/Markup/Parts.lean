import Mathlib.Data.List.Basic
import SchemaMarkup.Proofs.Markup.Grammar
import SchemaMarkup.Proofs.Markup.Locality
import SchemaMarkup.Proofs.Text.Lower

set_option autoImplicit false

/-!
# Documents in parts

A document can be read in two parts that meet where the scan stands at its head. The second part has
the segments that are left there. The first part has the segments that were read, with one exception:
the opening bracket of the tag that closes a raw text still belongs to the raw text when nothing of
the tag follows.

## Main definitions

* `SchemaMarkup.Segment.Stands` — the offsets at which the scan stands at its head.
* `SchemaMarkup.Segment.isBoundary` — the scan stands at its head behind some segments.
* `SchemaMarkup.Segment.Joins` — the segments of the first part.

## Main results

* `SchemaMarkup.Segment.exists_of_stands` — the scan stands at its head between segments.
* `SchemaMarkup.Segmentation.drop` — the segments of the second part.
* `SchemaMarkup.Segmentation.exists_joins` — the segments of the first part.
* `SchemaMarkup.Segment.Stands.exists_ofText` — the segments of both parts.
-/

namespace SchemaMarkup

open Text (CutsBefore IsRun SameStart)

namespace Segment

/-! ## Where the scan stands -/

/-- The scan of a text stands at its head at an offset: at the beginning, or after turns. A turn
passes over the text up to the next opening bracket and reads what the bracket begins. -/
inductive Stands : List Char → Nat → Prop
  | start (s : List Char) : Stands s 0
  | turn {w s : List Char} {k : Nat} (hw : '<' ∉ w) (h : Stands (readMarkup s).2 k) :
      Stands (w ++ '<' :: s) (w.length + (sources (readMarkup s).1).length + k)

/-- The segment ends a turn: it is neither a run of text nor a tag with raw text behind it. -/
def endsTurn : Segment → Bool
  | text _ => false
  | tag t => !opensRaw t
  | _ => true

/-- The scan stands at its head behind the segments: there are none, or the last one ends a turn. -/
def isBoundary (segs : List Segment) : Bool := segs.getLast?.all endsTurn

variable {seg : Segment} {segs before after : List Segment} {s : List Char}

@[simp] lemma isBoundary_singleton (seg : Segment) : isBoundary [seg] = endsTurn seg := rfl

/-- The last segments decide. -/
lemma isBoundary_append (segs : List Segment) (hne : before ≠ []) :
    isBoundary (segs ++ before) = isBoundary before := by
  rw [isBoundary, isBoundary, List.getLast?_append_of_ne_nil segs hne]

lemma isBoundary_of_cons (h : isBoundary (seg :: before) = true) : isBoundary before = true := by
  cases before with
  | nil => rfl
  | cons seg' before =>
    rw [← isBoundary_append [seg] (List.cons_ne_nil seg' before)]
    exact h

/-- What an opening bracket begins ends a turn. -/
lemma isBoundary_readMarkup (s : List Char) :
    (readMarkup s).1 ≠ [] ∧ isBoundary (readMarkup s).1 = true := by
  rw [readMarkup.eq_def]
  split
  · exact ⟨by simp, rfl⟩
  · rw [readTag]
    split
    · split
      · exact ⟨by simp, rfl⟩
      · split
        · exact ⟨by simp, rfl⟩
        · rename_i hraw
          exact ⟨by simp, by simpa [endsTurn] using hraw⟩
    · exact ⟨by simp, rfl⟩

/-- The segments of a text with an opening bracket. -/
lemma exists_ofText_eq {w : List Char} (hw : '<' ∉ w) (s : List Char) :
    ∃ run, sources run = w ∧
      ofText (w ++ '<' :: s) = run ++ ((readMarkup s).1 ++ ofText (readMarkup s).2) := by
  by_cases hne : w = []
  · subst hne
    exact ⟨[], rfl, ofText_bracket s⟩
  · have hrun : IsRun (· != '<') w ('<' :: s) := by
      refine Text.isRun_cons (fun c hc => ?_) (by simp)
      have hcne : c ≠ '<' := fun h => hw (h ▸ hc)
      simpa using hcne
    exact ⟨[text w], by simp [source], by rw [ofText_run hne hrun, ofText_bracket]; rfl⟩

/-- **The scan stands at its head between segments.** -/
theorem exists_of_stands {k : Nat} (h : Stands s k) :
    ∃ before after, ofText s = before ++ after ∧ isBoundary before = true ∧
      k = (sources before).length := by
  induction h with
  | start s => exact ⟨[], ofText s, rfl, rfl, rfl⟩
  | @turn w s k hw _ ih =>
    obtain ⟨before, after, hsplit, hboundary, rfl⟩ := ih
    obtain ⟨run, hrun, hsegs⟩ := exists_ofText_eq hw s
    obtain ⟨hne, hread⟩ := isBoundary_readMarkup s
    refine ⟨run ++ ((readMarkup s).1 ++ before), after, ?_, ?_, ?_⟩
    · rw [hsegs, hsplit]
      simp
    · rw [isBoundary_append run (by simp [hne])]
      by_cases hbefore : before = []
      · subst hbefore
        simpa using hread
      · rwa [isBoundary_append _ hbefore]
    · rw [sources_append, sources_append, hrun]
      simp [Nat.add_assoc]

/-! ## Reading a shorter text -/

variable {x y : List Char} {t : Tag}

lemma startsWithLetter_append (h : startsWithLetter x = true) (y : List Char) :
    startsWithLetter (x ++ y) = true := by
  cases x with
  | nil => simp [startsWithLetter] at h
  | cons c x => exact h

lemma opensComment_append (h : opensComment x = true) (y : List Char) :
    opensComment (x ++ y) = true := by
  rw [opensComment, List.isPrefixOf_iff_prefix] at h ⊢
  exact h.trans (List.prefix_append x y)

/-- A tag that is read in the beginning of a text is read in the text. -/
lemma readAfter_append {rest : List Char} (h : Tag.readAfter x = some (t, rest))
    (y : List Char) : Tag.readAfter (x ++ y) = some (t, rest ++ y) := by
  obtain ⟨rfl, hfits⟩ := Tag.readAfter_eq_some_iff.1 h
  exact Tag.readAfter_eq_some_iff.2 ⟨by rw [List.append_assoc], hfits⟩

/-- A tag is read where it ends in the beginning of a text. -/
lemma readAfter_body (hletter : startsWithLetter s = true)
    (hread : Tag.readAfter s = some (t, x ++ y)) :
    startsWithLetter (t.body ++ x) = true ∧ Tag.readAfter (t.body ++ x) = some (t, x) := by
  obtain ⟨rfl, hfits⟩ := Tag.readAfter_eq_some_iff.1 hread
  refine ⟨?_, Tag.readAfter_eq_some_iff.2 ⟨rfl, hfits⟩⟩
  exact (startsWithLetter_body rfl (x ++ y) x).trans hletter

/-- A bracket that opens nothing in a text opens nothing in its beginning. -/
lemma opensNothing_of_append (hcomment : opensComment (x ++ y) = false)
    (htag : startsWithLetter (x ++ y) = false ∨ Tag.readAfter (x ++ y) = none) :
    opensComment x = false ∧ (startsWithLetter x = false ∨ Tag.readAfter x = none) := by
  refine ⟨?_, ?_⟩
  · rw [← Bool.not_eq_true] at hcomment ⊢
    exact fun h => hcomment (opensComment_append h y)
  · rcases htag with hletter | hnone
    · rw [← Bool.not_eq_true] at hletter
      exact .inl (Bool.not_eq_true _ ▸ fun h => hletter (startsWithLetter_append h y))
    · refine .inr (Option.eq_none_iff_forall_ne_some.2 fun r hr => ?_)
      rw [readAfter_append hr y] at hnone
      simp at hnone

/-! ## Cuts in a shorter text -/

/-- A closing tag in the beginning of a text is one in the text. -/
lemma closes_append {name : List Char} (hname : Text.combiningDot ∉ name)
    (h : closes name s = true) (t : List Char) : closes name (s ++ t) = true := by
  unfold closes at h
  split at h
  · rename_i rest
    have heq : Text.lowerChars (rest.take name.length) = name := by simpa using h
    -- the whole name is there: its lower-case form is no longer than the name itself
    have hlength := Text.length_lowerChars (heq.symm ▸ hname)
    rw [heq, List.length_take] at hlength
    have hle : name.length ≤ rest.length := by omega
    rw [List.cons_append, List.cons_append, closes, List.take_append_of_le_length hle]
    exact h
  · simp at h

/-- A raw text that is cut off inside its closing tag runs to the end, if what is left of the closing
tag closes nothing. -/
lemma cutsBefore_of_append {name w x y : List Char} (hname : Text.combiningDot ∉ name)
    (h : CutsBefore (closes name) s w (x ++ y))
    (hx : ∀ u v, u ++ v = x → v ≠ [] → closes name v = false) :
    CutsBefore (closes name) (w ++ x) (w ++ x) [] := by
  obtain ⟨-, -, hbefore⟩ := h
  refine ⟨List.append_nil _, .inl rfl, fun u v huv hv => ?_⟩
  rw [List.append_nil]
  rcases List.append_eq_append_iff.1 huv with ⟨v', rfl, rfl⟩ | ⟨u', rfl, rfl⟩
  · by_cases hv' : v' = []
    · subst hv'
      exact hx [] x rfl hv
    · rw [← Bool.not_eq_true]
      intro hclose
      have hlonger := closes_append hname hclose y
      rw [List.append_assoc, hbefore u v' rfl hv'] at hlonger
      exact Bool.false_ne_true hlonger
  · exact hx u' v rfl hv

/-! ## The first part and the second part -/

/-- The segments of the first part of a document that is cut behind some segments: the same, but
that a bracket behind a raw text belongs to it. -/
inductive Joins : List Segment → List Segment → Prop
  | refl (segs : List Segment) : Joins segs segs
  | raw (segs : List Segment) (w : List Char) :
      Joins (segs ++ [raw w, bracket]) (segs ++ [raw (w ++ ['<'])])

lemma Joins.cons (h : Joins before after) (seg : Segment) :
    Joins (seg :: before) (seg :: after) := by
  cases h with
  | refl => exact .refl _
  | raw segs w => exact .raw (seg :: segs) w

end Segment

open Segment

namespace Segmentation

variable {s : List Char} {after : List Segment}

/-- **The segments of the second part** are those that are left where the scan stands. -/
theorem drop : ∀ {before : List Segment} {s : List Char}, Segmentation s (before ++ after) →
    isBoundary before = true → Segmentation (sources after) after
  | [], s, h, _ => by
    rw [List.nil_append] at h
    rwa [h.sources_eq]
  | seg :: before, s, h, hboundary => by
    have htail := isBoundary_of_cons hboundary
    rw [List.cons_append] at h
    generalize hsegs : before ++ after = segs at h
    cases h with
    | text _ _ hrest => exact (hsegs ▸ hrest).drop htail
    | comment _ hrest => exact (hsegs ▸ hrest).drop htail
    | tag _ _ _ hrest => exact (hsegs ▸ hrest).drop htail
    | bracket _ _ hrest => exact (hsegs ▸ hrest).drop htail
    | rawTag _ _ hraw _ hrest =>
      cases before with
      | nil => simp [endsTurn, hraw] at hboundary
      | cons seg' before =>
        obtain ⟨rfl, rfl⟩ := List.cons.inj hsegs
        exact hrest.drop (isBoundary_of_cons htail)

/-- The first part agrees with the document up to the first opening bracket. -/
lemma sameStart : ∀ {before : List Segment} {s : List Char}, Segmentation s (before ++ after) →
    isBoundary before = true → before ≠ [] → SameStart s (sources before)
  | [], _, _, _, hne => absurd rfl hne
  | seg :: before, s, h, hboundary, _ => by
    have htail := isBoundary_of_cons hboundary
    rw [List.cons_append] at h
    generalize hsegs : before ++ after = segs at h
    cases h with
    | @text w rest _ _ _ hrest =>
      have hne : before ≠ [] := by
        rintro rfl
        simp [endsTurn] at hboundary
      exact ((hsegs ▸ hrest).sameStart htail hne).append w
    | comment => exact Text.sameStart_bracket _ _
    | tag => exact Text.sameStart_bracket _ _
    | bracket => exact Text.sameStart_bracket _ _
    | rawTag => exact Text.sameStart_bracket _ _

/-- The text of a segmentation in two parts. -/
lemma eq_append {before : List Segment} (h : Segmentation s (before ++ after)) :
    s = sources before ++ sources after := by
  rw [← h.sources_eq, sources_append]

/-- A raw text in the first part of a document ends where it did, unless nothing but the bracket of
its closing tag follows. Then it runs to the end. -/
lemma cutsBefore_sources {name rest w u : List Char} {before : List Segment}
    (hbracket : '<' ∉ name) (hdot : Text.combiningDot ∉ name)
    (hcut : CutsBefore (closes name) rest w u) (h : Segmentation u (before ++ after))
    (hboundary : isBoundary before = true) :
    CutsBefore (closes name) (w ++ sources before) w (sources before) ∨
      before = [.bracket] ∧ CutsBefore (closes name) (w ++ ['<']) (w ++ ['<']) [] := by
  cases before with
  | nil =>
    have hnil := cutsBefore_of_append (x := []) hdot hcut (by simp)
    rw [List.append_nil] at hnil
    rw [sources_nil, List.append_nil]
    exact .inl hnil
  | cons seg before =>
    have hne : u ≠ [] := by
      rintro rfl
      have hsegs := segmentation_iff.1 h
      rw [ofText] at hsegs
      simp at hsegs
    have hclose := hcut.2.1.resolve_left hne
    obtain ⟨x, segs, rfl, hsegs, hx⟩ := exists_of_closes h hclose
    obtain ⟨rfl, rfl⟩ := List.cons.inj hsegs
    by_cases hbefore : before = []
    · subst hbefore
      refine .inr ⟨rfl, cutsBefore_of_append (x := ['<']) hdot hcut fun u v huv hv => ?_⟩
      cases u with
      | nil =>
        obtain rfl : v = ['<'] := huv
        rfl
      | cons c u => simp [hv] at huv
    · -- what follows the bracket is there up to the next one, and the name holds none
      have hsame := hx.sameStart (isBoundary_of_cons hboundary) hbefore
      exact .inl (hcut.closes hbracket (Text.sameStart_bracket x (sources before))
        (hsame.closes hbracket).symm)

/-- **The segments of the first part** are those that were read, but that a bracket behind a raw text
belongs to it.

**Proof sketch.** Recursion on the segments. A text run, a comment and a tag end where they did
because they are complete (`CutsBefore.closesComment`, `readAfter_body`), and a bracket opens nothing
in the first part if it opens nothing in the document (`opensNothing_of_append`). The raw text behind
a tag is the one case in which the rest of the document is missed (`cutsBefore_sources`). -/
theorem exists_joins : ∀ {before : List Segment} {s : List Char}, Segmentation s (before ++ after) →
    isBoundary before = true →
    ∃ before', Joins before before' ∧ Segmentation (sources before) before'
  | [], _, _, _ => ⟨[], .refl [], .nil⟩
  | seg :: before, s, h, hboundary => by
    have htail := isBoundary_of_cons hboundary
    rw [List.cons_append] at h
    generalize hsegs : before ++ after = segs at h
    cases h with
    | @text w rest _ hne hrun hrest =>
      subst hsegs
      obtain ⟨before', hjoins, hbefore'⟩ := hrest.exists_joins htail
      have hrun' : IsRun (· != '<') w (sources before) := by
        refine ⟨hrun.1, fun c hc => hrun.2 c ?_⟩
        rw [hrest.eq_append, List.head?_append, hc]
        rfl
      exact ⟨_, hjoins.cons _, .text hne hrun' hbefore'⟩
    | @comment s w x _ hcut hrest =>
      subst hsegs
      obtain ⟨before', hjoins, hbefore'⟩ := hrest.exists_joins htail
      have hend : x = [] → sources before = [] := by
        rintro rfl
        exact (List.append_eq_nil_iff.1 hrest.eq_append.symm).1
      obtain ⟨hcut', htake, hdrop⟩ := hcut.closesComment hend
      rw [← hdrop] at hbefore'
      have hcomment := Segmentation.comment hcut' hbefore'
      rw [htake] at hcomment
      exact ⟨_, hjoins.cons _, by simpa [source] using hcomment⟩
    | @tag s rest t _ hletter hread hraw hrest =>
      subst hsegs
      obtain ⟨before', hjoins, hbefore'⟩ := hrest.exists_joins htail
      rw [hrest.eq_append] at hread
      obtain ⟨hletter', hread'⟩ := readAfter_body hletter hread
      exact ⟨_, hjoins.cons _, .tag hletter' hread' hraw hbefore'⟩
    | @bracket s _ hcomment htag hrest =>
      subst hsegs
      obtain ⟨before', hjoins, hbefore'⟩ := hrest.exists_joins htail
      rw [hrest.eq_append] at hcomment htag
      obtain ⟨hcomment', htag'⟩ := opensNothing_of_append hcomment htag
      exact ⟨_, hjoins.cons _, .bracket hcomment' htag' hbefore'⟩
    | @rawTag s rest w u t _ hletter hread hraw hcut hrest =>
      cases before with
      | nil => simp [endsTurn, hraw] at hboundary
      | cons seg' before =>
        obtain ⟨rfl, rfl⟩ := List.cons.inj hsegs
        have htail := isBoundary_of_cons htail
        obtain rfl := hcut.1
        have hbracket : '<' ∉ Text.lowerChars t.name := not_mem_of_opensRaw (by decide) hraw
        have hdot : Text.combiningDot ∉ Text.lowerChars t.name :=
          not_mem_of_opensRaw (by decide) hraw
        rcases cutsBefore_sources hbracket hdot hcut hrest htail with hcut' | ⟨rfl, hcut'⟩
        · obtain ⟨before', hjoins, hbefore'⟩ := hrest.exists_joins htail
          rw [hrest.eq_append, ← List.append_assoc] at hread
          obtain ⟨hletter', hread'⟩ := readAfter_body hletter hread
          exact ⟨_, (hjoins.cons _).cons _, .rawTag hletter' hread' hraw hcut' hbefore'⟩
        · have hu : w ++ u = w ++ ['<'] ++ sources after := by
            rw [hrest.eq_append, List.append_assoc]
            rfl
          rw [hu] at hread
          obtain ⟨hletter', hread'⟩ := readAfter_body hletter hread
          exact ⟨_, .raw [.tag t] w, .rawTag hletter' hread' hraw hcut' .nil⟩

end Segmentation

/-- **The segments of two parts** that meet where the scan stands at its head. -/
theorem Segment.Stands.exists_ofText {s : List Char} {k : Nat} (h : Stands s k) :
    ∃ before before' after, ofText s = before ++ after ∧ Joins before before' ∧
      ofText (s.take k) = before' ∧ ofText (s.drop k) = after := by
  obtain ⟨before, after, hsegs, hboundary, rfl⟩ := exists_of_stands h
  have hs := segmentation_iff.2 hsegs.symm
  obtain ⟨before', hjoins, hfirst⟩ := hs.exists_joins hboundary
  have htake : s.take (sources before).length = sources before := by
    rw [hs.eq_append, List.take_left]
  have hdrop : s.drop (sources before).length = sources after := by
    rw [hs.eq_append, List.drop_left]
  refine ⟨before, before', after, hsegs, hjoins, ?_, ?_⟩
  · rw [htake, ← segmentation_iff.1 hfirst]
  · rw [hdrop, ← segmentation_iff.1 (hs.drop hboundary)]

end SchemaMarkup
