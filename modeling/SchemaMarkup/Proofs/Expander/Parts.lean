import SchemaMarkup.Proofs.Engine.Expand
import SchemaMarkup.Proofs.Markup.Parts

set_option autoImplicit false

/-!
# Expanding in parts

Where the scan of a document stands at its head, the document can be cut: the first part is expanded,
and then the second part by the expander that is left. This comes to the same as expanding the whole
document, also if something is in the way of one of the parts.

## Main definitions

* `SchemaMarkup.Engine.Pass` — what comes of pieces, and `SchemaMarkup.Engine.pass` to pass them.

## Main results

* `SchemaMarkup.Engine.pass_append` — pieces are passed part by part.
* `SchemaMarkup.Expander.perform_expand_of_stands` — documents are expanded part by part.
-/

namespace SchemaMarkup

open Segment (Stands Joins)

namespace Engine

/-! ## Pieces in parts -/

/-- What comes of pieces up to the first directive that has no fragment: their text, the engine
behind them, and why that directive has none. -/
structure Pass where
  text : List Char
  engine : Engine
  obstacle : Option Vocabulary.Obstacle

/-- What comes of pieces. -/
def pass (e : Engine) (ps : List Piece) : Pass :=
  let reached := e.reach ps
  let written := e.expand reached.1
  ⟨written.1, written.2, reached.2⟩

namespace Pass

/-- What comes of pieces behind a text that stays. -/
def behind (p : Pass) (s : List Char) : Pass := { p with text := s ++ p.text }

/-- What comes of pieces and others behind them. The others are not met if something is in the
way. -/
def andThen (p : Pass) (ps : List Piece) : Pass :=
  match p.obstacle with
  | some _ => p
  | none => (p.engine.pass ps).behind p.text

lemma andThen_behind (p : Pass) (s : List Char) (ps : List Piece) :
    (p.behind s).andThen ps = (p.andThen ps).behind s := by
  obtain ⟨text, engine, obstacle⟩ := p
  cases obstacle with
  | some o => rfl
  | none => simp [andThen, behind]

end Pass

@[simp] lemma pass_nil (e : Engine) : e.pass [] = ⟨[], e, none⟩ := rfl

@[simp] lemma pass_copied (e : Engine) (s : List Char) (ps : List Piece) :
    e.pass (.copied s :: ps) = (e.pass ps).behind s := rfl

/-- What comes of a directive and the pieces behind it. -/
lemma pass_directive (e : Engine) (a : Attribute) (d : String) (ps : List Piece) :
    e.pass (.directive a d :: ps) =
      Pass.andThen ⟨(e.fragment d).1.toList, (e.fragment d).2, e.fragmentObstacle? d⟩ ps := by
  rw [pass, reach, Pass.andThen]
  cases e.fragmentObstacle? d with
  | some o => simp [expand]
  | none => simp only [expand, pass, Pass.behind]

/-- **Pieces are passed part by part.** -/
theorem pass_append (e : Engine) (ps qs : List Piece) :
    e.pass (ps ++ qs) = (e.pass ps).andThen qs := by
  induction ps generalizing e with
  | nil => rfl
  | cons p ps ih =>
    cases p with
    | copied s => rw [List.cons_append, pass_copied, pass_copied, ih, Pass.andThen_behind]
    | directive a d =>
      rw [List.cons_append, pass_directive, pass_directive]
      cases e.fragmentObstacle? d with
      | some o => rfl
      | none =>
        show ((e.fragment d).2.pass (ps ++ qs)).behind _ =
          (((e.fragment d).2.pass ps).behind _).andThen qs
        rw [ih, Pass.andThen_behind]

/-- A bracket comes to the same behind a raw text and in it. -/
lemma pass_of_joins {before before' : List Segment} (h : Joins before before')
    (names : List String) (e : Engine) :
    e.pass (before.flatMap (Piece.ofSegment names)) =
      e.pass (before'.flatMap (Piece.ofSegment names)) := by
  cases h with
  | refl => rfl
  | raw segs w =>
    -- the segments in front are the same, and both endings are copied
    have hraw : ∀ e : Engine, e.pass ([.raw w, .bracket].flatMap (Piece.ofSegment names)) =
        e.pass ([.raw (w ++ ['<'])].flatMap (Piece.ofSegment names)) := by
      intro e
      simp [Piece.ofSegment, Segment.source, Pass.behind]
    rw [List.flatMap_append, List.flatMap_append, pass_append, pass_append, Pass.andThen,
      Pass.andThen, hraw]

/-- What comes of a document is what comes of two parts that meet where the scan stands at its
head. -/
lemma pass_of_stands {s : List Char} {k : Nat} (h : Stands s k) (names : List String)
    (e : Engine) :
    e.pass (Piece.ofText names s) =
      (e.pass (Piece.ofText names (s.take k))).andThen (Piece.ofText names (s.drop k)) := by
  obtain ⟨before, before', after, hsegs, hjoins, hfirst, hsecond⟩ := h.exists_ofText
  rw [Piece.ofText, Piece.ofText, Piece.ofText, hsegs, hfirst, hsecond, List.flatMap_append,
    pass_append, pass_of_joins hjoins]

end Engine

namespace Expander

variable {r : Expander}

/-! ## Documents in parts -/

/-- The answer when pieces are passed, and the expander with the engine that is left. -/
def replyTo (r : Expander) (p : Engine.Pass) : Except Fault Reply × Expander :=
  (match p.obstacle with
    | some o => .error (.obstacle o)
    | none => .ok (.plain (.text (String.ofList p.text))),
    { r with engine := p.engine })

/-- A document is expanded by passing its pieces. -/
lemma perform_expand_eq_replyTo (r : Expander) (html : String) :
    r.perform (.expand html) = r.replyTo (r.engine.pass (r.pieces html)) := by
  have hobstacle : (r.engine.pass (r.pieces html)).obstacle = r.expandObstacle? html := rfl
  rw [replyTo, hobstacle, perform, fault?]
  cases r.expandObstacle? html with
  | some o => rfl
  | none => rfl

/-- There is an answer if the parents of all types are named, and the vocabulary stays. -/
lemma exists_perform_expand (h : r.engine.vocabulary.ParentsNamed) (html : String) :
    ∃ a, (r.perform (.expand html)).1 = .ok a ∧
      (r.perform (.expand html)).2.engine.vocabulary = r.engine.vocabulary := by
  rw [perform_expand (expandObstacle?_eq_none h html)]
  exact ⟨_, rfl, Engine.expand_vocabulary _ _⟩

/-- What is answered for pieces and others behind them. -/
lemma replyTo_andThen (r : Expander) (p : Engine.Pass) (ps : List Piece) :
    let first := r.replyTo p
    let second := first.2.replyTo (p.engine.pass ps)
    (∀ f, first.1 = .error f → r.replyTo (p.andThen ps) = (.error f, first.2)) ∧
      (∀ a f, first.1 = .ok a → second.1 = .error f →
        r.replyTo (p.andThen ps) = (.error f, second.2)) ∧
      ∀ a b, first.1 = .ok a → second.1 = .ok b →
        ∃ s t, a = .plain (.text (some s)) ∧ b = .plain (.text (some t)) ∧
          r.replyTo (p.andThen ps) = (.ok (.plain (.text (some (s ++ t)))), second.2) := by
  obtain ⟨text, engine, obstacle⟩ := p
  cases obstacle with
  | some o =>
    refine ⟨fun f hf => ?_, by simp [replyTo], by simp [replyTo]⟩
    simpa [replyTo, Engine.Pass.andThen] using hf
  | none =>
    have hstate : (Engine.Pass.andThen ⟨text, engine, none⟩ ps) = (engine.pass ps).behind text :=
      rfl
    simp only [hstate]
    obtain ⟨text', engine', obstacle'⟩ := engine.pass ps
    cases obstacle' with
    | some o => simp [replyTo, Engine.Pass.behind]
    | none => simp [replyTo, Engine.Pass.behind]

/-- **A document is expanded part by part**, if the parts meet where the scan stands at its head. What
fails in a part fails in the document, and leaves the same expander; and what is written for the
parts is written for the document. Nothing fails if the parents of all types are named. The segments
of the parts are those of the document, but that a bracket behind a raw text belongs to it when the
document is cut there.

**Proof sketch.** The segments of the parts (`Segmentation.exists_joins`, `Segmentation.drop`) have
the pieces of the document, or come to the same (`Engine.pass_of_joins`), and pieces are passed part
by part (`Engine.pass_append`). -/
theorem perform_expand_of_stands (r : Expander) (html : String) (k : Nat)
    (h : Stands html.toList k) :
    let first := r.perform (.expand (String.ofList (html.toList.take k)))
    let second := first.2.perform (.expand (String.ofList (html.toList.drop k)))
    (∀ f, first.1 = .error f → r.perform (.expand html) = (.error f, first.2)) ∧
      (∀ a f, first.1 = .ok a → second.1 = .error f →
        r.perform (.expand html) = (.error f, second.2)) ∧
      (∀ a b, first.1 = .ok a → second.1 = .ok b →
        ∃ s t, a = .plain (.text (some s)) ∧ b = .plain (.text (some t)) ∧
          r.perform (.expand html) = (.ok (.plain (.text (some (s ++ t)))), second.2)) ∧
      (r.engine.vocabulary.ParentsNamed → ∃ a b, first.1 = .ok a ∧ second.1 = .ok b) ∧
      ∃ before before' after, Segment.ofText html.toList = before ++ after ∧
        Joins before before' ∧ Segment.ofText (html.toList.take k) = before' ∧
        Segment.ofText (html.toList.drop k) = after := by
  intro first second
  obtain ⟨p, hp⟩ : ∃ p, r.engine.pass (r.pieces (String.ofList (html.toList.take k))) = p :=
    ⟨_, rfl⟩
  have hfirst : first = r.replyTo p := hp ▸ r.perform_expand_eq_replyTo _
  have hsecond : second = first.2.replyTo
      (p.engine.pass (r.pieces (String.ofList (html.toList.drop k)))) := by
    rw [show second = first.2.perform _ from rfl, perform_expand_eq_replyTo, hfirst]
    rfl
  have hwhole : r.perform (.expand html) =
      r.replyTo (p.andThen (r.pieces (String.ofList (html.toList.drop k)))) := by
    rw [perform_expand_eq_replyTo, pieces, Engine.pass_of_stands h, ← hp, pieces, pieces,
      String.toList_ofList, String.toList_ofList]
  obtain ⟨hfails, hfails', hwrites⟩ := r.replyTo_andThen p
    (r.pieces (String.ofList (html.toList.drop k)))
  have hanswers : r.engine.vocabulary.ParentsNamed →
      ∃ a b, first.1 = .ok a ∧ second.1 = .ok b := by
    intro hparents
    obtain ⟨a, ha, hvocabulary⟩ := exists_perform_expand hparents _
    obtain ⟨b, hb, -⟩ := exists_perform_expand (hvocabulary ▸ hparents) _
    exact ⟨a, b, ha, hb⟩
  rw [hsecond, hfirst] at hanswers
  rw [hwhole, hsecond, hfirst]
  exact ⟨hfails, hfails', hwrites, hanswers, h.exists_ofText⟩

/-- The second bracket opens a tag that does not end. A document that is cut behind it has the bracket
in its first part. -/
theorem perform_expand_of_stands_minimal :
    let first := minimal.perform (.expand "<i data-sd=Thing><")
    let second := first.2.perform (.expand "b data-sd='")
    Stands "<i data-sd=Thing><b data-sd='".toList 18 ∧ minimal.engine.vocabulary.ParentsNamed ∧
      ∃ s t, first.1 = .ok (.plain (.text (some s))) ∧
        second.1 = .ok (.plain (.text (some t))) ∧
        minimal.perform (.expand "<i data-sd=Thing><b data-sd='") =
          (.ok (.plain (.text (some (s ++ t)))), second.2) := by
  intro first second
  have htag : Segment.readMarkup "i data-sd=Thing><b data-sd='".toList =
      ([.tag ⟨['i'], [([' '], ⟨"data-sd".toList, some ⟨[], [], none, "Thing".toList⟩⟩)], []⟩],
        '<' :: "b data-sd='".toList) := by
    decide +kernel
  have hbracket : Segment.readMarkup "b data-sd='".toList = ([.bracket], "b data-sd='".toList) := by
    decide +kernel
  have hstands : Stands "<i data-sd=Thing><b data-sd='".toList 18 := by
    have hrest : Stands ('<' :: "b data-sd='".toList) 1 := by
      have hturn := Stands.turn (w := []) (by simp)
        (Stands.start (Segment.readMarkup "b data-sd='".toList).2)
      rwa [hbracket] at hturn
    have hturn := Stands.turn (w := []) (s := "i data-sd=Thing><b data-sd='".toList) (by simp)
      (by rwa [htag])
    rwa [htag] at hturn
  have hparents : minimal.engine.vocabulary.ParentsNamed := by decide +kernel
  obtain ⟨-, -, hwrites, hanswers, -⟩ := perform_expand_of_stands minimal _ 18 hstands
  obtain ⟨a, b, ha, hb⟩ := hanswers hparents
  obtain ⟨s, t, rfl, rfl, hwhole⟩ := hwrites a b ha hb
  exact ⟨hstands, hparents, s, t, ha, hb, hwhole⟩

end Expander

end SchemaMarkup
