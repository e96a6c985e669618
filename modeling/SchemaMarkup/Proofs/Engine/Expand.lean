import SchemaMarkup.Expander.Command
import SchemaMarkup.Proofs.Engine.Fragment

set_option autoImplicit false

/-!
# Expanding pieces

What one directive keeps, any number of pieces keep. When every directive has a fragment all pieces
are reached, and then the text of a document is what becomes of its pieces.

## Main definitions

* `SchemaMarkup.Expander.minimal` — an expander to look at.

## Main results

* `SchemaMarkup.Engine.reach_eq_of_parentsNamed` — nothing is in the way if all parents are named.
* `SchemaMarkup.Expander.perform_expand` — the answer when nothing is in the way.
* `SchemaMarkup.Expander.exists_expand_eq_append` — where the fragment of a directive is inserted.
-/

namespace SchemaMarkup

namespace Engine

variable {e : Engine}

/-! ## What stays -/

@[simp] lemma expand_renderer (e : Engine) (ps : List Piece) :
    (e.expand ps).2.renderer = e.renderer := by
  induction ps generalizing e with
  | nil => rfl
  | cons p ps ih => cases p <;> simp [expand, ih]

@[simp] lemma expand_vocabulary (e : Engine) (ps : List Piece) :
    (e.expand ps).2.vocabulary = e.vocabulary := by
  induction ps generalizing e with
  | nil => rfl
  | cons p ps ih => cases p <;> simp [expand, ih]

@[simp] lemma expand_enabled (e : Engine) (ps : List Piece) :
    (e.expand ps).2.enabled = e.enabled := by
  induction ps generalizing e with
  | nil => rfl
  | cons p ps ih => cases p <;> simp [expand, ih]

/-- The names that an engine may write are the same after any number of pieces. -/
lemma NamesAvoid.expand {c : Char} (h : e.NamesAvoid c) (ps : List Piece) :
    (e.expand ps).2.NamesAvoid c := by
  rw [NamesAvoid, expand_vocabulary, expand_renderer]
  exact h

/-! ## Reaching the end -/

/-- All pieces are reached if the parents of all types are named. -/
theorem reach_eq_of_parentsNamed (h : e.vocabulary.ParentsNamed) (ps : List Piece) :
    e.reach ps = (ps, none) := by
  induction ps generalizing e with
  | nil => rfl
  | cons p ps ih =>
    cases p with
    | copied s => rw [reach, ih h]
    | directive a d =>
      rw [reach, fragmentObstacle?_eq_none h d]
      simp only
      rw [ih (by simpa using h)]

/-- All pieces are reached if nothing is in the way. -/
lemma reach_fst_of_none {ps : List Piece} (h : (e.reach ps).2 = none) :
    (e.reach ps).1 = ps := by
  induction ps generalizing e with
  | nil => rfl
  | cons p ps ih =>
    cases p with
    | copied s =>
      rw [reach] at h ⊢
      rw [ih h]
    | directive a d =>
      cases ho : e.fragmentObstacle? d with
      | some o => simp [reach, ho] at h
      | none =>
        simp only [reach, ho] at h ⊢
        rw [ih h]

/-! ## Pieces with no directive -/

/-- Pieces with no directive are copied, and nothing is in their way. -/
lemma expand_of_directives_nil {ps : List Piece} (h : Piece.directives ps = []) :
    e.expand ps = (Piece.sources ps, e) ∧ e.reach ps = (ps, none) := by
  induction ps with
  | nil => exact ⟨rfl, rfl⟩
  | cons p ps ih =>
    cases p with
    | copied s =>
      obtain ⟨hexpand, hreach⟩ := ih h
      rw [expand, reach, hexpand, hreach]
      exact ⟨rfl, rfl⟩
    | directive a d => simp [Piece.directives] at h

end Engine

namespace Expander

variable {r : Expander} {html : String}

lemma expand_eq (r : Expander) (html : String) :
    r.expand html =
      (String.ofList (r.engine.expand (r.reachedPieces html)).1,
        { r with engine := (r.engine.expand (r.reachedPieces html)).2 }) := rfl

@[simp] lemma perform_snd (r : Expander) (c : Command) : (r.perform c).2 = r.next c := by
  rw [perform]
  split <;> rfl

/-- A document is expanded if nothing is in the way. -/
theorem perform_expand (h : r.expandObstacle? html = none) :
    r.perform (.expand html) =
      (.ok (.plain (.text (String.ofList (r.engine.expand (r.pieces html)).1))),
        { r with engine := (r.engine.expand (r.pieces html)).2 }) := by
  have hreached : r.reachedPieces html = r.pieces html := Engine.reach_fst_of_none h
  simp only [perform, fault?, h, Option.map_none, answer, next, expand_eq, hreached]

/-- Nothing is in the way of a document that is expanded. -/
lemma expandObstacle?_of_perform {a : Reply} {r' : Expander}
    (h : r.perform (.expand html) = (.ok a, r')) : r.expandObstacle? html = none := by
  cases ho : r.expandObstacle? html with
  | none => rfl
  | some o => simp [perform, fault?, ho] at h

/-- Nothing is in the way if the parents of all types are named. -/
lemma expandObstacle?_eq_none (h : r.engine.vocabulary.ParentsNamed) (html : String) :
    r.expandObstacle? html = none := by
  rw [expandObstacle?, Engine.reach_eq_of_parentsNamed h]

/-- The fragment of a directive stands between what becomes of the pieces before it and what becomes
of those after it. -/
theorem exists_expand_eq_append {before after : List Piece} {a : Attribute} {d : String}
    (h : r.reachedPieces html = before ++ .directive a d :: after) :
    ∃ rest, (r.expand html).1.toList =
      (r.engine.expand before).1 ++ ((r.engine.expand before).2.fragment d).1.toList ++ rest := by
  refine ⟨(((r.engine.expand before).2.fragment d).2.expand after).1, ?_⟩
  simp [expand_eq, h, Engine.expand_append, Engine.expand]

/-- The expander with the standard settings, for a vocabulary that has nothing but its root. -/
def minimal : Expander :=
  let settings := Settings.standard
  let renderer := Renderer.make .microdata none settings.schemaUrl
  let vocabulary := Vocabulary.rootOnly "Thing"
  ⟨settings, vocabulary, settings.enabled, [settings.defaultSuffix],
    .new renderer vocabulary true⟩

end Expander

end SchemaMarkup
