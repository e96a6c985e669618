import Mathlib.Tactic.Lemma
import SchemaMarkup.Markup.Piece

set_option autoImplicit false

/-!
# Places of directives

Where the directives of a document stand, as places that are told by their offsets. Which attributes
are directives depends on the registered names as a set, not on their order.

## Main definitions

* `SchemaMarkup.Text.replaceFrom`, `SchemaMarkup.Text.replaceAt` — a text with other texts at given
  places.
* `SchemaMarkup.Text.deleteAt` — a text without what stands at given places.
* `SchemaMarkup.Piece.placesFrom` — the places of the directives among pieces.

## Main results

* `SchemaMarkup.Piece.mem_placesFrom_iff` — a place holds a directive.
* `SchemaMarkup.Piece.ofText_congr` — the order of the names does not matter.
-/

namespace SchemaMarkup

namespace Text

/-! ## Texts at places -/

/-- A text that begins at the offset `start`, with each of the places replaced by the text that goes
with it. A place is told by the offsets of its first character and of the character after it; the
places are given in order. -/
def replaceFrom (start : Nat) (s : List Char) : List ((Nat × Nat) × List Char) → List Char
  | [] => s
  | ((first, stop), t) :: edits =>
    s.take (first - start) ++ t ++ replaceFrom stop (s.drop (stop - start)) edits

/-- A text with each of the places replaced by the text that goes with it. -/
def replaceAt (s : String) (places : List (Nat × Nat)) (texts : List String) : String :=
  String.ofList (replaceFrom 0 s.toList (places.zip (texts.map String.toList)))

/-- A text without what stands at the places. -/
def deleteAt (s : String) (places : List (Nat × Nat)) : String :=
  String.ofList (replaceFrom 0 s.toList (places.map fun place => (place, [])))

/-- A text is kept up to the first place. -/
lemma replaceFrom_append {start : Nat} (s t : List Char)
    {edits : List ((Nat × Nat) × List Char)}
    (h : ∀ e ∈ edits, start + s.length ≤ e.1.1 ∧ e.1.1 ≤ e.1.2) :
    replaceFrom start (s ++ t) edits = s ++ replaceFrom (start + s.length) t edits := by
  cases edits with
  | nil => rfl
  | cons e edits =>
    obtain ⟨⟨first, stop⟩, u⟩ := e
    obtain ⟨hfirst, hstop⟩ := h _ List.mem_cons_self
    simp only at hfirst hstop
    have htake : first - start = s.length + (first - (start + s.length)) := by omega
    have hdrop : stop - start = s.length + (stop - (start + s.length)) := by omega
    rw [replaceFrom, replaceFrom, htake, hdrop, List.take_length_add_append,
      List.drop_length_add_append]
    simp only [List.append_assoc]

/-- Places are deleted where nothing is put. -/
lemma replaceAt_replicate (s : String) (places : List (Nat × Nat)) :
    replaceAt s places (List.replicate places.length "") = deleteAt s places := by
  rw [replaceAt, deleteAt, List.map_replicate, String.toList_empty]
  congr 2
  induction places with
  | nil => rfl
  | cons place places ih =>
    rw [List.length_cons, List.replicate_succ, List.zip_cons_cons, ih, List.map_cons]

end Text

namespace Piece

/-! ## Where directives stand -/

/-- The places of the directives among pieces that begin at the offset `start`. -/
def placesFrom (start : Nat) : List Piece → List (Nat × Nat)
  | [] => []
  | copied s :: ps => placesFrom (start + s.length) ps
  | directive a _ :: ps =>
    (start, start + a.source.length) :: placesFrom (start + a.source.length) ps

/-- There is one place for each directive. -/
lemma length_placesFrom (start : Nat) (ps : List Piece) :
    (placesFrom start ps).length = (directives ps).length := by
  induction ps generalizing start with
  | nil => rfl
  | cons p ps ih => cases p <;> simp [placesFrom, directives, ih]

/-- A place holds a directive: what stands before it are the pieces before the directive. -/
theorem mem_placesFrom_iff {start first stop : Nat} {ps : List Piece} :
    (first, stop) ∈ placesFrom start ps ↔
      ∃ before a d after, ps = before ++ directive a d :: after ∧
        first = start + (sources before).length ∧ stop = first + a.source.length := by
  induction ps generalizing start with
  | nil => simp [placesFrom]
  | cons p ps ih =>
    constructor
    · intro h
      cases p with
      | copied s =>
        obtain ⟨before, a, d, after, rfl, rfl, rfl⟩ := ih.1 h
        refine ⟨copied s :: before, a, d, after, rfl, ?_, rfl⟩
        simp [source, Nat.add_assoc]
      | directive a d =>
        rcases List.mem_cons.1 h with h | h
        · obtain ⟨rfl, rfl⟩ := Prod.mk.inj h
          exact ⟨[], a, d, ps, rfl, rfl, rfl⟩
        · obtain ⟨before, a', d', after, rfl, rfl, rfl⟩ := ih.1 h
          refine ⟨directive a d :: before, a', d', after, rfl, ?_, rfl⟩
          simp [source, Nat.add_assoc]
    · rintro ⟨before, a, d, after, heq, rfl, rfl⟩
      cases before with
      | nil =>
        obtain ⟨rfl, rfl⟩ := List.cons.inj heq
        exact List.mem_cons_self
      | cons q before =>
        obtain ⟨rfl, rfl⟩ := List.cons.inj heq
        cases p with
        | copied s =>
          refine ih.2 ⟨before, a, d, after, rfl, ?_, rfl⟩
          simp [source, Nat.add_assoc]
        | directive b c =>
          refine List.mem_cons_of_mem _ (ih.2 ⟨before, a, d, after, rfl, ?_, rfl⟩)
          simp [source, Nat.add_assoc]

/-- Places come after the offset where the pieces begin. -/
lemma le_of_mem_placesFrom {start : Nat} {ps : List Piece} {place : Nat × Nat}
    (h : place ∈ placesFrom start ps) : start ≤ place.1 ∧ place.1 ≤ place.2 := by
  obtain ⟨before, a, d, after, -, hfirst, hstop⟩ := mem_placesFrom_iff.1 h
  omega

end Piece

/-! ## Names in another order -/

variable {names names' : List String}

/-- Whether an attribute is a directive depends on which names are registered. -/
lemma Tag.isDirective_congr (h : ∀ n, n ∈ names ↔ n ∈ names') :
    isDirective names = isDirective names' := by
  funext a
  rw [isDirective, isDirective, List.contains_eq_mem, List.contains_eq_mem]
  simp only [h]

lemma Tag.splitDirective?_congr (h : ∀ n, n ∈ names ↔ n ∈ names') :
    splitDirective? names = splitDirective? names' := by
  funext as
  induction as with
  | nil => rfl
  | cons a as ih => rw [splitDirective?, splitDirective?, isDirective_congr h, ih]

/-- The pieces of a document are the same in whatever order the names are registered. -/
theorem Piece.ofText_congr (h : ∀ n, n ∈ names ↔ n ∈ names') : ofText names = ofText names' := by
  have htag : ofTag names = ofTag names' := by
    funext t
    rw [ofTag, ofTag, Tag.directive?, Tag.directive?, Tag.splitDirective?_congr h]
  have hsegment : ofSegment names = ofSegment names' := by
    funext s
    cases s <;> simp only [ofSegment, htag]
  funext s
  rw [ofText, ofText, hsegment]

end SchemaMarkup
