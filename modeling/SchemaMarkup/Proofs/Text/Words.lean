import SchemaMarkup.Proofs.Text.Run
import SchemaMarkup.Text.Blank

set_option autoImplicit false

/-!
# Words and pieces

The pieces of a text that is cut at a character are the only texts without the character that make up
the text when they are joined by it. The words of a text are the only words that make it up with
white space between them.

## Main definitions

* `SchemaMarkup.Text.IsWord` — a text that is not empty and holds no white space.
* `SchemaMarkup.Text.Spaced` — texts one after another with white space between them.

## Main results

* `SchemaMarkup.Text.pieces_eq_iff` — the pieces of a text cut at a character.
* `SchemaMarkup.Text.words_eq_iff` — the words of a text.
-/

namespace SchemaMarkup.Text

variable {p : Char → Bool} {c : Char} {s w : List Char} {ws : List (List Char)}

/-! ## Pieces -/

/-- A text is cut as the library splits a list. -/
lemma pieces_eq_splitOnP (p : Char → Bool) (s : List Char) : pieces p s = s.splitOnP p := by
  induction s with
  | nil => rfl
  | cons c s ih =>
    rw [pieces, List.splitOnP_cons_eq_if_modifyHead, ← ih]
    split
    · rfl
    · obtain ⟨w, ws, h⟩ := List.exists_cons_of_ne_nil (pieces_ne_nil p s)
      rw [h, consHead, List.modifyHead_cons]

/-- A text without a character of the class is one piece. -/
lemma pieces_of_forall (h : ∀ c ∈ s, p c = false) : pieces p s = [s] := by
  rw [pieces_eq_splitOnP, List.splitOnP_eq_singleton h]

/-- The texts around a character of the class are cut each by itself. -/
lemma pieces_append_cons (s t : List Char) (hc : p c = true) :
    pieces p (s ++ c :: t) = pieces p s ++ pieces p t := by
  rw [pieces_eq_splitOnP, pieces_eq_splitOnP, pieces_eq_splitOnP, List.splitOnP_append_cons s t hc]

/-- **Cutting at a character undoes joining by it**, and the other way round. -/
theorem pieces_eq_iff :
    pieces (· == c) s = ws ↔ ws ≠ [] ∧ (∀ w ∈ ws, c ∉ w) ∧ [c].intercalate ws = s := by
  constructor
  · rintro rfl
    refine ⟨pieces_ne_nil _ s, fun w hw hc => ?_, ?_⟩
    · simpa using not_mem_of_mem_pieces hw c hc
    · rw [pieces_eq_splitOnP, ← List.splitOn_eq_splitOnP, List.intercalate_splitOn]
  · rintro ⟨hne, hws, rfl⟩
    rw [pieces_eq_splitOnP, ← List.splitOn_eq_splitOnP, List.splitOn_intercalate c hws hne]

/-- What texts joined by a character are made of. -/
lemma mem_intercalate_iff {d : Char} (hd : d ≠ c) :
    d ∈ [c].intercalate ws ↔ ∃ w ∈ ws, d ∈ w := by
  induction ws with
  | nil => simp
  | cons w ws ih =>
    cases ws with
    | nil => simp
    | cons w' ws =>
      rw [List.intercalate_cons_cons, List.mem_append, List.mem_append, ih]
      simp [hd]

/-! ## Words -/

/-- A text that is not empty and holds no white space. -/
def IsWord (w : List Char) : Prop := w ≠ [] ∧ ∀ c ∈ w, isBlank c = false

instance (w : List Char) : Decidable (IsWord w) :=
  decidable_of_iff (w ≠ [] ∧ w.all (!isBlank ·) = true) (by simp [IsWord])

/-- Texts one after another with white space between any two, and any white space at the ends. -/
inductive Spaced : List (List Char) → List Char → Prop
  | nil : Spaced [] []
  | last (w : List Char) : Spaced [w] w
  | cons {c : Char} {s : List Char} {ws : List (List Char)} (w : List Char)
      (hc : isBlank c = true) (h : Spaced ws s) : Spaced (w :: ws) (w ++ c :: s)
  | blank {c : Char} {s : List Char} {ws : List (List Char)}
      (hc : isBlank c = true) (h : Spaced ws s) : Spaced ws (c :: s)

lemma words_cons_of_isBlank (hc : isBlank c = true) (s : List Char) :
    words (c :: s) = words s := by
  rw [words, pieces, if_pos hc]
  rfl

lemma words_of_isWord (hw : IsWord w) : words w = [w] := by
  rw [words, pieces_of_forall hw.2]
  simp [hw.1]

lemma words_append_cons (hw : IsWord w) (hc : isBlank c = true) (s : List Char) :
    words (w ++ c :: s) = w :: words s := by
  rw [words, pieces_append_cons w s hc, pieces_of_forall hw.2]
  simp [hw.1, words]

/-- Words with white space between them are found. -/
lemma Spaced.words_eq (h : Spaced ws s) (hws : ∀ w ∈ ws, IsWord w) : words s = ws := by
  induction h with
  | nil => rfl
  | last w => exact words_of_isWord (hws w List.mem_cons_self)
  | cons w hc _ ih =>
    rw [words_append_cons (hws w List.mem_cons_self) hc,
      ih fun w' hw' => hws w' (List.mem_cons_of_mem w hw')]
  | blank hc _ ih => rw [words_cons_of_isBlank hc, ih hws]

/-- What is found are words. -/
lemma isWord_of_mem_words (h : w ∈ words s) : IsWord w := by
  obtain ⟨hpiece, hne⟩ := List.mem_filter.1 h
  exact ⟨by simpa using hne, not_mem_of_mem_pieces hpiece⟩

/-- The words of a text make it up with white space between them. -/
lemma spaced_words (s : List Char) : Spaced (words s) s := by
  match s with
  | [] => exact .nil
  | c :: s =>
    by_cases hc : isBlank c = true
    · rw [words_cons_of_isBlank hc]
      exact .blank hc (spaced_words s)
    · -- the first word runs up to the first white space, and nothing is lost
      obtain ⟨hrun, hend⟩ := isRun_takeWhile (fun d => !isBlank d) (c :: s)
      have happend := List.takeWhile_append_dropWhile (p := fun d => !isBlank d) (l := c :: s)
      have hword : IsWord ((c :: s).takeWhile fun d => !isBlank d) := by
        refine ⟨?_, fun d hd => by simpa using hrun d hd⟩
        rw [List.takeWhile_cons_of_pos (by simp [hc])]
        exact List.cons_ne_nil _ _
      cases hrest : (c :: s).dropWhile fun d => !isBlank d with
      | nil =>
        rw [hrest, List.append_nil] at happend
        rw [happend] at hword
        rw [words_of_isWord hword]
        exact .last _
      | cons d rest =>
        have hd : isBlank d = true := by simpa using hend d (by rw [hrest]; rfl)
        have hlength : rest.length < (c :: s).length := by
          have hsum := congrArg List.length happend
          rw [hrest, List.length_append, List.length_cons] at hsum
          omega
        rw [hrest] at happend
        rw [← happend, words_append_cons hword hd]
        exact .cons _ hd (spaced_words rest)
termination_by s.length
decreasing_by
  · exact Nat.lt_succ_self _
  · exact hlength

/-- **The words of a text** are the only words that make it up with white space between them. -/
theorem words_eq_iff : words s = ws ↔ Spaced ws s ∧ ∀ w ∈ ws, IsWord w := by
  constructor
  · rintro rfl
    exact ⟨spaced_words s, fun w => isWord_of_mem_words⟩
  · exact fun h => h.1.words_eq h.2

/-- A text without white space has none at its ends. -/
lemma stripChars_of_forall (h : ∀ c ∈ s, isBlank c = false) : stripChars s = s := by
  have hfirst : ∀ t : List Char, (∀ c ∈ t, isBlank c = false) → t.dropWhile isBlank = t :=
    fun t ht => dropWhile_of_head? fun c hc => ht c (List.mem_of_head? hc)
  rw [stripChars, hfirst s h, hfirst s.reverse fun c hc => h c (List.mem_reverse.1 hc),
    List.reverse_reverse]

end SchemaMarkup.Text
