set_option autoImplicit false

/-!
# White space

The white-space characters, and the cutting of text at them. Text is a list of characters
throughout, so that every function here is a structural recursion.

## Main definitions

* `SchemaMarkup.Text.isBlank` — the white-space characters.
* `SchemaMarkup.Text.strip` — a text without the white space at its ends.
* `SchemaMarkup.Text.pieces` — a text cut at every character of a class.
* `SchemaMarkup.Text.words` — the non-empty pieces between white space.
* `SchemaMarkup.Text.given` — a text that is given and not empty.

## Main results

* `SchemaMarkup.Text.pieces_ne_nil` — cutting always leaves at least one piece.
* `SchemaMarkup.Text.not_mem_of_mem_pieces` — no piece holds a character of the class.
* `SchemaMarkup.Text.isBlank_of_isWhitespace` — the class contains the usual white space.
-/

namespace SchemaMarkup.Text

/-- A character is blank when it separates words: the control characters for tabulation, line ends
and information separators, the space, the next-line control and the space separators. -/
def isBlank (c : Char) : Bool :=
  let n := c.toNat
  (0x09 ≤ n && n ≤ 0x0D) || (0x1C ≤ n && n ≤ 0x20) || n == 0x85 || n == 0xA0 || n == 0x1680 ||
    (0x2000 ≤ n && n ≤ 0x200A) || n == 0x2028 || n == 0x2029 || n == 0x202F || n == 0x205F ||
    n == 0x3000

/-- The text without the white space at both ends. -/
def stripChars (s : List Char) : List Char :=
  ((s.dropWhile isBlank).reverse.dropWhile isBlank).reverse

/-- The text without the white space at both ends. -/
def strip (s : String) : String := String.ofList (stripChars s.toList)

/-- Put a character in front of the first piece. -/
def consHead (c : Char) : List (List Char) → List (List Char)
  | [] => [[c]]
  | w :: ws => (c :: w) :: ws

/-- The text cut at every character of the class `p`, which belongs to no piece. Two neighbouring
characters of the class have the empty piece between them. -/
def pieces (p : Char → Bool) : List Char → List (List Char)
  | [] => [[]]
  | c :: cs => if p c then [] :: pieces p cs else consHead c (pieces p cs)

/-- The maximal runs of characters that are not white space, in order. -/
def words (s : List Char) : List (List Char) := (pieces isBlank s).filter (!·.isEmpty)

/-- A text that is given and not empty: an empty one counts as missing. -/
def given (s : Option String) : Option String := s.filter (· != "")

/-- A text that is not empty is given as it is. -/
theorem given_some {s : String} (h : s ≠ "") : given (some s) = some s := by
  simp [given, h]

/-! ## What cutting leaves -/

theorem consHead_ne_nil (c : Char) (ws : List (List Char)) : consHead c ws ≠ [] := by
  cases ws <;> simp [consHead]

/-- Cutting leaves at least one piece. -/
theorem pieces_ne_nil (p : Char → Bool) (s : List Char) : pieces p s ≠ [] := by
  cases s with
  | nil => simp [pieces]
  | cons c cs =>
    rw [pieces]
    split
    · simp
    · exact consHead_ne_nil _ _

/-- No piece holds a character of the class at which the text was cut. -/
theorem not_mem_of_mem_pieces {p : Char → Bool} {s w : List Char} (h : w ∈ pieces p s) :
    ∀ c ∈ w, p c = false := by
  induction s generalizing w with
  | nil =>
    simp only [pieces, List.mem_singleton] at h
    simp [h]
  | cons d cs ih =>
    rw [pieces] at h
    split at h
    · rcases List.mem_cons.1 h with rfl | h
      · simp
      · exact ih h
    · rename_i hd
      cases hp : pieces p cs with
      | nil => exact absurd hp (pieces_ne_nil p cs)
      | cons v vs =>
        rw [hp, consHead] at h
        rcases List.mem_cons.1 h with rfl | h
        · intro c hc
          rcases List.mem_cons.1 hc with rfl | hc
          · simpa using hd
          · exact ih (hp ▸ List.mem_cons_self) c hc
        · exact ih (hp ▸ List.mem_cons_of_mem _ h)

/-- The characters that are white space in the narrow sense are blank. -/
theorem isBlank_of_isWhitespace (c : Char) (h : c.isWhitespace = true) : isBlank c = true := by
  simp only [Char.isWhitespace, Bool.or_eq_true, decide_eq_true_eq] at h
  rcases h with ((rfl | rfl) | rfl) | rfl <;> rfl

end SchemaMarkup.Text
