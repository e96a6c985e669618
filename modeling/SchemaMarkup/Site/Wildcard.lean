import SchemaMarkup.Text.Blank

set_option autoImplicit false

/-!
# Wildcards

A wildcard describes names: an asterisk stands for any characters, a question mark for one, and a
set in square brackets for one of its characters. A set may have ranges, written with a hyphen, and
an exclamation mark at its beginning makes it stand for all other characters. A bracket that is not
closed stands for itself.

## Main definitions

* `SchemaMarkup.Wildcard` — a wildcard, as a list of symbols.
* `SchemaMarkup.Wildcard.ofText` — read a wildcard.
* `SchemaMarkup.Wildcard.fits` — the names that it describes.

## Main results

* `SchemaMarkup.Wildcard.fits_nil`, `SchemaMarkup.Wildcard.fits_anyMany`,
  `SchemaMarkup.Wildcard.fits_cons` — what each symbol stands for.
-/

namespace SchemaMarkup

/-- A symbol of a wildcard. A set is given by chunks: the characters of a chunk belong to it, and so
do those from the last of a chunk to the first of the next. -/
inductive Wildcard.Symbol where
  | one (c : Char)
  | anyOne
  | anyMany
  | set (others : Bool) (chunks : List (List Char))
  deriving DecidableEq, Repr

/-- A wildcard. -/
abbrev Wildcard := List Wildcard.Symbol

namespace Wildcard

/-- The characters of chunks: those in them, and those from one to the next. -/
def inChunks (c : Char) : List (List Char) → Bool
  | [] => false
  | [chunk] => chunk.contains c
  | chunk :: next :: chunks =>
    chunk.contains c ||
      (match chunk.getLast?, next.head? with
        | some a, some b => a ≤ c && c ≤ b
        | _, _ => false) ||
      inChunks c (next :: chunks)

/-- The symbol stands for the character. -/
def Symbol.admits (c : Char) : Symbol → Bool
  | one d => c == d
  | anyOne => true
  | anyMany => true
  | set others chunks => inChunks c chunks != others

/-- From each place of a row on, whether a flag is up there or behind. -/
def fromHereOn : List Bool → List Bool
  | [] => []
  | b :: bs =>
    let behind := fromHereOn bs
    (b || behind.headD false) :: behind

/-- Whether the wildcard describes what is left of the name, at each place of the name, its end
included. Each symbol takes one pass over the name. -/
def fitsEnds (w : Wildcard) (s : List Char) : List Bool :=
  match w with
  | [] => s.map (fun _ => false) ++ [true]
  | .anyMany :: w => fromHereOn (fitsEnds w s)
  | y :: w => List.zipWith (fun c b => y.admits c && b) s ((fitsEnds w s).drop 1) ++ [false]

/-- The wildcard describes the name. -/
def fits (w : Wildcard) (s : List Char) : Bool := (fitsEnds w s).headD false

/-- Cut the inside of a set at the hyphens that make ranges. Such a hyphen stands behind at least
one character, and behind at least two after another such hyphen. -/
def cutChunks (chunk : List Char) (least : Nat) : List Char → List (List Char)
  | [] => [chunk.reverse]
  | c :: s =>
    if c == '-' && least ≤ chunk.length then chunk.reverse :: cutChunks [] 2 s
    else cutChunks (c :: chunk) least s

/-- A hyphen at the end of a set stands for itself. -/
def closeChunks : List (List Char) → List (List Char)
  | [chunk, []] => [chunk ++ ['-']]
  | [] => []
  | chunk :: chunks => chunk :: closeChunks chunks

/-- Leave out the ranges that run backwards, with the characters that they are written with. -/
def dropBackward : List (List Char) → List (List Char)
  | [] => []
  | chunk :: chunks =>
    match dropBackward chunks with
    | [] => [chunk]
    | next :: rest =>
      match chunk.getLast?, next.head? with
      | some a, some b =>
        if b < a then (chunk.dropLast ++ next.drop 1) :: rest else chunk :: next :: rest
      | _, _ => chunk :: next :: rest

/-- The symbol for a set with the given inside. -/
def Symbol.ofSet (inside : List Char) : Symbol :=
  let least := if inside.head? == some '!' then 2 else 1
  match dropBackward (closeChunks (cutChunks [] least inside)) with
  | ('!' :: chunk) :: chunks => .set true (chunk :: chunks)
  | chunks => .set false chunks

/-- Split a text behind an opening bracket at the bracket that closes the set. That bracket is not
the first character of the set. -/
def splitSet? (s : List Char) : Option (List Char × List Char) :=
  let mark := s.takeWhile (· == '!') |>.take 1
  let first := (s.drop mark.length).takeWhile (· == ']') |>.take 1
  let lead := mark ++ first
  let rest := s.drop lead.length
  match rest.dropWhile (· != ']') with
  | [] => none
  | _ :: after => some (lead ++ rest.takeWhile (· != ']'), after)

/-- Read a wildcard, of at most as many symbols as the number says. -/
def ofChars : Nat → List Char → Wildcard
  | 0, _ => []
  | _ + 1, [] => []
  | n + 1, c :: s =>
    if c == '*' then .anyMany :: ofChars n s
    else if c == '?' then .anyOne :: ofChars n s
    else if c == '[' then
      match splitSet? s with
      | some (inside, after) => .ofSet inside :: ofChars n after
      | none => .one c :: ofChars n s
    else .one c :: ofChars n s

/-- Read a wildcard. -/
def ofText (s : String) : Wildcard := ofChars s.length s.toList

/-- The text has a symbol of a wildcard that stands for more than itself. -/
def isIn (s : String) : Bool := s.toList.any fun c => c == '*' || c == '?' || c == '['

/-! ## What symbols stand for -/

theorem length_fromHereOn (bs : List Bool) : (fromHereOn bs).length = bs.length := by
  induction bs with
  | nil => rfl
  | cons b bs ih => simp [fromHereOn, ih]

/-- There is an answer for each place of the name and for its end. -/
theorem length_fitsEnds (w : Wildcard) (s : List Char) : (fitsEnds w s).length = s.length + 1 := by
  induction w with
  | nil => simp [fitsEnds]
  | cons y w ih => cases y <;> simp [fitsEnds, length_fromHereOn, ih]

/-- The answers behind the first are those for the name without its first character. -/
theorem tail_fitsEnds (w : Wildcard) (c : Char) (s : List Char) :
    (fitsEnds w (c :: s)).tail = fitsEnds w s := by
  induction w generalizing s with
  | nil => simp [fitsEnds]
  | cons y w ih =>
    have hlen := length_fitsEnds w (c :: s)
    rcases hf : fitsEnds w (c :: s) with _ | ⟨b, bs⟩
    · simp [hf] at hlen
    · have htail : bs = fitsEnds w s := by simpa [hf] using ih s
      cases y <;> simp [fitsEnds, hf, htail, fromHereOn]
      all_goals
        rcases hs : fitsEnds w s with _ | ⟨b', bs'⟩
        · simpa [hs] using length_fitsEnds w s
        · simp

/-- No symbols describe the empty name alone. -/
theorem fits_nil (s : List Char) : fits [] s = s.isEmpty := by
  cases s <;> simp [fits, fitsEnds]

/-- An asterisk stands for nothing, or for a character and what it may stand for behind it. -/
theorem fits_anyMany (w : Wildcard) (c : Char) (s : List Char) :
    fits (.anyMany :: w) (c :: s) = (fits w (c :: s) || fits (.anyMany :: w) s) := by
  have hlen := length_fitsEnds w (c :: s)
  have htail := tail_fitsEnds w c s
  rcases hf : fitsEnds w (c :: s) with _ | ⟨b, bs⟩
  · simp [hf] at hlen
  · rw [hf] at htail
    simp only [List.tail_cons] at htail
    subst htail
    simp [fits, fitsEnds, hf, fromHereOn]

/-- Any other symbol stands for one character that it admits. -/
theorem fits_cons (y : Symbol) (hy : y ≠ .anyMany) (w : Wildcard) (c : Char) (s : List Char) :
    fits (y :: w) (c :: s) = (y.admits c && fits w s) := by
  have htail := tail_fitsEnds w c s
  have hlen := length_fitsEnds w s
  rcases hs : fitsEnds w s with _ | ⟨b, bs⟩
  · simp [hs] at hlen
  · cases y <;> simp_all [fits, fitsEnds]

end Wildcard

end SchemaMarkup
