import SchemaMarkup.Text.Blank

set_option autoImplicit false

/-!
# Attributes of a start tag

An attribute is read together with everything that its source is made of, so that it can be written
again exactly as it was. Its name ends at white space, an equals sign, a slash or the closing
bracket. An equals sign after optional white space gives it a value: the text between two equal
quotes, or all up to the next white space or closing bracket.

## Main definitions

* `SchemaMarkup.Assignment` — the equals sign and the value, with what stands around them.
* `SchemaMarkup.Attribute` — an attribute, and `SchemaMarkup.Attribute.source` its text.
* `SchemaMarkup.Attribute.read` — read one attribute.

## Main results

* `SchemaMarkup.Attribute.source_append_of_read` — nothing is lost in reading.
* `SchemaMarkup.Attribute.source_ne_nil_of_read` — reading makes progress.
-/

namespace SchemaMarkup

open Text (isBlank)

/-- The equals sign and the value of an attribute. -/
structure Assignment where
  /-- The white space before the equals sign. -/
  before : List Char
  /-- The white space after it. -/
  after : List Char
  /-- The quote around the value, if it has one. -/
  quote : Option Char
  /-- The value. -/
  value : List Char
  deriving DecidableEq, Repr

/-- An assignment as it is written. -/
def Assignment.source (a : Assignment) : List Char :=
  a.before ++ '=' :: a.after ++ a.quote.toList ++ a.value ++ a.quote.toList

/-- An attribute: its name as it is written, and its assignment unless it is bare. -/
structure Attribute where
  name : List Char
  assignment : Option Assignment
  deriving DecidableEq, Repr

namespace Attribute

/-- An attribute as it is written. -/
def source (a : Attribute) : List Char :=
  a.name ++ match a.assignment with
    | some s => s.source
    | none => []

/-- The value of an attribute, if it is not bare. -/
def value? (a : Attribute) : Option (List Char) := a.assignment.map (·.value)

/-- The characters that the name of an attribute is made of. -/
def isNameChar (c : Char) : Bool := !isBlank c && c != '=' && c != '/' && c != '>'

/-- The characters that a value without quotes is made of. -/
def isValueChar (c : Char) : Bool := !isBlank c && c != '>'

/-- The two quotes. -/
def isQuote (c : Char) : Bool := c == '"' || c == '\''

/-- Read a value at its first character: in quotes up to the next such quote, and not at all if
there is none; else up to white space or the closing bracket. -/
def readValue : List Char → Option (Option Char × List Char × List Char)
  | [] => some (none, [], [])
  | q :: s =>
    if isQuote q then
      match s.dropWhile (· != q) with
      | [] => none
      | _ :: rest => some (some q, s.takeWhile (· != q), rest)
    else
      some (none, (q :: s).takeWhile isValueChar, (q :: s).dropWhile isValueChar)

/-- Read an attribute at the first character of its name. There is none if its value has an opening
quote and no closing one. -/
def read (s : List Char) : Option (Attribute × List Char) :=
  let name := s.takeWhile isNameChar
  let rest := s.dropWhile isNameChar
  match rest.dropWhile isBlank with
  | '=' :: t =>
    (readValue (t.dropWhile isBlank)).map fun r =>
      (⟨name, some ⟨rest.takeWhile isBlank, t.takeWhile isBlank, r.1, r.2.1⟩⟩, r.2.2)
  | _ => some (⟨name, none⟩, rest)

/-! ## Nothing is lost -/

theorem append_of_readValue {s : List Char} {r : Option Char × List Char × List Char}
    (h : readValue s = some r) : r.1.toList ++ r.2.1 ++ r.1.toList ++ r.2.2 = s := by
  cases s with
  | nil =>
    simp only [readValue, Option.some.injEq] at h
    simp [← h]
  | cons q s =>
    rw [readValue] at h
    split at h
    · split at h
      · simp at h
      · rename_i q' rest hd
        simp only [Option.some.injEq] at h
        subst h
        have hq : q' = q := by
          have := List.head?_dropWhile_not (· != q) s
          rw [hd] at this
          simpa using this
        subst hq
        have := List.takeWhile_append_dropWhile (p := (· != q')) (l := s)
        rw [hd] at this
        simp [this]
    · simp only [Option.some.injEq] at h
      subst h
      simp

/-- An attribute and what follows it make up the text it was read from. -/
theorem source_append_of_read {s rest : List Char} {a : Attribute} (h : read s = some (a, rest)) :
    a.source ++ rest = s := by
  rw [read] at h
  split at h
  · rename_i t ht
    rw [Option.map_eq_some_iff] at h
    obtain ⟨r, hr, h⟩ := h
    simp only [Prod.mk.injEq] at h
    obtain ⟨rfl, rfl⟩ := h
    have h1 := List.takeWhile_append_dropWhile (p := isNameChar) (l := s)
    have h2 := List.takeWhile_append_dropWhile (p := isBlank) (l := s.dropWhile isNameChar)
    have h3 := List.takeWhile_append_dropWhile (p := isBlank) (l := t)
    have h4 := append_of_readValue hr
    rw [ht] at h2
    calc _ = s.takeWhile isNameChar ++ ((s.dropWhile isNameChar).takeWhile isBlank ++ '=' ::
          (t.takeWhile isBlank ++ (r.1.toList ++ r.2.1 ++ r.1.toList ++ r.2.2))) := by
            simp [source, Assignment.source]
      _ = s := by rw [h4, h3, h2, h1]
  · simp only [Option.some.injEq, Prod.mk.injEq] at h
    obtain ⟨rfl, rfl⟩ := h
    simp [source]

/-- What can begin an attribute does begin one: reading makes progress. -/
theorem source_ne_nil_of_read {c : Char} {s rest : List Char} {a : Attribute}
    (h : read (c :: s) = some (a, rest)) (hc : isNameChar c = true ∨ c = '=') :
    a.source ≠ [] := by
  rw [read] at h
  split at h
  · rename_i t ht
    rw [Option.map_eq_some_iff] at h
    obtain ⟨r, hr, h⟩ := h
    simp only [Prod.mk.injEq] at h
    obtain ⟨rfl, rfl⟩ := h
    simp [source, Assignment.source]
  · rename_i hne
    simp only [Option.some.injEq, Prod.mk.injEq] at h
    obtain ⟨rfl, rfl⟩ := h
    rcases hc with hc | rfl
    · simp [source, hc]
    · exact absurd rfl (hne s)

end Attribute

end SchemaMarkup
