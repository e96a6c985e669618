import SchemaMarkup.Markup.Attribute
import SchemaMarkup.Text.Lower

set_option autoImplicit false

/-!
# Start tags

A start tag is an opening bracket, a name, attributes with gaps of white space and slashes between
them, and a closing bracket. Like an attribute it is read together with all that it is made of.

## Main definitions

* `SchemaMarkup.Tag` — a start tag, and `SchemaMarkup.Tag.source` its text.
* `SchemaMarkup.Tag.readAfter` — read a start tag after its opening bracket.
* `SchemaMarkup.Tag.spans` — where its attributes are.
* `SchemaMarkup.Tag.directive?` — its first attribute with a value and a name among those given.

## Main results

* `SchemaMarkup.Tag.body_append_of_readAfter` — nothing is lost in reading.
-/

namespace SchemaMarkup

open Text (isBlank)

/-- A start tag: its name as it is written, its attributes, each with the gap before it, and the gap
before the closing bracket. -/
structure Tag where
  name : List Char
  attributes : List (List Char × Attribute)
  gap : List Char
  deriving DecidableEq, Repr

namespace Tag

/-- The characters that the name of a tag is made of. -/
def isNameChar (c : Char) : Bool := !isBlank c && c != '/' && c != '>'

/-- The characters of the gaps between attributes. -/
def isGapChar (c : Char) : Bool := isBlank c || c == '/'

/-- Attributes with the gaps before them, as they are written. -/
def attributesSource (as : List (List Char × Attribute)) : List Char :=
  as.flatMap fun a => a.1 ++ a.2.source

/-- A tag as it is written after its opening bracket. -/
def body (t : Tag) : List Char := t.name ++ attributesSource t.attributes ++ t.gap ++ ['>']

/-- A tag as it is written. -/
def source (t : Tag) : List Char := '<' :: t.body

theorem isGapChar_of_not {c : Char} (h : ¬isGapChar c = true) (h' : c ≠ '>') :
    Attribute.isNameChar c = true ∨ c = '=' := by
  simp only [isGapChar, Bool.or_eq_true, beq_iff_eq, not_or] at h
  by_cases hc : c = '='
  · exact .inr hc
  · left
    simp [Attribute.isNameChar, h.1, h.2, h', hc]

/-- Read the attributes of a tag and its closing bracket. There is no tag if the text ends first. -/
def readAttributes (s : List Char) :
    Option ((List (List Char × Attribute) × List Char) × List Char) :=
  match _hs : s.dropWhile isGapChar with
  | [] => none
  | c :: cs =>
    if _hc : c = '>' then
      some (([], s.takeWhile isGapChar), cs)
    else
      match _ha : Attribute.read (c :: cs) with
      | none => none
      | some (a, rest) =>
        (readAttributes rest).map fun r =>
          (((s.takeWhile isGapChar, a) :: r.1.1, r.1.2), r.2)
termination_by s.length
decreasing_by
  have hgap : ¬isGapChar c = true := by
    have := List.head?_dropWhile_not isGapChar s
    rw [_hs] at this
    simpa using this
  have hne := Attribute.source_ne_nil_of_read _ha (isGapChar_of_not hgap _hc)
  have heq := congrArg List.length (Attribute.source_append_of_read _ha)
  have hlen := congrArg List.length (List.takeWhile_append_dropWhile (p := isGapChar) (l := s))
  have := List.length_pos_iff.2 hne
  rw [_hs] at hlen
  simp only [List.length_append] at heq hlen
  omega

/-- Read a start tag after its opening bracket. -/
def readAfter (s : List Char) : Option (Tag × List Char) :=
  (readAttributes (s.dropWhile isNameChar)).map fun r =>
    (⟨s.takeWhile isNameChar, r.1.1, r.1.2⟩, r.2)

/-! ## Nothing is lost -/

theorem append_of_readAttributes {s : List Char}
    {r : (List (List Char × Attribute) × List Char) × List Char}
    (h : readAttributes s = some r) : attributesSource r.1.1 ++ r.1.2 ++ '>' :: r.2 = s := by
  fun_induction readAttributes s generalizing r with
  | case1 => simp at h
  | case2 s cs hs =>
    simp only [Option.some.injEq] at h
    subst h
    have := List.takeWhile_append_dropWhile (p := isGapChar) (l := s)
    rw [hs] at this
    simpa [attributesSource] using this
  | case3 => simp at h
  | case4 s c cs hs hc a rest ha ih =>
    rw [Option.map_eq_some_iff] at h
    obtain ⟨r', hr', rfl⟩ := h
    have h1 := ih hr'
    have h2 := Attribute.source_append_of_read ha
    have h3 := List.takeWhile_append_dropWhile (p := isGapChar) (l := s)
    rw [hs] at h3
    calc _ = s.takeWhile isGapChar ++ (a.source ++ (attributesSource r'.1.1 ++ r'.1.2 ++
          '>' :: r'.2)) := by simp [attributesSource]
      _ = s := by rw [h1, h2, h3]

/-- A tag and what follows it make up the text it was read from. -/
theorem body_append_of_readAfter {s rest : List Char} {t : Tag}
    (h : readAfter s = some (t, rest)) : t.body ++ rest = s := by
  rw [readAfter, Option.map_eq_some_iff] at h
  obtain ⟨r, hr, h⟩ := h
  simp only [Prod.mk.injEq] at h
  obtain ⟨rfl, rfl⟩ := h
  have h1 := append_of_readAttributes hr
  calc _ = s.takeWhile isNameChar ++ (attributesSource r.1.1 ++ r.1.2 ++ '>' :: r.2) := by
          simp [body]
    _ = s := by rw [h1, List.takeWhile_append_dropWhile]

/-! ## Places -/

/-- Where an attribute is: the offsets of its first character and of the character after it. -/
structure Span where
  name : List Char
  value : Option (List Char)
  start : Nat
  stop : Nat
  deriving DecidableEq, Repr

/-- The places of attributes that begin, gap included, at the offset `start`. -/
def spansFrom (start : Nat) : List (List Char × Attribute) → List Span
  | [] => []
  | (gap, a) :: as =>
    let first := start + gap.length
    let stop := first + a.source.length
    ⟨a.name, a.value?, first, stop⟩ :: spansFrom stop as

/-- The places of the attributes of a tag whose name begins at the offset `start`. -/
def spans (t : Tag) (start : Nat) : List Span := spansFrom (start + t.name.length) t.attributes

/-! ## Directives -/

/-- The attribute has a value, and its name is among those given in any letter case. -/
def isDirective (names : List String) (a : Attribute) : Bool :=
  a.assignment.isSome && names.contains (String.ofList (Text.lowerChars a.name))

/-- The first attribute that carries a directive, with the attributes and the gap before it and the
attributes after it. -/
def splitDirective? (names : List String) :
    List (List Char × Attribute) →
      Option (List (List Char × Attribute) × (List Char × Attribute) ×
        List (List Char × Attribute))
  | [] => none
  | a :: as =>
    if isDirective names a.2 then some ([], a, as)
    else (splitDirective? names as).map fun r => (a :: r.1, r.2)

/-- The first attribute that carries a directive, with the parts of the tag's body before and after
it. -/
def directive? (names : List String) (t : Tag) : Option (List Char × Attribute × List Char) :=
  (splitDirective? names t.attributes).map fun r =>
    (t.name ++ attributesSource r.1 ++ r.2.1.1, r.2.1.2,
      attributesSource r.2.2 ++ t.gap ++ ['>'])

/-- The attributes around a directive are those of the tag. -/
theorem append_of_splitDirective? {names : List String} {as : List (List Char × Attribute)}
    {r : List (List Char × Attribute) × (List Char × Attribute) × List (List Char × Attribute)}
    (h : splitDirective? names as = some r) : r.1 ++ r.2.1 :: r.2.2 = as := by
  induction as generalizing r with
  | nil => simp [splitDirective?] at h
  | cons a as ih =>
    rw [splitDirective?] at h
    split at h
    · simp only [Option.some.injEq] at h
      simp [← h]
    · rw [Option.map_eq_some_iff] at h
      obtain ⟨r', hr', rfl⟩ := h
      simp [ih hr']

/-- The parts of a tag's body around a directive and the directive make up the body. -/
theorem append_of_directive? {names : List String} {t : Tag}
    {r : List Char × Attribute × List Char} (h : t.directive? names = some r) :
    r.1 ++ r.2.1.source ++ r.2.2 = t.body := by
  rw [directive?, Option.map_eq_some_iff] at h
  obtain ⟨r', hr', rfl⟩ := h
  rw [body, ← append_of_splitDirective? hr']
  simp [attributesSource]

end Tag

end SchemaMarkup
