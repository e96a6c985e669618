import SchemaMarkup.Proofs.Renderer.Attributes

set_option autoImplicit false

/-!
# Replacing an attribute

One attribute of a start tag gives way to written attributes, or to nothing, and everything else
stays as it is. The result is a start tag again. Removing an attribute brings its neighbours
together, so that an equals sign behind it could be taken for a part of the attribute before it;
this is the only way in which the rest of the tag can change its meaning.

## Main definitions

* `SchemaMarkup.Tag.splice` — the attributes of a tag from the one that is replaced on.
* `SchemaMarkup.Tag.replace` — a tag with one attribute replaced.

## Main results

* `SchemaMarkup.Tag.Fits.replace` — a tag with one attribute replaced is a tag.
* `SchemaMarkup.Tag.exists_of_directive?` — the parts of a tag around its directive.
-/

namespace SchemaMarkup

open Text (isBlank IsRun)

namespace Attribute

lemma isValueChar_of_begin {c : Char} (h : isNameChar c = true ∨ c = '=') :
    isValueChar c = true := by
  rcases h with h | rfl
  · simp only [isNameChar, Bool.and_eq_true, Bool.not_eq_true', bne_iff_ne] at h
    obtain ⟨⟨⟨hblank, -⟩, -⟩, hclose⟩ := h
    simp [isValueChar, hblank, hclose]
  · decide

/-- What fits before an attribute fits before any text in its place that does not begin, behind
white space, with an equals sign.

**Proof sketch.** If anything stands between the two attributes, it still ends the first one. If
nothing does, the first one has a value in quotes: no other attribute ends where the next one
begins. -/
theorem Fits.replace {a b : Attribute} {x s t : List Char} (h : a.Fits (x ++ (b.source ++ s)))
    (hb : b.Begins) (ht : (t.dropWhile isBlank).head? ≠ some '=') : a.Fits (x ++ t) := by
  by_cases hx : x = []
  · subst hx
    obtain ⟨c, hc, hbegin⟩ := hb
    have hhead : (b.source ++ s).head? = some c := by rw [List.head?_append, hc]; rfl
    obtain ⟨name, assignment⟩ := a
    cases assignment with
    | none =>
      obtain ⟨hname, heq⟩ := h
      rcases hbegin with hchar | rfl
      · have hstop := hname.2 c hhead
        rw [hchar] at hstop
        simp at hstop
      · obtain ⟨u, hu⟩ := List.head?_eq_some_iff.1 hhead
        rw [List.nil_append, hu, List.dropWhile_cons_of_neg (by decide)] at heq
        exact absurd rfl heq
    | some m =>
      obtain ⟨before, after, quote, value⟩ := m
      obtain ⟨hname, hbefore, hafter, hvalue⟩ := h
      cases quote with
      | none =>
        have hstop := hvalue.1.2 c hhead
        rw [isValueChar_of_begin hbegin] at hstop
        simp at hstop
      | some q => exact ⟨hname, hbefore, hafter.congr (by simp), hvalue⟩
  · obtain ⟨y, ys, rfl⟩ := List.exists_cons_of_ne_nil hx
    apply h.congr (by simp)
    intro hblank
    rw [Text.head?_dropWhile_append] at hblank ⊢
    rcases Option.or_eq_some_iff.1 hblank with hbetween | ⟨-, hbehind⟩
    · rw [hbetween, Option.some_or]
    · exact absurd hbehind ht

end Attribute

namespace Tag

open Attribute (row)

/-- What stands in a tag from a replaced attribute on: the attributes with the gaps before them, and
the gap before the closing bracket. The gap before the replaced attribute comes first. -/
def splice (gap : List Char) : List Attribute → List (List Char × Attribute) → List Char →
    List (List Char × Attribute) × List Char
  | [], [], close => ([], gap ++ close)
  | [], (g, a) :: after, close => ((gap ++ g, a) :: after, close)
  | mark :: marks, after, close => (row gap (mark :: marks) ++ after, close)

/-- A tag with its attributes from a replaced one on written anew. -/
def replace (t : Tag) (before : List (List Char × Attribute)) (gap : List Char)
    (marks : List Attribute) (after : List (List Char × Attribute)) : Tag :=
  let r := splice gap marks after t.gap
  ⟨t.name, before ++ r.1, r.2⟩

variable {gap close : List Char} {marks : List Attribute}
  {before after : List (List Char × Attribute)} {t : Tag}

lemma attributesSource_row (gap : List Char) (a : Attribute) (as : List Attribute) :
    attributesSource (row gap (a :: as)) = gap ++ attributesSource (row [] (a :: as)) := by
  simp [row]

/-- Nothing but the replaced attribute changes. -/
lemma splice_source (gap : List Char) (marks : List Attribute)
    (after : List (List Char × Attribute)) (close : List Char) :
    attributesSource (splice gap marks after close).1 ++ (splice gap marks after close).2 =
      gap ++ (attributesSource (row [] marks) ++ (attributesSource after ++ close)) := by
  cases marks with
  | nil =>
    cases after with
    | nil => simp [splice, row]
    | cons e after =>
      obtain ⟨g, a⟩ := e
      simp [splice, row]
  | cons mark marks =>
    rw [splice, attributesSource_append, attributesSource_row]
    simp

lemma splice_fits (hgap : ∀ c ∈ gap, isGapChar c = true) (hmarks : Renderer.Marks marks)
    (hafter : AttributesFit after (close ++ ['>'])) (hclose : ∀ c ∈ close, isGapChar c = true) :
    AttributesFit (splice gap marks after close).1 ((splice gap marks after close).2 ++ ['>']) ∧
      ∀ c ∈ (splice gap marks after close).2, isGapChar c = true := by
  have happend : ∀ g : List Char, (∀ c ∈ g, isGapChar c = true) →
      ∀ c ∈ gap ++ g, isGapChar c = true :=
    fun g hg c hc => (List.mem_append.1 hc).elim (hgap c) (hg c)
  cases marks with
  | nil =>
    cases after with
    | nil => exact ⟨trivial, happend close hclose⟩
    | cons e after =>
      obtain ⟨g, a⟩ := e
      obtain ⟨hg, hrest⟩ := hafter
      exact ⟨⟨happend g hg, hrest⟩, hclose⟩
  | cons mark marks =>
    rw [splice, attributesFit_append]
    exact ⟨⟨hmarks.fits gap _ hgap, hafter⟩, hclose⟩

/-- Written attributes do not begin with an equals sign, and where nothing is written none may
follow. -/
lemma head?_marks_ne {s : List Char} (hmarks : Renderer.Marks marks)
    (hclear : marks = [] → (s.dropWhile isBlank).head? ≠ some '=') :
    ((attributesSource (row [] marks) ++ s).dropWhile isBlank).head? ≠ some '=' := by
  cases marks with
  | nil => exact hclear rfl
  | cons mark marks =>
    obtain ⟨c, hc, hchar⟩ := Renderer.begins_of_mem_markNames (hmarks.names mark (by simp))
    obtain ⟨u, hu⟩ := List.head?_eq_some_iff.1 hc
    have hblank : ¬isBlank c = true := fun h => by
      simp [Attribute.isNameChar_of_isBlank h] at hchar
    rw [row, attributesSource_cons, hu]
    simp only [List.nil_append, List.cons_append]
    rw [List.dropWhile_cons_of_neg hblank, List.head?_cons, ne_eq, Option.some.injEq]
    rintro rfl
    exact absurd hchar (by decide)

/-- What stands behind the name of a tag with one attribute replaced. -/
lemma behindName_replace (t : Tag) (before after : List (List Char × Attribute))
    (gap : List Char) (marks : List Attribute) :
    attributesSource (t.replace before gap marks after).attributes ++
        (t.replace before gap marks after).gap ++ ['>'] =
      attributesSource before ++ gap ++
        (attributesSource (row [] marks) ++ (attributesSource after ++ t.gap ++ ['>'])) := by
  have hsource := splice_source gap marks after t.gap
  calc attributesSource (t.replace before gap marks after).attributes ++
        (t.replace before gap marks after).gap ++ ['>']
      = attributesSource before ++ (attributesSource (splice gap marks after t.gap).1 ++
          (splice gap marks after t.gap).2) ++ ['>'] := by simp [replace]
    _ = _ := by rw [hsource]; simp

lemma body_replace (t : Tag) (before after : List (List Char × Attribute)) (gap : List Char)
    (marks : List Attribute) :
    (t.replace before gap marks after).body =
      t.name ++ attributesSource before ++ gap ++
        (attributesSource (row [] marks) ++ (attributesSource after ++ t.gap ++ ['>'])) := by
  have hbehind := behindName_replace t before after gap marks
  calc (t.replace before gap marks after).body
      = t.name ++ (attributesSource (t.replace before gap marks after).attributes ++
          (t.replace before gap marks after).gap ++ ['>']) := by simp [body, replace]
    _ = _ := by rw [hbehind]; simp

/-- Something stands between the name of a tag and each of its attributes. -/
lemma Fits.prefix_ne_nil {a : Attribute} (h : t.Fits)
    (hsplit : t.attributes = before ++ (gap, a) :: after) :
    attributesSource before ++ gap ≠ [] := by
  intro hnil
  obtain ⟨hname, hattributes, -⟩ := h
  rw [hsplit] at hname hattributes
  obtain ⟨-, -, ⟨c, hc, hbegin⟩, -⟩ := attributesFit_append.1 hattributes
  have hhead : (attributesSource (before ++ (gap, a) :: after) ++ t.gap ++ ['>']).head? =
      some c := by
    rw [attributesSource_append, attributesSource_cons, ← List.append_assoc, ← List.append_assoc,
      hnil, List.nil_append, List.append_assoc, List.append_assoc, List.head?_append, hc]
    rfl
  have hstop := hname.2 c hhead
  rcases hbegin with hchar | rfl
  · simp only [Attribute.isNameChar, Bool.and_eq_true] at hchar
    simp [isNameChar, hchar.1.1.1, hchar.1.2, hchar.2] at hstop
  · exact absurd hstop (by decide)

/-- The first character behind the name of a tag stays when an attribute is replaced. -/
lemma Fits.head?_behindName {a : Attribute} (h : t.Fits)
    (hsplit : t.attributes = before ++ (gap, a) :: after) (marks : List Attribute) :
    (attributesSource (t.replace before gap marks after).attributes ++
        (t.replace before gap marks after).gap ++ ['>']).head? =
      (attributesSource t.attributes ++ t.gap ++ ['>']).head? := by
  obtain ⟨y, ys, hy⟩ := List.exists_cons_of_ne_nil (h.prefix_ne_nil hsplit)
  have hold : attributesSource t.attributes ++ t.gap ++ ['>'] =
      (attributesSource before ++ gap) ++
        (a.source ++ (attributesSource after ++ t.gap ++ ['>'])) := by
    simp [hsplit]
  rw [behindName_replace, hold, hy]
  rfl

/-- A tag begins as before when an attribute is replaced. -/
lemma Fits.head?_body_replace {a : Attribute} (h : t.Fits)
    (hsplit : t.attributes = before ++ (gap, a) :: after) (marks : List Attribute) :
    (t.replace before gap marks after).body.head? = t.body.head? := by
  have hbehind := Text.head?_append_congr t.name (h.head?_behindName hsplit marks)
  simpa [body, replace] using hbehind

/-- **A tag with one attribute replaced is a tag**, if no equals sign comes up where an attribute is
removed. -/
theorem Fits.replace {a : Attribute} (h : t.Fits)
    (hsplit : t.attributes = before ++ (gap, a) :: after) (hmarks : Renderer.Marks marks)
    (hclear : marks = [] →
      ((attributesSource after ++ t.gap ++ ['>']).dropWhile isBlank).head? ≠ some '=') :
    (t.replace before gap marks after).Fits := by
  -- the name and the attributes before the replaced one are all that could notice
  have hbehind := h.head?_behindName hsplit marks
  obtain ⟨hname, hattributes, hclose⟩ := h
  rw [hsplit] at hattributes
  obtain ⟨hbefore, hgap, hbegin, -, hafter⟩ := attributesFit_append.1 hattributes
  obtain ⟨hsplice, hgap'⟩ := splice_fits hgap hmarks hafter hclose
  have hsource := splice_source gap marks after t.gap
  have hhead := head?_marks_ne hmarks hclear
  have hbefore' : AttributesFit before (attributesSource (splice gap marks after t.gap).1 ++
      ((splice gap marks after t.gap).2 ++ ['>'])) := by
    apply hbefore.congr
    intro b x hb
    have hold : x ++ (attributesSource ((gap, a) :: after) ++ (t.gap ++ ['>'])) =
        (x ++ gap) ++ (a.source ++ (attributesSource after ++ (t.gap ++ ['>']))) := by simp
    have hnew : x ++ (attributesSource (splice gap marks after t.gap).1 ++
          ((splice gap marks after t.gap).2 ++ ['>'])) =
        (x ++ gap) ++
          (attributesSource (row [] marks) ++ (attributesSource after ++ t.gap ++ ['>'])) := by
      rw [← List.append_assoc (attributesSource _), hsource]
      simp
    rw [hold] at hb
    rw [hnew]
    exact hb.replace hbegin hhead
  exact ⟨hname.congr hbehind.symm, attributesFit_append.2 ⟨hbefore', hsplice⟩, hgap'⟩

/-! ## The directive of a tag -/

variable {names : List String}

/-- Attributes are split at the first one that is a directive. -/
lemma isDirective_of_splitDirective? {as : List (List Char × Attribute)}
    {r : List (List Char × Attribute) × (List Char × Attribute) × List (List Char × Attribute)}
    (h : splitDirective? names as = some r) :
    isDirective names r.2.1.2 = true ∧ ∀ e ∈ r.1, isDirective names e.2 = false := by
  induction as generalizing r with
  | nil => simp [splitDirective?] at h
  | cons e as ih =>
    rw [splitDirective?] at h
    split at h
    · rename_i he
      obtain rfl := Option.some.inj h
      exact ⟨he, by simp⟩
    · rename_i he
      obtain ⟨r', hr', rfl⟩ := Option.map_eq_some_iff.1 h
      obtain ⟨hdirective, hbefore⟩ := ih hr'
      exact ⟨hdirective, List.forall_mem_cons.2 ⟨by simpa using he, hbefore⟩⟩

/-- The parts of a tag around its directive. -/
theorem exists_of_directive? {s s' : List Char} {a : Attribute}
    (h : t.directive? names = some (s, a, s')) :
    ∃ before gap after, splitDirective? names t.attributes = some (before, (gap, a), after) ∧
      t.attributes = before ++ (gap, a) :: after ∧
      s = t.name ++ attributesSource before ++ gap ∧
      s' = attributesSource after ++ t.gap ++ ['>'] := by
  obtain ⟨⟨before, ⟨gap, a'⟩, after⟩, hsplit, hparts⟩ := Option.map_eq_some_iff.1 h
  simp only [Prod.mk.injEq] at hparts
  obtain ⟨rfl, rfl, rfl⟩ := hparts
  exact ⟨before, gap, after, hsplit, (append_of_splitDirective? hsplit).symm, rfl, rfl⟩

end Tag

end SchemaMarkup
