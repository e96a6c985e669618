import SchemaMarkup.Markup.Place
import SchemaMarkup.Proofs.Markup.Grammar

set_option autoImplicit false

/-!
# Scanning for a tag

Which texts begin with a start tag, told from left to right: a name, gaps and attributes in turn, and
the closing bracket. Every part is as long as it can be in the text that really follows, so that a
text begins with one tag at most. The scan at an offset of a document finds that tag, and the places
of its attributes lie in it one after another.

## Main definitions

* `SchemaMarkup.Attribute.Written` — a text begins with an attribute.
* `SchemaMarkup.Tag.AttributesWritten`, `SchemaMarkup.Tag.Written` — a text begins with a tag.
* `SchemaMarkup.Attribute.entry`, `SchemaMarkup.Tag.Span.entry` — the name and the value of an
  attribute, by itself and at its place.

## Main results

* `SchemaMarkup.Tag.readAfter_iff_written` — a tag is read exactly where one is written.
* `SchemaMarkup.Tag.at?_finds_written` — what the scan at an offset finds.
-/

namespace SchemaMarkup

open Text (isBlank IsRun)

namespace Attribute

/-- The name and the value of an attribute. -/
def entry (a : Attribute) : List Char × Option (List Char) := (a.name, a.value?)

/-! ## Attributes from left to right -/

/-- The text begins with the attribute, and the rest follows it. Names and white space are as long
as they can be. -/
inductive Written : List Char → Attribute → List Char → Prop where
  /-- A name alone. It is not empty, and no equals sign stands behind it and white space. -/
  | bare {name rest : List Char} (hne : name ≠ []) (hname : IsRun isNameChar name rest)
      (hrest : (rest.dropWhile isBlank).head? ≠ some '=') :
      Written (name ++ rest) ⟨name, none⟩ rest
  /-- A name, which may be empty, and a value between two equal quotes that does not hold the
  quote. -/
  | quoted {name before after value rest : List Char} {q : Char}
      (hname : IsRun isNameChar name (before ++ ['='])) (hbefore : ∀ c ∈ before, isBlank c = true)
      (hafter : ∀ c ∈ after, isBlank c = true) (hq : q = '"' ∨ q = '\'') (hvalue : q ∉ value) :
      Written (name ++ before ++ '=' :: after ++ q :: value ++ q :: rest)
        ⟨name, some ⟨before, after, some q, value⟩⟩ rest
  /-- A name, which may be empty, and a value that begins with no quote and extends to the next white
  space or closing bracket. -/
  | unquoted {name before after value rest : List Char}
      (hname : IsRun isNameChar name (before ++ ['='])) (hbefore : ∀ c ∈ before, isBlank c = true)
      (hafter : IsRun isBlank after (value ++ rest)) (hvalue : IsRun isValueChar value rest)
      (hquote : ∀ c, value.head? = some c → c ≠ '"' ∧ c ≠ '\'') :
      Written (name ++ before ++ '=' :: after ++ value ++ rest)
        ⟨name, some ⟨before, after, none, value⟩⟩ rest

lemma isQuote_iff {c : Char} : isQuote c = true ↔ c = '"' ∨ c = '\'' := by
  simp [isQuote]

lemma isQuote_eq_false_iff {c : Char} : isQuote c = false ↔ c ≠ '"' ∧ c ≠ '\'' := by
  simp [isQuote]

variable {a : Attribute} {s rest : List Char}

/-- An attribute is written where it fits. A bare one needs a name. -/
lemma written_iff :
    Written s a rest ↔
      a.source ++ rest = s ∧ a.Fits rest ∧ (a.assignment = none → a.name ≠ []) := by
  constructor
  · intro h
    cases h with
    | bare hne hname hrest => exact ⟨by simp [source], ⟨hname, hrest⟩, fun _ => hne⟩
    | @quoted name before after value _ q hname hbefore hafter hq hvalue =>
      have hqblank := isBlank_of_isQuote (isQuote_iff.2 hq)
      have hrun : IsRun isBlank after (q :: (value ++ q :: rest)) := Text.isRun_cons hafter hqblank
      refine ⟨by simp [source, Assignment.source], ⟨hname.1, hbefore, ?_, isQuote_iff.2 hq, hvalue⟩,
        by simp⟩
      simpa using hrun
    | @unquoted name before after value _ hname hbefore hafter hvalue hquote =>
      refine ⟨by simp [source, Assignment.source],
        ⟨hname.1, hbefore, by simpa using hafter, hvalue, fun c hc => ?_⟩, by simp⟩
      exact isQuote_eq_false_iff.2 (hquote c hc)
  · rintro ⟨rfl, hfits, hne⟩
    obtain ⟨name, assignment⟩ := a
    cases assignment with
    | none =>
      obtain ⟨hname, hrest⟩ := hfits
      simpa [source] using Written.bare (hne rfl) hname hrest
    | some m =>
      obtain ⟨before, after, quote, value⟩ := m
      obtain ⟨hname, hbefore, hafter, hvalue⟩ := hfits
      have hrun := isRun_name hname hbefore []
      cases quote with
      | some q =>
        obtain ⟨hq, hvalue⟩ := hvalue
        have h : Written _ _ rest :=
          .quoted hrun hbefore hafter.1 (isQuote_iff.1 hq) hvalue
        simpa [source, Assignment.source] using h
      | none =>
        obtain ⟨hvalue, hquote⟩ := hvalue
        have hafter : IsRun isBlank after (value ++ rest) := by simpa using hafter
        simpa [source, Assignment.source] using
          Written.unquoted hrun hbefore hafter hvalue
            fun c hc => isQuote_eq_false_iff.1 (hquote c hc)

/-- What is written behind a gap that is as long as it can be begins an attribute. -/
lemma Written.begins (h : Written s a rest) {gap : List Char}
    (hgap : IsRun Tag.isGapChar gap s) : a.Begins := by
  obtain ⟨rfl, hfits, hne⟩ := written_iff.1 h
  obtain ⟨name, assignment⟩ := a
  cases assignment with
  | none =>
    obtain ⟨c, cs, rfl⟩ := List.exists_cons_of_ne_nil (hne rfl)
    exact ⟨c, rfl, .inl (hfits.1.1 c List.mem_cons_self)⟩
  | some m =>
    obtain ⟨before, after, quote, value⟩ := m
    obtain ⟨hname, hbefore, -⟩ := hfits
    cases name with
    | cons c cs => exact ⟨c, rfl, .inl (hname c List.mem_cons_self)⟩
    | nil =>
      cases before with
      | nil => exact ⟨'=', rfl, .inr rfl⟩
      | cons b before =>
        -- white space would belong to the gap
        have hstop := hgap.2 b rfl
        have hblank := hbefore b List.mem_cons_self
        simp [Tag.isGapChar, hblank] at hstop

/-- What begins an attribute and fits is written. -/
lemma written_of_fits (hbegins : a.Begins) (hfits : a.Fits rest) :
    Written (a.source ++ rest) a rest := by
  refine written_iff.2 ⟨rfl, hfits, fun hnone hnil => ?_⟩
  obtain ⟨c, hc, -⟩ := hbegins
  simp [source, hnone, hnil] at hc

end Attribute

namespace Tag

/-! ## Tags from left to right -/

/-- The text begins with the attributes, each behind a gap, then the gap `close` and the closing
bracket, and the rest follows it. Gaps are as long as they can be. -/
inductive AttributesWritten :
    List Char → List (List Char × Attribute) → List Char → List Char → Prop where
  | nil {close rest : List Char} (hclose : IsRun isGapChar close ('>' :: rest)) :
      AttributesWritten (close ++ '>' :: rest) [] close rest
  | cons {gap s s' close rest : List Char} {a : Attribute}
      {as : List (List Char × Attribute)} (hgap : IsRun isGapChar gap s) (ha : a.Written s s')
      (has : AttributesWritten s' as close rest) :
      AttributesWritten (gap ++ s) ((gap, a) :: as) close rest

/-- The text begins with the tag, from its name to its closing bracket, and the rest follows it. The
name is as long as it can be. -/
def Written (s : List Char) (t : Tag) (rest : List Char) : Prop :=
  ∃ s', s = t.name ++ s' ∧ IsRun isNameChar t.name s' ∧
    AttributesWritten s' t.attributes t.gap rest

variable {s rest close : List Char} {as : List (List Char × Attribute)} {t : Tag}

/-- Attributes that are written are the ones that are read. -/
lemma AttributesWritten.read (h : AttributesWritten s as close rest) :
    readAttributes s = some ((as, close), rest) := by
  have hparts : attributesSource as ++ (close ++ '>' :: rest) = s ∧
      AttributesFit as (close ++ '>' :: rest) ∧ ∀ c ∈ close, isGapChar c = true := by
    induction h with
    | nil hclose => exact ⟨rfl, trivial, hclose.1⟩
    | cons hgap ha _ ih =>
      obtain ⟨hsource, hfits, hclose⟩ := ih
      have hbegins := ha.begins hgap
      obtain ⟨rfl, hfit, -⟩ := Attribute.written_iff.1 ha
      refine ⟨by simp [← hsource], ⟨hgap.1, hbegins, ?_, hfits⟩, hclose⟩
      rwa [hsource]
  obtain ⟨rfl, hfits, hclose⟩ := hparts
  exact readAttributes_of_fits hfits hclose

/-- Attributes that fit are written. -/
lemma attributesWritten_of_fits (has : AttributesFit as (close ++ '>' :: rest))
    (hclose : ∀ c ∈ close, isGapChar c = true) :
    AttributesWritten (attributesSource as ++ (close ++ '>' :: rest)) as close rest := by
  induction as with
  | nil => exact .nil (Text.isRun_cons hclose (by decide))
  | cons e as ih =>
    obtain ⟨gap, a⟩ := e
    obtain ⟨hgap, hbegins, hfits, hrest⟩ := has
    have hrun := isRun_gap (s := attributesSource as ++ (close ++ '>' :: rest)) hgap hbegins
    simpa using AttributesWritten.cons hrun (Attribute.written_of_fits hbegins hfits)
      (ih hrest)

/-- **A tag is read exactly where one is written.** -/
theorem readAfter_iff_written : readAfter s = some (t, rest) ↔ Written s t rest := by
  constructor
  · intro h
    obtain ⟨rfl, hname, hfits, hclose⟩ := readAfter_eq_some_iff.1 h
    have hrun : IsRun isNameChar t.name
        (attributesSource t.attributes ++ (t.gap ++ '>' :: rest)) := by
      rw [← List.append_assoc]
      exact hname.congr (Text.head?_append_congr _ rfl)
    exact ⟨_, by simp [body], hrun, attributesWritten_of_fits (hfits.bracket rest) hclose⟩
  · rintro ⟨s', rfl, hname, hwritten⟩
    rw [readAfter, hname.dropWhile_append, hname.takeWhile_append, hwritten.read]
    rfl

/-! ## The places of attributes -/

/-- The name and the value of an attribute at its place. -/
def Span.entry (x : Span) : List Char × Option (List Char) := (x.name, x.value)

/-- The text of an attribute in a document. -/
def Span.textIn (html : List Char) (x : Span) : List Char :=
  (html.drop x.start).take (x.stop - x.start)

lemma map_entry_spansFrom (start : Nat) (as : List (List Char × Attribute)) :
    (spansFrom start as).map Span.entry = as.map fun e => e.2.entry := by
  induction as generalizing start with
  | nil => rfl
  | cons e as ih => rw [spansFrom, List.map_cons, List.map_cons, ih, Span.entry, Attribute.entry]

/-- At the place of an attribute stands its text. -/
lemma map_textIn_spansFrom {html : List Char} {start : Nat}
    (h : html.drop start = attributesSource as ++ rest) :
    (spansFrom start as).map (Span.textIn html) = as.map fun e => e.2.source := by
  induction as generalizing start with
  | nil => rfl
  | cons e as ih =>
    obtain ⟨gap, a⟩ := e
    have hfirst : html.drop (start + gap.length) =
        a.source ++ (attributesSource as ++ rest) := by
      rw [← List.drop_drop, h]
      simp
    have hrest : html.drop (start + gap.length + a.source.length) =
        attributesSource as ++ rest := by
      rw [← List.drop_drop, hfirst, List.drop_left]
    rw [spansFrom, List.map_cons, List.map_cons, ih hrest, Span.textIn]
    simp only [hfirst, Nat.add_sub_cancel_left, List.take_left]

/-- The places of attributes lie where the attributes are written, and none is empty. -/
lemma mem_spansFrom {start : Nat} {x : Span} (has : AttributesFit as rest)
    (h : x ∈ spansFrom start as) :
    start ≤ x.start ∧ x.start < x.stop ∧ x.stop ≤ start + (attributesSource as).length := by
  induction as generalizing start with
  | nil => simp [spansFrom] at h
  | cons e as ih =>
    obtain ⟨gap, a⟩ := e
    obtain ⟨-, ⟨c, hc, -⟩, -, hrest⟩ := has
    have hpos : 0 < a.source.length := by
      rw [List.length_pos_iff]
      rintro hnil
      simp [hnil] at hc
    rw [attributesSource_cons, List.length_append, List.length_append]
    rcases List.mem_cons.1 h with rfl | h
    · simp only
      omega
    · obtain ⟨hstart, hlt, hstop⟩ := ih hrest h
      omega

/-- The places of attributes come one after another. -/
lemma pairwise_spansFrom {start : Nat} (has : AttributesFit as rest) :
    (spansFrom start as).Pairwise fun x y => x.stop ≤ y.start := by
  induction as generalizing start with
  | nil => exact .nil
  | cons e as ih =>
    obtain ⟨gap, a⟩ := e
    obtain ⟨-, -, -, hrest⟩ := has
    exact .cons (fun y hy => (mem_spansFrom hrest hy).1) (ih hrest)

/-! ## The scan at an offset -/

/-- **The scan at an offset of a document finds what is written there.** It finds a tag exactly if
one is written behind the offset. One tag at most is, and it is the one that is found: the tag ends
behind its closing bracket, the places of its attributes hold their names, values and texts, and
they lie inside the tag, none of them empty and one behind another.

**Proof sketch.** What is written is what is read (`readAfter_iff_written`), so that two tags written
at one place are the same. The places are told by the lengths of what stands before them
(`mem_spansFrom`, `pairwise_spansFrom`). -/
theorem at?_finds_written (html : List Char) (start : Nat) :
    ((∃ p, Tag.at? html start = some p) ↔
        ∃ t rest, Written (html.drop (start + 1)) t rest) ∧
      (∀ t rest t' rest', Written (html.drop (start + 1)) t rest →
        Written (html.drop (start + 1)) t' rest' → t = t' ∧ rest = rest') ∧
      ∀ t rest, Written (html.drop (start + 1)) t rest →
        ∃ p, Tag.at? html start = some p ∧ p.tag = t ∧
          p.stop ≤ html.length ∧ html.drop p.stop = rest ∧
          p.spans.map Span.entry = t.attributes.map (fun e => e.2.entry) ∧
          p.spans.map (Span.textIn html) = t.attributes.map (fun e => e.2.source) ∧
          (∀ x ∈ p.spans, start < x.start ∧ x.start < x.stop ∧ x.stop < p.stop) ∧
          p.spans.Pairwise fun x y => x.stop ≤ y.start := by
  have hfound : ∀ t rest, Written (html.drop (start + 1)) t rest →
      Tag.at? html start = some ⟨t, start, start + 1 + t.body.length⟩ := by
    intro t rest h
    rw [Tag.at?, readAfter_iff_written.2 h]
    rfl
  refine ⟨⟨?_, ?_⟩, ?_, ?_⟩
  · rintro ⟨p, hp⟩
    exact ⟨_, _, readAfter_iff_written.1 (Tag.drop_stop_of_at? hp)⟩
  · rintro ⟨t, rest, h⟩
    exact ⟨_, hfound t rest h⟩
  · intro t rest t' rest' h h'
    have heq := (readAfter_iff_written.2 h).symm.trans (readAfter_iff_written.2 h')
    simpa using heq
  · intro t rest h
    have hp := hfound t rest h
    have hread := readAfter_iff_written.2 h
    obtain ⟨hbody, -, hfits, -⟩ := readAfter_eq_some_iff.1 hread
    have hattributes : html.drop (start + 1 + t.name.length) =
        attributesSource t.attributes ++ (t.gap ++ '>' :: rest) := by
      rw [← List.drop_drop, ← hbody]
      simp [body]
    have hbodyLength : t.body.length =
        t.name.length + (attributesSource t.attributes).length + t.gap.length + 1 := by
      simp [body, Nat.add_assoc]
    have hlength : html.length = start + 1 + t.body.length + rest.length := by
      have hsum := congrArg List.length hbody
      simp only [List.length_append, List.length_drop] at hsum
      omega
    refine ⟨_, hp, rfl, by simp only; omega, ?_, map_entry_spansFrom _ _,
      map_textIn_spansFrom hattributes, fun x hx => ?_, pairwise_spansFrom hfits⟩
    · rw [← List.drop_drop, ← hbody, List.drop_left]
    · obtain ⟨hfirst, hlt, hlast⟩ := mem_spansFrom hfits hx
      simp only at hfirst hlast ⊢
      omega

end Tag

end SchemaMarkup
