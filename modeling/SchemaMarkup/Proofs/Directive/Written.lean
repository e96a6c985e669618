import Mathlib.Data.List.Forall2
import SchemaMarkup.Directive.Token
import SchemaMarkup.Proofs.Text.Words

set_option autoImplicit false

/-!
# Directives as they are written

A token is written as those of its fields that are present, joined by dots, and a directive as its
tokens with white space between them. In two ways the same fields could be read as different tokens:
what stands first could be a type or a property. The vocabulary decides which, so that a token has to
agree with it to be read again. Every other token and every piece of a directive correspond to each
other, but for the pieces that are malformed.

## Main definitions

* `SchemaMarkup.Token.written` — a token as it is written.
* `SchemaMarkup.Token.Canonical` — a token that agrees with the vocabulary.
* `SchemaMarkup.Token.Malformed` — a piece with an empty segment or too many.

## Main results

* `SchemaMarkup.Token.classify_written` — a token that is written is read again.
* `SchemaMarkup.Token.written_classify` — a piece that is read is written again.
* `SchemaMarkup.Token.ofDirective_written` — directives and lists of tokens.
-/

namespace SchemaMarkup.Token

variable {v : Vocabulary} {t : Token} {w : List Char} {segs : List String}

/-! ## Fields -/

/-- The fields of a token that are present, in order. -/
def fields (t : Token) : List String := t.type.toList ++ t.property.toList ++ t.expected.toList

/-- A token as it is written: its fields, joined by dots. -/
def written (t : Token) : List Char := ['.'].intercalate (t.fields.map String.toList)

/-- What a field can hold: a text that is not empty, without white space and dots. -/
def IsField (s : String) : Prop := Text.IsWord s.toList ∧ '.' ∉ s.toList

instance (s : String) : Decidable (IsField s) :=
  inferInstanceAs (Decidable (Text.IsWord s.toList ∧ '.' ∉ s.toList))

/-- The forms of tokens in a vocabulary. A type that stands alone or in front of a property is a type
of the vocabulary, and a property without a type is none. -/
inductive Form (v : Vocabulary) : Token → Prop
  | type {a : String} (ha : v.has a = true) : Form v ⟨some a, none, none⟩
  | property {p : String} (hp : v.has p = false) : Form v ⟨none, some p, none⟩
  | ofType {a : String} (ha : v.has a = true) (p : String) : Form v ⟨some a, some p, none⟩
  | expecting {p : String} (hp : v.has p = false) (e : String) : Form v ⟨none, some p, some e⟩
  | all (a p e : String) : Form v ⟨some a, some p, some e⟩

/-- A token whose fields can be written and which has one of the forms. -/
structure Canonical (v : Vocabulary) (t : Token) : Prop where
  fields : ∀ s ∈ t.fields, IsField s
  form : Form v t

/-- A token of a form has one to three fields. -/
lemma Form.length_fields (h : Form v t) : 0 < t.fields.length ∧ t.fields.length ≤ 3 := by
  cases h <;> simp [Token.fields]

/-- A token of a form is the meaning of its fields. -/
lemma Form.ofSegments_fields (h : Form v t) : ofSegments v t.fields = t := by
  cases h with
  | type ha => simp [Token.fields, ofSegments, ha]
  | property hp => simp [Token.fields, ofSegments, hp]
  | ofType ha p => simp [Token.fields, ofSegments, ha]
  | expecting hp e => simp [Token.fields, ofSegments, hp]
  | all a p e => rfl

/-- One to three segments mean a token of a form, whose fields they are. -/
lemma form_ofSegments (v : Vocabulary) (hpos : 0 < segs.length) (hle : segs.length ≤ 3) :
    Form v (ofSegments v segs) ∧ (ofSegments v segs).fields = segs := by
  match segs, hpos, hle with
  | [a], _, _ =>
    cases ha : v.has a with
    | true =>
      rw [ofSegments, if_pos ha]
      exact ⟨.type ha, rfl⟩
    | false =>
      rw [ofSegments, if_neg (by simp [ha])]
      exact ⟨.property ha, rfl⟩
  | [a, b], _, _ =>
    cases ha : v.has a with
    | true =>
      rw [ofSegments, if_pos ha]
      exact ⟨.ofType ha b, rfl⟩
    | false =>
      rw [ofSegments, if_neg (by simp [ha])]
      exact ⟨.expecting ha b, rfl⟩
  | [a, b, c], _, _ => exact ⟨.all a b c, rfl⟩

/-- More than three segments mean nothing. -/
lemma ofSegments_of_lt (h : 3 < segs.length) : ofSegments v segs = blank := by
  match segs, h with
  | _ :: _ :: _ :: _ :: _, _ => rfl

/-! ## Pieces -/

/-- A piece that is cut by its dots into segments of which one is empty, or into more than three. -/
def Malformed (w : List Char) : Prop :=
  ∃ segs, segs ≠ [] ∧ (∀ x ∈ segs, '.' ∉ x) ∧ ['.'].intercalate segs = w ∧
    ([] ∈ segs ∨ 3 < segs.length)

/-- The segments that are read decide whether a piece is malformed. -/
lemma malformed_iff : Malformed w ↔ [] ∈ segments w ∨ 3 < (segments w).length := by
  constructor
  · rintro ⟨segs, hne, hdots, hjoin, h⟩
    have hsegs : segments w = segs := Text.pieces_eq_iff.2 ⟨hne, hdots, hjoin⟩
    rwa [hsegs]
  · intro h
    obtain ⟨hne, hdots, hjoin⟩ := Text.pieces_eq_iff.1 (rfl : segments w = _)
    exact ⟨segments w, hne, hdots, hjoin, h⟩

instance (w : List Char) : Decidable (Malformed w) :=
  decidable_of_iff ((segments w).any List.isEmpty = true ∨ 3 < (segments w).length)
    (by simp [malformed_iff])

/-- A malformed piece means nothing. -/
lemma classify_of_malformed (v : Vocabulary) (hw : Text.IsWord w) (h : Malformed w) :
    classify v w = blank := by
  rw [classify, Text.stripChars_of_forall hw.2]
  by_cases hempty : [] ∈ segments w
  · exact if_pos hempty
  · rw [if_neg hempty]
    exact ofSegments_of_lt (by simpa using (malformed_iff.1 h).resolve_left hempty)

/-- A piece that is not malformed means what its segments do. -/
lemma classify_of_not_malformed (hw : Text.IsWord w) (h : ¬Malformed w) :
    classify v w = ofSegments v ((segments w).map String.ofList) := by
  rw [malformed_iff, not_or] at h
  rw [classify, Text.stripChars_of_forall hw.2]
  exact if_neg h.1

/-! ## Reading and writing -/

/-- A canonical token is written as a word, whose segments are its fields. -/
lemma Canonical.isWord_written (h : t.Canonical v) :
    Text.IsWord t.written ∧ segments t.written = t.fields.map String.toList := by
  have hsegments : segments t.written = t.fields.map String.toList := by
    refine Text.pieces_eq_iff.2 ⟨?_, ?_, rfl⟩
    · exact List.ne_nil_of_length_pos (by simpa using h.form.length_fields.1)
    · rintro _ hx
      obtain ⟨s, hs, rfl⟩ := List.mem_map.1 hx
      exact (h.fields s hs).2
  refine ⟨⟨fun hnil => ?_, fun c hc => ?_⟩, hsegments⟩
  · -- the empty text has an empty segment, and no field is empty
    have hempty : [] ∈ t.fields.map String.toList := by
      rw [← hsegments, hnil]
      exact List.mem_singleton_self _
    obtain ⟨s, hs, hempty⟩ := List.mem_map.1 hempty
    exact (h.fields s hs).1.1 hempty
  · by_cases hdot : c = '.'
    · rw [hdot]
      decide
    · obtain ⟨_, hx, hc⟩ := (Text.mem_intercalate_iff hdot).1 hc
      obtain ⟨s, hs, rfl⟩ := List.mem_map.1 hx
      exact (h.fields s hs).1.2 c hc

/-- **A canonical token that is written is read again.** -/
theorem classify_written (h : t.Canonical v) : classify v t.written = t := by
  obtain ⟨hword, hsegments⟩ := h.isWord_written
  have hformed : ¬Malformed t.written := by
    rw [malformed_iff, hsegments, not_or, List.length_map]
    refine ⟨fun hempty => ?_, Nat.not_lt.2 h.form.length_fields.2⟩
    obtain ⟨s, hs, hempty⟩ := List.mem_map.1 hempty
    exact (h.fields s hs).1.1 hempty
  have hfields : (t.fields.map String.toList).map String.ofList = t.fields := by
    simp [Function.comp_def]
  rw [classify_of_not_malformed hword hformed, hsegments, hfields, h.form.ofSegments_fields]

/-- **A word that is not malformed is read as a canonical token**, which is written again. -/
theorem written_classify (v : Vocabulary) (hw : Text.IsWord w) (h : ¬Malformed w) :
    (classify v w).Canonical v ∧ (classify v w).written = w := by
  rw [classify_of_not_malformed hw h]
  obtain ⟨hne, hdots, hjoin⟩ := Text.pieces_eq_iff.1 (rfl : segments w = _)
  rw [malformed_iff, not_or] at h
  have hpos : 0 < ((segments w).map String.ofList).length := by
    simpa using List.length_pos_iff.2 hne
  obtain ⟨hform, hfields⟩ := form_ofSegments v hpos (by simpa using h.2)
  have hlists : ((segments w).map String.ofList).map String.toList = segments w := by
    simp [Function.comp_def]
  refine ⟨⟨fun s hs => ?_, hform⟩, ?_⟩
  · rw [hfields] at hs
    obtain ⟨x, hx, rfl⟩ := List.mem_map.1 hs
    rw [IsField, String.toList_ofList]
    refine ⟨⟨fun hempty => h.1 (hempty ▸ hx), fun c hc => hw.2 c ?_⟩, hdots x hx⟩
    have hdot : c ≠ '.' := fun hdot => hdots x hx (hdot ▸ hc)
    rw [← hjoin]
    exact (Text.mem_intercalate_iff hdot).2 ⟨x, hx, hc⟩
  · rw [written, hfields, hlists]
    exact hjoin

/-- No canonical token carries nothing. -/
lemma Canonical.ne_blank (h : t.Canonical v) : t ≠ blank := by
  rintro rfl
  exact absurd h.form.length_fields.1 (by decide)

/-- **Directives and lists of canonical tokens.** Canonical tokens that are written with white space
between them are read again. The other way round, a directive is made up of words in exactly one way,
and each word is read as one token. The token carries nothing exactly if the word is malformed, and
otherwise it is canonical and written as the word.

**Proof sketch.** A word without malformation and a canonical token say the same, because the
segments between dots are the only texts without dots that make up the word
(`Text.pieces_eq_iff`), and the vocabulary reads one form into any number of them up to three
(`form_ofSegments`). Words and directives are related likewise (`Text.words_eq_iff`). -/
theorem ofDirective_written (v : Vocabulary) :
    (∀ ts : List Token, (∀ t ∈ ts, t.Canonical v) → ∀ d : String,
      Text.Spaced (ts.map written) d.toList → ofDirective v d = ts) ∧
    ∀ d : String, ∃ ws, Text.Spaced ws d.toList ∧ (∀ w ∈ ws, Text.IsWord w) ∧
      (∀ ws', Text.Spaced ws' d.toList → (∀ w ∈ ws', Text.IsWord w) → ws' = ws) ∧
      List.Forall₂ (fun w t => (t = blank ↔ Malformed w) ∧
        (t ≠ blank → t.Canonical v ∧ t.written = w)) ws (ofDirective v d) := by
  constructor
  · intro ts hts d hd
    have hwords : Text.words d.toList = ts.map written := by
      refine hd.words_eq fun w hw => ?_
      obtain ⟨t, ht, rfl⟩ := List.mem_map.1 hw
      exact (hts t ht).isWord_written.1
    have hread : ts.map (classify v ∘ written) = ts.map id :=
      List.map_congr_left fun t ht => classify_written (hts t ht)
    rw [ofDirective, hwords, List.map_map, hread, List.map_id]
  · intro d
    obtain ⟨hspaced, hwords⟩ := Text.words_eq_iff.1 (rfl : Text.words d.toList = _)
    refine ⟨Text.words d.toList, hspaced, hwords, fun ws' hd hws' => (hd.words_eq hws').symm, ?_⟩
    rw [ofDirective, List.forall₂_map_right_iff, List.forall₂_same]
    intro w hw
    by_cases h : Malformed w
    · have hblank := classify_of_malformed v (hwords w hw) h
      exact ⟨iff_of_true hblank h, fun hne => absurd hblank hne⟩
    · obtain ⟨hcanonical, hwritten⟩ := written_classify v (hwords w hw) h
      exact ⟨iff_of_false hcanonical.ne_blank h, fun _ => ⟨hcanonical, hwritten⟩⟩

-- the same two segments mean one thing behind a type and another behind a property
example : ofDirective (.rootOnly "Thing") "\tThing.name  name.Thing a..b" =
    [⟨some "Thing", some "name", none⟩, ⟨none, some "name", some "Thing"⟩, blank] := by
  decide +kernel

end SchemaMarkup.Token
