import SchemaMarkup.Proofs.Expander.Frame
import SchemaMarkup.Proofs.Markup.Locality
import SchemaMarkup.Proofs.Text.Lower

set_option autoImplicit false

/-!
# Where raw text ends

Behind the start tag of a script or a style sheet everything is copied up to a closing tag. Of the
name of a closing tag only as many characters are compared as the element's name has. The text hence
ends at the first closing tag whose name begins like that of the element: at the element's own, or
before it at one with a longer name. Directives behind the latter are replaced.

## Main definitions

* `SchemaMarkup.Text.IsFirstFrom` — the first offset at which a text goes on in some way.
* `SchemaMarkup.Segment.ClosesElement`, `SchemaMarkup.Segment.ClosesLonger` — the closing tags of the
  element's name and of longer names.

## Main results

* `SchemaMarkup.Segment.closes_iff` — the closing tags that are looked for are of these two kinds.
* `SchemaMarkup.Segment.rawAt_isFirstFrom` — raw text ends at the first of them.
* `SchemaMarkup.Segmentation.exists_raw` — what follows the start tag of a script or a style sheet.
* `SchemaMarkup.Expander.skipRaw_ends` — where raw text ends, and that it is copied up to there.
-/

namespace SchemaMarkup

namespace Text

variable {p q : List Char → Prop} {s before after : List Char} {start stop : Nat}

/-- The offset `stop` is the first one, from `start` on, where what follows in the text satisfies
`p`; it is the end of the text if there is none. -/
def IsFirstFrom (p : List Char → Prop) (s : List Char) (start stop : Nat) : Prop :=
  (∀ i < stop, start ≤ i → ¬p (s.drop i)) ∧
    (start ≤ stop ∧ p (s.drop stop) ∨ stop = s.length ∧ ∀ i, start ≤ i → ¬p (s.drop i))

/-- A cut is at the first offset. -/
lemma CutsBefore.isFirstFrom {p : List Char → Bool} (hnil : p [] = false)
    (h : CutsBefore p (s.drop start) before after) :
    IsFirstFrom (p · = true) s start (min (start + before.length) s.length) := by
  obtain ⟨happend, hafter, hbefore⟩ := h
  have hinside : ∀ i < start + before.length, start ≤ i → ¬p (s.drop i) = true := by
    intro i hi hstart
    obtain ⟨k, rfl⟩ := Nat.exists_eq_add_of_le hstart
    have hk : k < before.length := Nat.lt_of_add_lt_add_left hi
    have hdrop : s.drop (start + k) = before.drop k ++ after := by
      rw [← List.drop_drop, ← happend, List.drop_append_of_le_length hk.le]
    rw [hdrop, Bool.not_eq_true]
    exact hbefore (before.take k) (before.drop k) (List.take_append_drop k before)
      (by simpa using hk)
  refine ⟨fun i hi => hinside i (Nat.lt_of_lt_of_le hi (Nat.min_le_left _ _)), ?_⟩
  have hlength := congrArg List.length happend
  rw [List.length_append, List.length_drop] at hlength
  rcases hafter with rfl | hafter
  · refine .inr ⟨by rw [List.length_nil] at hlength; omega, fun i hstart => ?_⟩
    by_cases hi : i < start + before.length
    · exact hinside i hi hstart
    · rw [List.drop_eq_nil_of_le (by rw [List.length_nil] at hlength; omega)]
      exact Bool.not_eq_true _ ▸ hnil
  · have hne : after ≠ [] := by
      rintro rfl
      exact Bool.false_ne_true (hnil.symm.trans hafter)
    have hstop : min (start + before.length) s.length = start + before.length := by
      have := List.length_pos_iff.2 hne
      omega
    have hdrop : s.drop (start + before.length) = after := by
      rw [← List.drop_drop, ← happend, List.drop_left]
    rw [hstop, hdrop]
    exact .inl ⟨Nat.le_add_right _ _, hafter⟩

/-- The first offset of two kinds is the first one of one kind exactly if it is not of the other
kind, which none is that is of the first one. -/
lemma IsFirstFrom.left_iff (hnil : ¬q []) (hpq : ∀ t, p t → ¬q t)
    (h : IsFirstFrom (fun t => p t ∨ q t) s start stop) :
    IsFirstFrom p s start stop ↔ ¬q (s.drop stop) := by
  obtain ⟨hearlier, hend⟩ := h
  constructor
  · rintro ⟨-, ⟨-, hp⟩ | ⟨rfl, -⟩⟩
    · exact hpq _ hp
    · rwa [List.drop_length]
  · intro hq
    refine ⟨fun i hi hstart hp => hearlier i hi hstart (.inl hp), ?_⟩
    rcases hend with ⟨hstart, hp | hq'⟩ | ⟨hlength, hnone⟩
    · exact .inl ⟨hstart, hp⟩
    · exact absurd hq' hq
    · exact .inr ⟨hlength, fun i hstart hp => hnone i hstart (.inl hp)⟩

end Text

open Text (CutsBefore IsFirstFrom)

/-- A character that ends the name of a tag is in lower case. -/
lemma Tag.isLower_of_not_isNameChar {c : Char} (h : isNameChar c = false) : Text.IsLower c := by
  rw [isNameChar, Bool.and_eq_false_iff, Bool.and_eq_false_iff] at h
  rcases h with (h | h) | h
  · exact Text.isLower_of_isBlank (by simpa using h)
  · obtain rfl : c = '/' := by simpa using h
    decide +kernel
  · obtain rfl : c = '>' := by simpa using h
    decide +kernel

namespace Segment

variable {name s : List Char}

/-! ## Closing tags of two kinds -/

/-- The name of the closing tag that a text begins with. It runs up to white space, a slash or the
bracket that closes the tag. -/
def closingName? : List Char → Option (List Char)
  | '<' :: '/' :: rest => some (rest.takeWhile Tag.isNameChar)
  | _ => none

/-- The text begins with a closing tag of the element's name, in any letter case. -/
def ClosesElement (name s : List Char) : Prop :=
  ∃ n ∈ closingName? s, Text.lowerChars n = Text.lowerChars name

/-- The text begins with a closing tag whose name goes on behind the element's name. -/
def ClosesLonger (name s : List Char) : Prop :=
  ∃ n ∈ closingName? s, name.length < n.length ∧
    Text.lowerChars (n.take name.length) = Text.lowerChars name

instance (name s : List Char) : Decidable (ClosesElement name s) :=
  inferInstanceAs (Decidable (∃ n ∈ closingName? s, _))

instance (name s : List Char) : Decidable (ClosesLonger name s) :=
  inferInstanceAs (Decidable (∃ n ∈ closingName? s, _))

/-- A name of an element with raw text is as long as its lower-case form. -/
lemma length_lowerChars_of_mem (hname : Text.lowerChars name ∈ rawNames) :
    (Text.lowerChars name).length = name.length := by
  have hdot : ∀ n ∈ rawNames, Text.combiningDot ∉ n := by decide
  exact Text.length_lowerChars (hdot _ hname)

/-- So is a text with that lower-case form. -/
lemma length_eq_of_lowerChars_eq {n : List Char} (hname : Text.lowerChars name ∈ rawNames)
    (h : Text.lowerChars n = Text.lowerChars name) : n.length = name.length := by
  rw [← length_lowerChars_of_mem hname, ← h, length_lowerChars_of_mem (h ▸ hname)]

/-- It is made of characters of names, because a character that ends a name would be found in the
lower-case form. -/
lemma isNameChar_of_lowerChars_eq {n : List Char} (hname : Text.lowerChars name ∈ rawNames)
    (h : Text.lowerChars n = Text.lowerChars name) : ∀ c ∈ n, Tag.isNameChar c = true := by
  have hchars : ∀ n ∈ rawNames, n.all Tag.isNameChar = true := by decide
  intro c hc
  by_contra hnot
  have hlower := Tag.isLower_of_not_isNameChar (by simpa using hnot)
  exact hnot (List.all_eq_true.1 (hchars _ hname) c (h ▸ Text.mem_lowerChars hlower hc))

/-- Nothing is closed at the end of a document. -/
lemma not_closesLonger_nil : ¬ClosesLonger name [] := by
  rintro ⟨n, hn, -⟩
  simp [closingName?] at hn

/-- No text begins with closing tags of both kinds. -/
lemma not_closesLonger (hname : Text.lowerChars name ∈ rawNames) (h : ClosesElement name s) :
    ¬ClosesLonger name s := by
  rintro ⟨n, hn, hlonger, -⟩
  obtain ⟨n', hn', hlower⟩ := h
  obtain rfl := Option.mem_unique hn hn'
  exact hlonger.ne' (length_eq_of_lowerChars_eq hname hlower)

/-- **The closing tags that are looked for** are those of the element's name and of longer names. -/
theorem closes_iff (hname : Text.lowerChars name ∈ rawNames) :
    closes (Text.lowerChars name) s = true ↔ ClosesElement name s ∨ ClosesLonger name s := by
  rw [ClosesElement, ClosesLonger]
  unfold closes closingName?
  split
  · rename_i rest
    simp only [Option.mem_def, Option.some.injEq, exists_eq_left', beq_iff_eq,
      length_lowerChars_of_mem hname]
    constructor
    · intro h
      have hrun := isNameChar_of_lowerChars_eq hname h
      have hlength := length_eq_of_lowerChars_eq hname h
      have htake : rest.takeWhile Tag.isNameChar =
          rest.take name.length ++ (rest.drop name.length).takeWhile Tag.isNameChar := by
        rw [← List.takeWhile_append_of_pos hrun, List.take_append_drop]
      rw [htake]
      by_cases hmore : (rest.drop name.length).takeWhile Tag.isNameChar = []
      · rw [hmore, List.append_nil]
        exact .inl h
      · have hpos := List.length_pos_iff.2 hmore
        rw [List.length_append, hlength, List.take_append_of_le_length hlength.ge, List.take_take,
          Nat.min_self]
        exact .inr ⟨Nat.lt_add_of_pos_right hpos, h⟩
    · have hbegin := List.prefix_iff_eq_take.1 (List.takeWhile_prefix Tag.isNameChar (l := rest))
      rintro (h | ⟨hlonger, h⟩)
      · rw [length_eq_of_lowerChars_eq hname h] at hbegin
        rwa [← hbegin]
      · rw [hbegin, List.take_take, Nat.min_eq_left hlonger.le] at h
        exact h
  · simp

/-! ## Where raw text ends -/

/-- **Raw text ends at the first closing tag** whose name is that of the element or a longer one. -/
theorem rawAt_isFirstFrom (hname : Text.lowerChars name ∈ rawNames) (html : List Char)
    (start : Nat) :
    let r := rawAt html start name
    IsFirstFrom (fun s => ClosesElement name s ∨ ClosesLonger name s) html start r.1 ∧
      r.2 = (html.drop start).take (r.1 - start) := by
  intro r
  obtain ⟨before, after, hcut⟩ :=
    Text.exists_cutsBefore (closes (Text.lowerChars name)) (html.drop start)
  have hr : r = (min (start + before.length) html.length, before) := by
    simp only [r, rawAt, splitRaw_of_cutsBefore hcut]
  have hfirst := hcut.isFirstFrom rfl
  simp only [closes_iff hname] at hfirst
  rw [hr]
  refine ⟨hfirst, ?_⟩
  have hlength := congrArg List.length hcut.1
  rw [List.length_append, List.length_drop] at hlength
  have hstop : before.length = min (start + before.length) html.length - start := by omega
  rw [← hcut.1, ← hstop, List.take_left]

end Segment

open Segment

/-- **The start tag of an element with raw text is followed by it**, up to the first closing tag that
is looked for. -/
theorem Segmentation.exists_raw {t : Tag} {rest : List Segment} : ∀ {before : List Segment}
    {s : List Char}, Segmentation s (before ++ .tag t :: rest) → opensRaw t = true →
    ∃ w after, rest = .raw w :: after ∧
      CutsBefore (closes (Text.lowerChars t.name)) (sources rest) w (sources after)
  | [], s, h, ht => by
    generalize hsegs : [] ++ Segment.tag t :: rest = segs at h
    cases h with
    | tag _ _ hraw _ =>
      obtain ⟨⟨⟩, rfl⟩ := List.cons.inj hsegs
      exact absurd (ht.symm.trans hraw) (by decide)
    | rawTag _ _ _ hcut hrest =>
      obtain ⟨⟨⟩, rfl⟩ := List.cons.inj hsegs
      refine ⟨_, _, rfl, ?_⟩
      rw [sources_cons, source, hrest.sources_eq, hcut.1]
      exact hcut
    | _ => simp at hsegs
  | seg :: before, s, h, ht => by
    rw [List.cons_append] at h
    generalize hsegs : before ++ .tag t :: rest = segs at h
    cases h with
    | rawTag _ _ _ _ hrest =>
      cases before with
      | nil => simp at hsegs
      | cons seg' before =>
        obtain ⟨rfl, rfl⟩ := List.cons.inj hsegs
        exact hrest.exists_raw ht
    | text _ _ hrest => exact (hsegs ▸ hrest).exists_raw ht
    | comment _ hrest => exact (hsegs ▸ hrest).exists_raw ht
    | tag _ _ _ hrest => exact (hsegs ▸ hrest).exists_raw ht
    | bracket _ _ hrest => exact (hsegs ▸ hrest).exists_raw ht

namespace Expander

/-- **Where raw text ends.** From every offset of every document, raw text of a script or a style
sheet is copied up to the first closing tag whose name is the element's or begins with it, in any
letter case, or up to the end. This is where the element ends exactly if the closing tag there is not
one of a longer name. In a document, raw text follows each start tag of these elements, and is written
again as it is.

**Proof sketch.** A closing tag is recognised by as many characters as the element's name has. None of
them can end a name, because such characters are their own lower-case forms and the element's name
holds none (`Segment.closes_iff`). What is looked for is found where the text is cut
(`Text.CutsBefore.isFirstFrom`). -/
theorem skipRaw_ends (r : Expander) (html : String) :
    (∀ (start : Nat) (name : String), Text.lowerChars name.toList ∈ rawNames →
      ∃ stop, r.perform (.skipRaw html start name) =
          (.ok (.raw stop (String.ofList ((html.toList.drop start).take (stop - start)))), r) ∧
        IsFirstFrom (fun s => ClosesElement name.toList s ∨ ClosesLonger name.toList s) html.toList
          start stop ∧
        (IsFirstFrom (ClosesElement name.toList) html.toList start stop ↔
          ¬ClosesLonger name.toList (html.toList.drop stop))) ∧
    ∀ before t rest, Segmentation html.toList (before ++ .tag t :: rest) → opensRaw t = true →
      ∃ w after, rest = .raw w :: after ∧
        let start := (sources before ++ t.source).length
        IsFirstFrom (fun s => ClosesElement t.name s ∨ ClosesLonger t.name s) html.toList start
          (start + w.length) ∧
        (r.expandObstacle? html = none →
          let first := rewriteAll r.attributeNames r.engine (before ++ [.tag t])
          let last := rewriteAll r.attributeNames first.2 after
          r.perform (.expand html) =
            (.ok (.plain (.text (String.ofList (first.1 ++ w ++ last.1)))),
              { r with engine := last.2 })) := by
  constructor
  · intro start name hname
    obtain ⟨hfirst, htext⟩ := rawAt_isFirstFrom hname html.toList start
    refine ⟨_, ?_, hfirst, hfirst.left_iff not_closesLonger_nil fun s => not_closesLonger hname⟩
    rw [← htext]
    rfl
  · intro before t rest hsegs ht
    have hname : Text.lowerChars t.name ∈ rawNames := List.contains_iff_mem.1 ht
    obtain ⟨w, after, rfl, hcut⟩ := hsegs.exists_raw ht
    refine ⟨w, after, rfl, ?_, fun hnone => ?_⟩
    · have hhtml : html.toList = (sources before ++ t.source) ++ sources (.raw w :: after) := by
        rw [← hsegs.sources_eq]
        simp [source]
      have hdrop : html.toList.drop (sources before ++ t.source).length =
          sources (.raw w :: after) := by
        rw [hhtml, List.drop_left]
      have hfirst := (hdrop ▸ hcut).isFirstFrom rfl
      simp only [closes_iff hname] at hfirst
      have hlength : (sources before ++ t.source).length + w.length ≤ html.toList.length := by
        rw [hhtml]
        simp [source]
        omega
      rwa [Nat.min_eq_left hlength] at hfirst
    · have hsplit : before ++ .tag t :: .raw w :: after = (before ++ [.tag t]) ++ .raw w :: after := by
        simp
      rw [hsplit] at hsegs
      rw [perform_expand_of_segmentation hsegs hnone,
        rewriteAll_append _ _ (before ++ [Segment.tag t])]
      simp only [rewriteAll, rewrite, source, List.append_assoc]

/-- The raw text of a style sheet ends before a closing tag of a longer name. -/
theorem skipRaw_ends_minimal :
    let html := "<STYLE>b</styles>c</Style>"
    let t : Tag := ⟨"STYLE".toList, [], []⟩
    let rest := [.raw ['b'], .bracket, .text "/styles>c".toList, .bracket, .text "/Style>".toList]
    Text.lowerChars "STYLE".toList ∈ rawNames ∧ opensRaw t = true ∧
      Segmentation html.toList ([] ++ .tag t :: rest) ∧
      minimal.perform (.skipRaw html 7 "STYLE") = (.ok (.raw 8 "b"), minimal) ∧
      IsFirstFrom (fun s => ClosesElement t.name s ∨ ClosesLonger t.name s) html.toList 7 8 ∧
      ¬IsFirstFrom (ClosesElement t.name) html.toList 7 8 := by
  intro html t rest
  have hname : Text.lowerChars "STYLE".toList ∈ rawNames := by decide +kernel
  have ht : opensRaw t = true := by decide +kernel
  have hsegs : Segmentation html.toList ([] ++ .tag t :: rest) :=
    segmentation_iff.2 (by decide +kernel)
  have hperform : minimal.perform (.skipRaw html 7 "STYLE") = (.ok (.raw 8 "b"), minimal) := by
    have hanswer : minimal.answer (.skipRaw html 7 "STYLE") = .raw 8 "b" := by decide +kernel
    rw [← hanswer]
    rfl
  obtain ⟨hskip, hdocument⟩ := skipRaw_ends minimal html
  obtain ⟨stop, hstop, -, hown⟩ := hskip 7 "STYLE" hname
  obtain ⟨w, after, hrest, hfirst, -⟩ := hdocument [] t rest hsegs ht
  obtain ⟨⟨⟩, -⟩ := List.cons.inj hrest
  obtain ⟨hreply, -⟩ := Prod.mk.inj (hperform.symm.trans hstop)
  simp only [Except.ok.injEq, Reply.raw.injEq] at hreply
  obtain ⟨rfl, -⟩ := hreply
  exact ⟨hname, ht, hsegs, hperform, hfirst, fun h => hown.1 h (by decide +kernel)⟩

/-- The closing tag of the script is the second one. Between the two a directive is replaced. -/
theorem exists_directive_in_rawText :
    let html := "<script></scripts><b data-sd=Thing></script>"
    (minimal.perform (.skipRaw html 8 "script")).1 = .ok (.raw 8 "") ∧
      ¬IsFirstFrom (ClosesElement "script".toList) html.toList 8 8 ∧
      IsFirstFrom (ClosesElement "script".toList) html.toList 8 35 ∧
      (minimal.perform (.expand html)).1 = .ok (.plain (.text
        "<script></scripts><b itemscope itemtype='https://schema.org/Thing'></script>")) := by
  refine ⟨by decide +kernel, ?_, ⟨by decide +kernel, .inl ⟨by decide, by decide +kernel⟩⟩,
    by decide +kernel⟩
  rintro ⟨-, ⟨-, hclose⟩ | ⟨hend, -⟩⟩
  · exact absurd hclose (by decide +kernel)
  · exact absurd hend (by decide +kernel)

end Expander

end SchemaMarkup
