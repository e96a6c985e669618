import SchemaMarkup.Proofs.Engine.Expand
import SchemaMarkup.Proofs.Markup.Moved
import SchemaMarkup.Proofs.Markup.Replace
import SchemaMarkup.Proofs.Markup.Scan

set_option autoImplicit false

/-!
# Expanding one tag

A start tag of a document is expanded by itself: its directive gives way to the fragment that the
engine writes. Scanning the text that comes of it finds a tag again, of the same name and with the
same attributes, but for the directive, in whose place stand the attributes that the fragment stands
for.

## Main definitions

* `SchemaMarkup.Tag.Span.isDirective` — an attribute at its place is a directive.

## Main results

* `SchemaMarkup.Expander.exists_of_perform_expandTag` — what is written for a tag.
* `SchemaMarkup.Expander.scan_expandTag` — what the scan finds in it.
-/

namespace SchemaMarkup

open Text (isBlank)

namespace Tag

variable {names : List String} {t : Tag} {before after : List (List Char × Attribute)}
  {gap close : List Char} {a : Attribute} {marks : List Attribute}

/-! ## Entries and places -/

/-- The attribute has a value, and its name is among those given in any letter case. -/
def Span.isDirective (names : List String) (x : Span) : Bool :=
  x.value.isSome && names.contains (String.ofList (Text.lowerChars x.name))

/-- The entries of a tag with one attribute replaced. -/
lemma map_entry_replace (t : Tag) (before after : List (List Char × Attribute))
    (gap : List Char) (marks : List Attribute) :
    (t.replace before gap marks after).attributes.map (fun e => e.2.entry) =
      before.map (fun e => e.2.entry) ++ marks.map Attribute.entry ++
        after.map (fun e => e.2.entry) := by
  have hsplice : (splice gap marks after t.gap).1.map (fun e => e.2.entry) =
      marks.map Attribute.entry ++ after.map (fun e => e.2.entry) := by
    cases marks with
    | nil =>
      cases after with
      | nil => rfl
      | cons e after => rfl
    | cons mark marks => rw [splice, List.map_append, Attribute.map_entry_row]
  rw [replace, List.map_append, hsplice, List.append_assoc]

lemma spansFrom_append (start : Nat) (as bs : List (List Char × Attribute)) :
    spansFrom start (as ++ bs) =
      spansFrom start as ++ spansFrom (start + (attributesSource as).length) bs := by
  induction as generalizing start with
  | nil => rfl
  | cons e as ih =>
    obtain ⟨gap, a⟩ := e
    rw [List.cons_append, spansFrom, spansFrom, ih, attributesSource_cons]
    simp only [List.cons_append, List.length_append, Nat.add_assoc]

/-- Where no attribute is a directive, none is at its place. -/
lemma isDirective_of_mem_spansFrom {start : Nat} {as : List (List Char × Attribute)} {x : Span}
    (h : ∀ e ∈ as, Tag.isDirective names e.2 = false) (hx : x ∈ spansFrom start as) :
    x.isDirective names = false := by
  induction as generalizing start with
  | nil => simp [spansFrom] at hx
  | cons e as ih =>
    rcases List.mem_cons.1 hx with rfl | hx
    · have he := h e List.mem_cons_self
      rwa [Tag.isDirective, ← Option.isSome_map] at he
    · exact ih (fun e he => h e (List.mem_cons_of_mem _ he)) hx

/-- The scan finds a tag with one attribute replaced, whatever character stands in front of it. -/
lemma at?_replace (h : t.Fits) (hsplit : t.attributes = before ++ (gap, a) :: after)
    (hmarks : Renderer.Marks marks)
    (hclear : marks = [] →
      ((attributesSource after ++ t.gap ++ ['>']).dropWhile isBlank).head? ≠ some '=') (c : Char) :
    Tag.at? (c :: (t.replace before gap marks after).body) 0 =
      some ⟨t.replace before gap marks after, 0,
        0 + 1 + (t.replace before gap marks after).body.length⟩ := by
  have hfits := h.replace hsplit hmarks hclear
  exact at?_eq_some_iff.2 ⟨rfl, rfl, hfits, [], c, [], rfl, by simp⟩

/-- The place of the directive of a tag, among the places of its attributes. -/
lemma spans_of_splitDirective? {p : PlacedTag}
    (h : splitDirective? names p.tag.attributes = some (before, (gap, a), after)) :
    let first := p.start + 1 + (p.tag.name ++ attributesSource before ++ gap).length
    let x : Span := ⟨a.name, a.value?, first, first + a.source.length⟩
    p.spans = spansFrom (p.start + 1 + p.tag.name.length) before ++ x :: spansFrom x.stop after ∧
      x.isDirective names = true ∧
      ∀ y ∈ spansFrom (p.start + 1 + p.tag.name.length) before, y.isDirective names = false := by
  intro first x
  obtain ⟨hdirective, hbefore⟩ := isDirective_of_splitDirective? h
  refine ⟨?_, ?_, fun y hy => isDirective_of_mem_spansFrom hbefore hy⟩
  · have hfirst : p.start + 1 + p.tag.name.length + (attributesSource before).length + gap.length =
        first := by
      simp only [first, List.length_append, Nat.add_assoc]
    have happend := spansFrom_append (p.start + 1 + p.tag.name.length) before ((gap, a) :: after)
    rw [append_of_splitDirective? h, spansFrom, hfirst] at happend
    exact happend
  · rwa [Tag.isDirective, ← Option.isSome_map] at hdirective

/-- What stands in a document around the directive of a tag. -/
lemma take_drop_of_directive? {html s s' : List Char} {start : Nat} {p : PlacedTag}
    (hp : Tag.at? html start = some p) (h : p.tag.directive? names = some (s, a, s')) :
    (html.drop start).take (1 + s.length) = (html.drop start).take 1 ++ s ∧
      html.drop (start + 1 + s.length + a.source.length) = s' ++ html.drop p.stop ∧
      p.stop = start + 1 + s.length + a.source.length + s'.length ∧
      ∃ c, (html.drop start).take 1 = [c] := by
  obtain ⟨-, hstop, -, lead, c, rest, rfl, rfl⟩ := at?_eq_some_iff.1 hp
  have hbody := append_of_directive? h
  have hlength := congrArg List.length hbody
  simp only [List.length_append] at hlength
  have hdrop : (lead ++ c :: (p.tag.body ++ rest)).drop lead.length =
      c :: s ++ (a.source ++ (s' ++ rest)) := by
    rw [List.drop_left, ← hbody]
    simp
  have hbehind : (lead ++ c :: (p.tag.body ++ rest)).drop
      (lead.length + 1 + s.length + a.source.length) = s' ++ rest := by
    have hsum : lead.length + 1 + s.length = lead.length + (c :: s).length := by
      rw [List.length_cons]
      omega
    rw [hsum, ← List.drop_drop, ← List.drop_drop, hdrop, List.drop_left, List.drop_left]
  have hend : p.stop = lead.length + 1 + s.length + a.source.length + s'.length := by omega
  have hrest : (lead ++ c :: (p.tag.body ++ rest)).drop p.stop = rest := by
    rw [hend, ← List.drop_drop, hbehind, List.drop_left]
  refine ⟨?_, by rw [hbehind, hrest], hend, c, ?_⟩
  · rw [hdrop, Nat.add_comm, ← List.length_cons, List.take_left]
    rfl
  · rw [hdrop]
    rfl

end Tag

namespace Expander

variable {r r' : Expander} {html out : String} {start : Nat} {names : List String}

/-- What is written for a tag with a directive. -/
theorem exists_of_perform_expandTag
    (h : r.perform (.expandTag html start names) = (.ok (.tagText (some (out, 1))), r')) :
    ∃ p s a s', Tag.at? html.toList start = some p ∧ p.tag.directive? names = some (s, a, s') ∧
      out.toList = (html.toList.drop start).take 1 ++
        (s ++ (r.engine.fragment (String.ofList (a.value?.getD []))).1.toList ++ s') ∧
      r' = { r with engine := (r.engine.fragment (String.ofList (a.value?.getD []))).2 } := by
  rw [perform] at h
  split at h
  · simp at h
  · simp only [Prod.mk.injEq, Except.ok.injEq, answer, Reply.tagText.injEq, next] at h
    obtain ⟨htext, hnext⟩ := h
    obtain ⟨⟨text, count, engine⟩, hexpanded, htext⟩ := Option.map_eq_some_iff.1 htext
    obtain ⟨rfl, rfl⟩ := Prod.mk.inj htext
    rw [hexpanded] at hnext
    obtain ⟨ps, hps, hexpanded⟩ := Option.map_eq_some_iff.1 hexpanded
    obtain ⟨p, hp, rfl⟩ := Option.map_eq_some_iff.1 hps
    simp only [Prod.mk.injEq] at hexpanded
    obtain ⟨rfl, hcount, rfl⟩ := hexpanded
    cases hdirective : p.tag.directive? names with
    | none => simp [Piece.ofTag, hdirective, Piece.directives] at hcount
    | some parts =>
      obtain ⟨s, a, s'⟩ := parts
      have hpieces : Piece.ofTag names p.tag =
          [.copied s, .directive a (String.ofList (a.value?.getD [])), .copied s'] := by
        simp only [Piece.ofTag, hdirective]
      refine ⟨p, s, a, s', hp, hdirective, ?_, ?_⟩
      · simp [hpieces, Engine.expand]
      · rw [← hnext, hpieces]
        simp only [Engine.expand]

/-- **Scanning an expanded tag** finds its other attributes as they were. Take a tag that is expanded
by itself, and names that hold no apostrophe. Its directive is its first attribute with a value and a
registered name, and in the place of the directive stands the fragment of that value. If the fragment
is not empty, or no equals sign comes up where the directive is removed, then the scan finds a tag of
the same name that is the whole text, with the same entries but that those of the attributes which
the fragment stands for have taken the place of the directive's.

**Proof sketch.** The fragment is the text of the attributes that it stands for
(`Engine.StandsFor.marks`), so that the text is that of the tag with its directive replaced
(`Tag.body_replace`), which is a tag (`Tag.Fits.replace`). What fits is what is scanned
(`Tag.readAfter_eq_some_iff`). -/
theorem scan_expandTag
    (h : r.perform (.expandTag html start names) = (.ok (.tagText (some (out, 1))), r'))
    (havoid : r.engine.NamesAvoid '\'') :
    ∃ p xs x ys, Tag.at? html.toList start = some p ∧ p.spans = xs ++ x :: ys ∧
      x.isDirective names = true ∧ (∀ y ∈ xs, y.isDirective names = false) ∧
      let f := (r.engine.fragment (String.ofList (x.value.getD []))).1
      out.toList = (html.toList.drop start).take (x.start - start) ++ f.toList ++
          (html.toList.drop x.stop).take (p.stop - x.stop) ∧
        ∃ as, r'.engine.StandsFor f as ∧
          ((f ≠ "" ∨ ((html.toList.drop x.stop).dropWhile isBlank).head? ≠ some '=') →
            ∃ p', Tag.at? out.toList 0 = some p' ∧ p'.stop = out.toList.length ∧
              p'.tag.name = p.tag.name ∧
              p'.spans.map Tag.Span.entry =
                xs.map Tag.Span.entry ++ as.map Attribute.entry ++ ys.map Tag.Span.entry) := by
  obtain ⟨p, s, a, s', hp, hdirective, hout, rfl⟩ := exists_of_perform_expandTag h
  obtain ⟨hfirst, hlast, hstop, c, hc⟩ := Tag.take_drop_of_directive? hp hdirective
  have hfits := (Tag.readAfter_eq_some_iff.1 (Tag.drop_stop_of_at? hp)).2
  have hstart : p.start = start := by
    obtain ⟨_, -, rfl⟩ := Option.map_eq_some_iff.1 hp
    rfl
  obtain ⟨before, gap, after, hsplit, hattributes, rfl, rfl⟩ := Tag.exists_of_directive? hdirective
  obtain ⟨hspans, hx, hxs⟩ := Tag.spans_of_splitDirective? hsplit
  refine ⟨p, _, _, _, hp, hspans, hx, hxs, ?_⟩
  intro f
  simp only [hstart]
  obtain ⟨as, has⟩ := (r.engine.fragment_writes (String.ofList (a.value?.getD []))).standsFor
  obtain ⟨hmarks, htext⟩ := has.marks (havoid.fragment _)
  refine ⟨?_, as, has, fun hclear => ?_⟩
  · have hbehind : start + 1 + (p.tag.name ++ Tag.attributesSource before ++ gap).length - start =
        1 + (p.tag.name ++ Tag.attributesSource before ++ gap).length := by omega
    rw [hout, hbehind, hfirst, hlast, hstop, Nat.add_sub_cancel_left, List.take_left]
    simp [f]
  · have hgap : as = [] → ((Tag.attributesSource after ++ p.tag.gap ++ ['>']).dropWhile
        isBlank).head? ≠ some '=' := by
      rintro rfl
      have hempty : f = "" := String.toList_inj.1 htext
      have hclear := hclear.resolve_left (not_not_intro hempty)
      rw [hlast, List.append_assoc, List.singleton_append,
        Tag.head?_dropWhile_bracket] at hclear
      exact hclear
    have hout' : out.toList = c :: (p.tag.replace before gap as after).body := by
      rw [hout, hc, Tag.body_replace, htext]
      simp
    have hscan := Tag.at?_replace hfits hattributes hmarks hgap c
    rw [← hout'] at hscan
    refine ⟨_, hscan, ?_, rfl, ?_⟩
    · rw [hout', List.length_cons, Nat.zero_add, Nat.add_comm]
    · rw [PlacedTag.spans, Tag.spans, Tag.map_entry_spansFrom, Tag.map_entry_spansFrom,
        Tag.map_entry_spansFrom, Tag.map_entry_replace]

/-- A directive with a bare attribute glued to its closing quote, in a tag with a bracket in
quotes. -/
theorem scan_expandTag_minimal :
    let out := "<p id=a itemscope itemtype='https://schema.org/Thing'b c='>'>"
    ∃ r' p', minimal.engine.NamesAvoid '\'' ∧
      minimal.perform (.expandTag "x<p id=a data-sd=\"Thing\"b c='>'>y" 1 ["data-sd"]) =
        (.ok (.tagText (some (out, 1))), r') ∧
      Tag.at? out.toList 0 = some p' ∧ p'.stop = out.toList.length ∧ p'.tag.name = ['p'] := by
  intro out
  let html := "x<p id=a data-sd=\"Thing\"b c='>'>y"
  have havoid : minimal.engine.NamesAvoid '\'' :=
    ⟨Vocabulary.namesAvoid_rootOnly (by decide), by decide +kernel⟩
  have hanswer : (minimal.perform (.expandTag html 1 ["data-sd"])).1 =
      .ok (.tagText (some (out, 1))) := by decide +kernel
  have hperform : minimal.perform (.expandTag html 1 ["data-sd"]) =
      (.ok (.tagText (some (out, 1))), (minimal.perform (.expandTag html 1 ["data-sd"])).2) :=
    Prod.ext hanswer rfl
  have hfound : ((Tag.at? html.toList 1).map fun p => (p.tag.name, p.spans.all fun x =>
      !x.isDirective ["data-sd"] || x.value == some "Thing".toList)) = some (['p'], true) := by
    decide +kernel
  obtain ⟨p, xs, x, ys, hp, hspans, hx, -, -, as, -, hscan⟩ := scan_expandTag hperform havoid
  rw [hp, Option.map_some, Option.some.injEq, Prod.mk.injEq, hspans] at hfound
  obtain ⟨hname, hvalues⟩ := hfound
  have hvalue : x.value = some "Thing".toList := by
    simpa [hx] using List.all_eq_true.1 hvalues x (by simp)
  have hfragment : (minimal.engine.fragment (String.ofList (x.value.getD []))).1 ≠ "" := by
    rw [hvalue]
    decide +kernel
  obtain ⟨p', hp', hstop, hname', -⟩ := hscan (.inl hfragment)
  exact ⟨_, p', havoid, hperform, hp', hstop, hname'.trans hname⟩

end Expander

end SchemaMarkup
