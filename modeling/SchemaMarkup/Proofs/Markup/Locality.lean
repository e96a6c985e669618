import SchemaMarkup.Proofs.Markup.Segmentation
import SchemaMarkup.Proofs.Text.LowerForm

set_option autoImplicit false

/-!
# What segments see of what follows

A segment ends where it does because of what follows it, but it sees little of that: what a bracket
opens, where a text run ends and whether a raw text is closed depends on what follows up to the next
opening bracket.

## Main definitions

* `SchemaMarkup.Text.SameStart` — two texts agree up to an opening bracket.

## Main results

* `SchemaMarkup.Text.SameStart.closes` — closing tags of raw texts.
* `SchemaMarkup.Text.CutsBefore.closesComment`, `SchemaMarkup.Text.CutsBefore.closes` — cuts stay
  where they are.
* `SchemaMarkup.Segment.exists_of_closes` — how a closing tag is read.
-/

namespace SchemaMarkup

namespace Text

/-! ## Texts that agree up to a bracket -/

/-- The texts have the same beginning, and behind it both end or both go on with an opening
bracket. -/
def SameStart (s t : List Char) : Prop :=
  ∃ w u v, s = w ++ u ∧ t = w ++ v ∧
    (u = [] ∧ v = [] ∨ u.head? = some '<' ∧ v.head? = some '<')

variable {s t : List Char}

lemma sameStart_nil : SameStart [] [] := ⟨[], [], [], rfl, rfl, .inl ⟨rfl, rfl⟩⟩

lemma sameStart_bracket (s t : List Char) : SameStart ('<' :: s) ('<' :: t) :=
  ⟨[], '<' :: s, '<' :: t, rfl, rfl, .inr ⟨rfl, rfl⟩⟩

/-- A common beginning can be put in front. -/
lemma SameStart.append (h : SameStart s t) (x : List Char) : SameStart (x ++ s) (x ++ t) := by
  obtain ⟨w, u, v, rfl, rfl, hend⟩ := h
  exact ⟨x ++ w, u, v, by simp, by simp, hend⟩

/-- Texts that agree begin with the same character, if they begin at all. -/
lemma SameStart.head?_eq (h : SameStart s t) : s.head? = t.head? := by
  obtain ⟨w, u, v, rfl, rfl, ⟨rfl, rfl⟩ | ⟨hu, hv⟩⟩ := h
  · rfl
  · exact head?_append_congr w (hu.trans hv.symm)

/-- A text that agrees with the empty one is empty. -/
lemma SameStart.eq_nil (h : SameStart [] t) : t = [] := by
  have hhead := h.head?_eq
  cases t with
  | nil => rfl
  | cons c t => simp at hhead

/-- Texts that agree begin with the same words that hold no bracket. -/
lemma SameStart.isPrefixOf {p : List Char} (h : SameStart s t) (hp : '<' ∉ p) :
    p.isPrefixOf s = p.isPrefixOf t := by
  induction p generalizing s t with
  | nil => simp
  | cons c p ih =>
    obtain ⟨w, u, v, rfl, rfl, hend⟩ := h
    have hc : c ≠ '<' := fun h => hp (h ▸ List.mem_cons_self)
    have hp' : '<' ∉ p := fun h => hp (List.mem_cons_of_mem c h)
    cases w with
    | nil =>
      rcases hend with ⟨rfl, rfl⟩ | ⟨hu, hv⟩
      · rfl
      · obtain ⟨u, rfl⟩ := List.head?_eq_some_iff.1 hu
        obtain ⟨v, rfl⟩ := List.head?_eq_some_iff.1 hv
        have hbeq : (c == '<') = false := by simpa using hc
        simp [List.isPrefixOf, hbeq]
    | cons d w =>
      simp only [List.cons_append, List.isPrefixOf, ih ⟨w, u, v, rfl, rfl, hend⟩ hp']

/-- Whether a closing tag begins with a bracket depends on the text behind it up to the next one. -/
theorem SameStart.closes {name : List Char} (h : SameStart s t) (hname : '<' ∉ name) :
    Segment.closes name ('<' :: s) = Segment.closes name ('<' :: t) := by
  obtain ⟨w, u, v, rfl, rfl, hend⟩ := h
  cases w with
  | nil =>
    rcases hend with ⟨rfl, rfl⟩ | ⟨hu, hv⟩
    · rfl
    · obtain ⟨u, rfl⟩ := List.head?_eq_some_iff.1 hu
      obtain ⟨v, rfl⟩ := List.head?_eq_some_iff.1 hv
      simp [Segment.closes]
  | cons c w =>
    by_cases hc : c = '/'
    · subst hc
      simp only [List.cons_append, Segment.closes]
      by_cases hlength : name.length ≤ w.length
      · rw [List.take_append_of_le_length hlength, List.take_append_of_le_length hlength]
      · rcases hend with ⟨rfl, rfl⟩ | ⟨hu, hv⟩
        · rfl
        · -- the name would have to hold the bracket
          have hne : ∀ x : List Char, x.head? = some '<' →
              (lowerChars ((w ++ x).take name.length) == name) = false := by
            intro x hx
            obtain ⟨y, rfl⟩ := List.head?_eq_some_iff.1 hx
            obtain ⟨n, hn⟩ : ∃ n, name.length = w.length + (n + 1) :=
              ⟨name.length - w.length - 1, by omega⟩
            have hmem : '<' ∈ (w ++ '<' :: y).take name.length := by
              rw [hn, List.take_length_add_append]
              simp
            rw [beq_eq_false_iff_ne]
            intro heq
            exact hname (heq ▸ mem_lowerChars (by decide +kernel) hmem)
          rw [hne u hu, hne v hv]
    · simp [Segment.closes, hc]

/-! ## Cuts stay -/

variable {before after rest : List Char}

lemma isPrefixOf_append_congr {p x : List Char} (h : p.length ≤ x.length) (s t : List Char) :
    p.isPrefixOf (x ++ s) = p.isPrefixOf (x ++ t) := by
  induction p generalizing x with
  | nil => simp
  | cons c p ih =>
    cases x with
    | nil => simp at h
    | cons d x =>
      have hlength : p.length ≤ x.length := by simpa using h
      simp only [List.cons_append, List.isPrefixOf, ih hlength]

/-- A comment ends where it does whatever text follows it, unless it runs to the end. -/
theorem CutsBefore.closesComment (h : CutsBefore Segment.closesComment s before after)
    (hrest : after = [] → rest = []) :
    CutsBefore Segment.closesComment (before ++ (after.take 3 ++ rest)) before
        (after.take 3 ++ rest) ∧
      (after.take 3 ++ rest).take 3 = after.take 3 ∧ (after.take 3 ++ rest).drop 3 = rest := by
  obtain ⟨-, hafter, hbefore⟩ := h
  rcases hafter with rfl | hclose
  · obtain rfl := hrest rfl
    exact ⟨⟨rfl, .inl rfl, hbefore⟩, rfl, rfl⟩
  · obtain ⟨tail, rfl⟩ := List.isPrefixOf_iff_prefix.1 hclose
    refine ⟨⟨rfl, .inr ?_, fun x v hxv hv => ?_⟩, rfl, rfl⟩
    · rw [Segment.closesComment, List.isPrefixOf_iff_prefix]
      exact List.prefix_append _ _
    · have hlength : ['-', '-', '>'].length ≤ (v ++ ['-', '-', '>']).length := by simp
      have hold := hbefore x v hxv hv
      rw [Segment.closesComment, ← List.append_assoc] at hold
      show ['-', '-', '>'].isPrefixOf (v ++ (['-', '-', '>'] ++ rest)) = false
      rw [← List.append_assoc, isPrefixOf_append_congr hlength rest tail]
      exact hold

/-- A raw text ends where it does if it is still closed there. -/
theorem CutsBefore.closes {name : List Char}
    (h : CutsBefore (Segment.closes name) s before after) (hname : '<' ∉ name)
    (hrest : SameStart after rest)
    (hclose : Segment.closes name rest = Segment.closes name after) :
    CutsBefore (Segment.closes name) (before ++ rest) before rest := by
  obtain ⟨-, hafter, hbefore⟩ := h
  refine ⟨rfl, ?_, fun x v hxv hv => ?_⟩
  · rcases hafter with rfl | hafter
    · exact .inl hrest.eq_nil
    · exact .inr (hclose.trans hafter)
  · have hold := hbefore x v hxv hv
    obtain ⟨c, v, rfl⟩ := List.exists_cons_of_ne_nil hv
    by_cases hc : c = '<'
    · subst hc
      have hsame := (hrest.append v).closes hname
      exact hsame.symm.trans hold
    · simp [Segment.closes, hc]

end Text

namespace Segment

/-! ## Start tags -/

/-- Whether a letter follows an opening bracket is decided by the first character of the tag. -/
lemma startsWithLetter_body {t t' : Tag} (h : t'.body.head? = t.body.head?)
    (s s' : List Char) : startsWithLetter (t'.body ++ s') = startsWithLetter (t.body ++ s) := by
  have hne : t.body ≠ [] := by simp [Tag.body]
  obtain ⟨c, u, hc⟩ := List.exists_cons_of_ne_nil hne
  rw [hc, List.head?_cons] at h
  rw [startsWithLetter, startsWithLetter, List.head?_append, h, hc]
  rfl

/-! ## Closing tags -/

/-- The name of a tag with raw text behind it holds no character that none of those names holds. -/
lemma not_mem_of_opensRaw {t : Tag} {c : Char} (hc : ∀ name ∈ rawNames, c ∉ name)
    (h : opensRaw t = true) : c ∉ Text.lowerChars t.name :=
  hc _ (List.contains_iff_mem.1 h)

/-- A closing tag is a bracket that opens nothing. -/
theorem exists_of_closes {name s : List Char} {segs : List Segment} (h : Segmentation s segs)
    (hclose : closes name s = true) :
    ∃ x segs', s = '<' :: x ∧ segs = bracket :: segs' ∧ Segmentation x segs' := by
  unfold closes at hclose
  split at hclose
  · rename_i rest
    have hslash : startsWithLetter ('/' :: rest) = false := by
      have hletter : Text.isLetter '/' = false := by decide +kernel
      simp [startsWithLetter, hletter]
    have hcomment : opensComment ('/' :: rest) = false := by
      rw [opensComment, List.isPrefixOf]
      rfl
    refine ⟨_, ofText ('/' :: rest), rfl, ?_, segmentation_ofText _⟩
    rw [segmentation_iff.1 h, ofText_bracket, readMarkup_eq_readTag hcomment, readTag,
      if_neg (by simp [hslash])]
    rfl
  · simp at hclose

end Segment

end SchemaMarkup
