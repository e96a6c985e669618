import Mathlib.Tactic.Lemma
import SchemaMarkup.Text.Utf8

set_option autoImplicit false

/-!
# Line ends

A line of a file may end in a carriage return, a line feed or both. The text of the file has a line
feed at each of these places, so that nothing tells any more how a line ended, and no carriage return
is left.

## Main definitions

* `SchemaMarkup.Text.LineEndsJoined` — a text with every line end as a line feed.

## Main results

* `SchemaMarkup.Text.joinLineEnds_eq_iff` — which text is made of a text when its line ends are
  joined.
-/

namespace SchemaMarkup.Text

variable {cs ds : List Char}

/-- The second text is the first with a line feed for every line end: for a carriage return together
with the line feed behind it, and for a carriage return that has none behind it. All other characters
stay as they are, line feeds among them. -/
inductive LineEndsJoined : List Char → List Char → Prop where
  | nil : LineEndsJoined [] []
  | returnFeed {cs ds : List Char} (h : LineEndsJoined cs ds) :
      LineEndsJoined ('\r' :: '\n' :: cs) ('\n' :: ds)
  | returnOnly {cs ds : List Char} (hnext : cs.head? ≠ some '\n') (h : LineEndsJoined cs ds) :
      LineEndsJoined ('\r' :: cs) ('\n' :: ds)
  | other {c : Char} {cs ds : List Char} (hc : c ≠ '\r') (h : LineEndsJoined cs ds) :
      LineEndsJoined (c :: cs) (c :: ds)

/-- Joining line ends does what it says. -/
lemma lineEndsJoined_joinLineEnds (cs : List Char) : LineEndsJoined cs (joinLineEnds cs) := by
  fun_induction joinLineEnds cs with
  | case1 => exact .nil
  | case2 cs ih => exact .returnFeed ih
  | case3 cs hnext ih =>
    refine .returnOnly (fun h => ?_) ih
    obtain ⟨cs', hcs⟩ := List.head?_eq_some_iff.1 h
    exact hnext cs' hcs
  | case4 c cs _ hc ih => exact .other hc ih

/-- A text has one text with joined line ends. -/
lemma LineEndsJoined.eq_joinLineEnds (h : LineEndsJoined cs ds) : joinLineEnds cs = ds := by
  induction h with
  | nil => rfl
  | returnFeed h ih => rw [joinLineEnds, ih]
  | returnOnly hnext h ih =>
    rw [joinLineEnds, ih]
    rintro cs rfl
    exact hnext rfl
  | other hc h ih =>
    rw [joinLineEnds, ih]
    · exact fun cs' hc' => absurd hc' hc
    · exact hc

/-- **Which text is made of a text when its line ends are joined.** -/
theorem joinLineEnds_eq_iff : joinLineEnds cs = ds ↔ LineEndsJoined cs ds :=
  ⟨fun h => h ▸ lineEndsJoined_joinLineEnds cs, LineEndsJoined.eq_joinLineEnds⟩

example : joinLineEnds "a\r\nb\rc\n".toList = "a\nb\nc\n".toList := by decide

/-- A text with joined line ends has no carriage return. -/
lemma LineEndsJoined.not_mem (h : LineEndsJoined cs ds) : '\r' ∉ ds :=
  h.eq_joinLineEnds ▸ not_mem_joinLineEnds cs

end SchemaMarkup.Text
