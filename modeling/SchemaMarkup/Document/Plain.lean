import SchemaMarkup.Document.Quoted

set_option autoImplicit false

/-!
# Text without quotes

A text without quotes is a series of runs. A run ends at white space, at a colon before white space
and, inside brackets, at a comma or a bracket. The next run belongs to the text too if it stands
deep enough and no comment begins there.

## Main definitions

* `SchemaMarkup.Document.beginsPlain` — a text without quotes may begin here.
* `SchemaMarkup.Document.plainRun` — the run that stands here.
* `SchemaMarkup.Document.Cursor.readPlain` — read a text without quotes.

## Main results

* `SchemaMarkup.Document.plainRun_prefix` — a run is the beginning of the text.
-/

namespace SchemaMarkup.Document

/-- The characters that have a meaning of their own at the beginning of an item. -/
def indicators : List Char := "-?:,[]\x7b\x7d#&*!|>\x27\x22%@\x60".toList

/-- The characters that have a meaning of their own anywhere inside brackets. -/
def nestedSigns : List Char := ",[]\x7b\x7d".toList

/-- The text begins with one of the given characters. -/
def beginsWith (cs : List Char) : List Char → Bool
  | [] => false
  | c :: _ => cs.contains c

/-- A text without quotes may begin here. -/
def beginsPlain (nested : Bool) : List Char → Bool
  | [] => false
  | c :: s =>
    !(endsWord [c] || indicators.contains c) ||
      !endsWord s && (c == '-' || !nested && (c == '?' || c == ':'))

/-- The run of a text without quotes that stands here. -/
def plainRun (nested : Bool) : List Char → List Char
  | [] => []
  | c :: s =>
    let ends := isGap c || isBreak c ||
      c == ':' && (endsWord s || nested && beginsWith nestedSigns s) ||
      nested && (c == '?' || nestedSigns.contains c)
    if ends then [] else c :: plainRun nested s

/-- A run is the beginning of the text. -/
theorem plainRun_prefix (nested : Bool) (s : List Char) : plainRun nested s <+: s := by
  induction s with
  | nil => simp [plainRun]
  | cons c s ih =>
    simp only [plainRun]
    split
    · exact List.nil_prefix
    · exact List.cons_prefix_cons.2 ⟨rfl, ih⟩

namespace Cursor

/-- Read line ends with the spaces around them at the beginning of a line, unless the line begins
with a marker. -/
def readPlainBreaks : Nat → Cursor → Option (List Char) × Cursor
  | 0, k => (none, k)
  | n + 1, k =>
    if isMarker k.rest then (none, k)
    else
      let k := k.pass (· == ' ')
      match k.readBreak with
      | none => (some [], k)
      | some (b, k) =>
        let r := readPlainBreaks n k
        (r.1.map (b :: ·), r.2)

/-- Read the white space after a run: what it stands for, if the text may go on behind it, and
whether it has a line end. -/
def readPlainGap (fuel : Nat) (k : Cursor) : List Char × Bool × Cursor :=
  let (gap, k) := k.span (· == ' ')
  match k.readBreak with
  | none => (gap, false, k)
  | some (b, k) =>
    match readPlainBreaks fuel k with
    | (none, k) => ([], true, k)
    | (some bs, k) => (foldBreaks b bs, true, k)

/-- Read a text without quotes, whose lines begin at the column `margin` or behind it unless they
stand in brackets. The answer says whether a line end was passed last. -/
def readPlain (nested : Bool) (margin : Nat) : Nat → Cursor → List Char × Bool × Cursor
  | 0, k => ([], false, k)
  | n + 1, k =>
    let run := plainRun nested k.rest
    let (gap, ended, k) := (k.skip run.length).readPlainGap n
    if gap.isEmpty || k.isAt '#' || !nested && k.column < margin ||
        (plainRun nested k.rest).isEmpty then
      (run, ended, k)
    else
      let more := readPlain nested margin n k
      (run ++ gap ++ more.1, more.2)

end Cursor

end SchemaMarkup.Document
