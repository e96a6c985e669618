import SchemaMarkup.Markup.Tag
import SchemaMarkup.Text.Letter

set_option autoImplicit false

/-!
# Segments of a document

A document is read from left to right as a sequence of segments: runs of text, comments, start tags,
the raw text of the elements that hold no markup, and opening brackets that open nothing. Reading
never fails: a bracket that opens no tag is a segment of its own, and a comment or raw text that is
not closed runs to the end.

## Main definitions

* `SchemaMarkup.Segment` — a segment, and `SchemaMarkup.Segment.source` its text.
* `SchemaMarkup.Segment.splitComment`, `SchemaMarkup.Segment.splitRaw` — where a comment and a raw
  text end.
* `SchemaMarkup.Segment.ofText` — the segments of a document.

## Main results

* `SchemaMarkup.Segment.sources_ofText` — the segments of a document make up the document.
-/

namespace SchemaMarkup

/-- A segment of a document. -/
inductive Segment where
  /-- A run of text without an opening bracket. -/
  | text (s : List Char)
  /-- A comment, its opening and closing marks included. -/
  | comment (s : List Char)
  /-- A start tag. -/
  | tag (t : Tag)
  /-- The raw text after the start tag of an element that holds no markup. -/
  | raw (s : List Char)
  /-- An opening bracket that opens neither a comment nor a tag. -/
  | bracket
  deriving DecidableEq, Repr

namespace Segment

/-- A segment as it is written. -/
def source : Segment → List Char
  | text s => s
  | comment s => s
  | tag t => t.source
  | raw s => s
  | bracket => ['<']

/-- Split a text after the first mark that closes a comment, or at its end. -/
def splitComment : List Char → List Char × List Char
  | [] => ([], [])
  | '-' :: '-' :: '>' :: rest => (['-', '-', '>'], rest)
  | c :: cs =>
    let r := splitComment cs
    (c :: r.1, r.2)

/-- The text begins with a closing tag of the given name, or of one that begins with it. The name is
in lower case, the text in any. -/
def closes (name : List Char) : List Char → Bool
  | '<' :: '/' :: rest => Text.lowerChars (rest.take name.length) == name
  | _ => false

/-- Split a text before the first closing tag of the given name, or at its end. -/
def splitRaw (name : List Char) : List Char → List Char × List Char
  | [] => ([], [])
  | c :: cs =>
    if closes name (c :: cs) then ([], c :: cs)
    else
      let r := splitRaw name cs
      (c :: r.1, r.2)

/-- The names of the elements whose content is raw text. -/
def rawNames : List (List Char) := ["script".toList, "style".toList]

/-- The tag opens an element whose content is raw text. -/
def opensRaw (t : Tag) : Bool := rawNames.contains (Text.lowerChars t.name)

/-- The text begins with a letter. -/
def startsWithLetter (s : List Char) : Bool := (s.head?.map Text.isLetter).getD false

/-- The segments that an opening bracket begins when it opens no comment, and what follows them,
from the text after the bracket. -/
def readTag (s : List Char) : List Segment × List Char :=
  if startsWithLetter s then
    match Tag.readAfter s with
    | none => ([bracket], s)
    | some (t, rest) =>
      if opensRaw t then
        let r := splitRaw (Text.lowerChars t.name) rest
        ([tag t, raw r.1], r.2)
      else
        ([tag t], rest)
  else
    ([bracket], s)

/-- The segments that an opening bracket begins, and what follows them, from the text after the
bracket. -/
def readMarkup : List Char → List Segment × List Char
  | '!' :: '-' :: '-' :: rest =>
    let r := splitComment rest
    ([comment ('<' :: '!' :: '-' :: '-' :: r.1)], r.2)
  | s => readTag s

/-! ## Nothing is lost -/

@[simp] theorem splitComment_append (s : List Char) :
    (splitComment s).1 ++ (splitComment s).2 = s := by
  fun_induction splitComment s with
  | case1 => rfl
  | case2 => rfl
  | case3 c cs _ r ih => simpa using ih

@[simp] theorem splitRaw_append (name s : List Char) :
    (splitRaw name s).1 ++ (splitRaw name s).2 = s := by
  fun_induction splitRaw name s with
  | case1 => rfl
  | case2 => rfl
  | case3 c cs _ r ih => simpa using ih

/-- Segments as they are written one after another. -/
def sources (segs : List Segment) : List Char := segs.flatMap source

@[simp] theorem sources_nil : sources [] = [] := rfl

@[simp] theorem sources_cons (seg : Segment) (segs : List Segment) :
    sources (seg :: segs) = seg.source ++ sources segs := rfl

@[simp] theorem sources_append (segs segs' : List Segment) :
    sources (segs ++ segs') = sources segs ++ sources segs' := List.flatMap_append

theorem append_readTag (s : List Char) :
    sources (readTag s).1 ++ (readTag s).2 = '<' :: s ∧ sources (readTag s).1 ≠ [] := by
  rw [readTag]
  split
  · split
    · simp [source]
    · rename_i t rest ht
      have := Tag.body_append_of_readAfter ht
      split <;> simp [source, Tag.source, this]
  · simp [source]

/-- What an opening bracket begins and what follows it make up the text from the bracket on. -/
theorem append_readMarkup (s : List Char) :
    sources (readMarkup s).1 ++ (readMarkup s).2 = '<' :: s ∧ sources (readMarkup s).1 ≠ [] := by
  rw [readMarkup.eq_def]
  split
  · simp [source]
  · exact append_readTag s

/-- What follows the segments of an opening bracket is no longer than what follows the bracket. -/
theorem length_readMarkup_le (s : List Char) : (readMarkup s).2.length ≤ s.length := by
  have h := congrArg List.length (append_readMarkup s).1
  have hpos := List.length_pos_iff.2 (append_readMarkup s).2
  simp only [List.length_append, List.length_cons] at h
  omega

/-- The segments of a document. -/
def ofText (s : List Char) : List Segment :=
  match s with
  | [] => []
  | c :: cs =>
    if c = '<' then
      (readMarkup cs).1 ++ ofText (readMarkup cs).2
    else
      text (c :: cs.takeWhile (· != '<')) :: ofText (cs.dropWhile (· != '<'))
termination_by s.length
decreasing_by
  · exact Nat.lt_succ_of_le (length_readMarkup_le cs)
  · exact Nat.lt_succ_of_le (List.dropWhile_sublist _).length_le

/-- The segments of a document make up the document. -/
theorem sources_ofText (s : List Char) : sources (ofText s) = s := by
  fun_induction ofText s with
  | case1 => rfl
  | case2 cs ih => simp [ih, (append_readMarkup cs).1]
  | case3 c cs _ ih => simp [source, ih]

end Segment

end SchemaMarkup
