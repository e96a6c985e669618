import SchemaMarkup.Markup.Piece

set_option autoImplicit false

/-!
# Places in a document

Tags and raw texts at a given offset of a document, with the offsets at which they end. Offsets
count characters.

## Main definitions

* `SchemaMarkup.Tag.at?` — the start tag at an offset.
* `SchemaMarkup.Segment.rawAt` — the raw text at an offset.
-/

namespace SchemaMarkup

/-- A start tag in a document: where it begins and where it ends. -/
structure PlacedTag where
  tag : Tag
  start : Nat
  stop : Nat
  deriving DecidableEq, Repr

namespace PlacedTag

/-- The places of the attributes of a tag in the document. -/
def spans (p : PlacedTag) : List Tag.Span := p.tag.spans (p.start + 1)

end PlacedTag

/-- The start tag whose opening bracket is at the offset `start`. -/
def Tag.at? (html : List Char) (start : Nat) : Option PlacedTag :=
  (Tag.readAfter (html.drop (start + 1))).map fun r =>
    ⟨r.1, start, start + 1 + r.1.body.length⟩

/-- The raw text from the offset `start` up to the closing tag of the given name, with the offset at
which it ends. -/
def Segment.rawAt (html : List Char) (start : Nat) (name : List Char) : Nat × List Char :=
  let raw := (Segment.splitRaw (Text.lowerChars name) (html.drop start)).1
  (min (start + raw.length) html.length, raw)

/-- The end of a tag is the place of what follows it. -/
theorem Tag.drop_stop_of_at? {html : List Char} {start : Nat} {p : PlacedTag}
    (h : Tag.at? html start = some p) :
    Tag.readAfter (html.drop (start + 1)) = some (p.tag, html.drop p.stop) := by
  rw [Tag.at?, Option.map_eq_some_iff] at h
  obtain ⟨⟨t, rest⟩, hr, rfl⟩ := h
  have hb := Tag.body_append_of_readAfter hr
  have : html.drop (start + 1 + t.body.length) = rest := by
    rw [← List.drop_drop, ← hb]
    simp
  simp [hr, this]

end SchemaMarkup
