import SchemaMarkup.Markup.Segment

set_option autoImplicit false

/-!
# Pieces of a document

For expanding, a document is cut into the pieces that are copied and the directives that are
replaced. Each start tag has at most one directive: its first attribute with a value and a name
among those registered. The cut depends on the document and the registered names alone.

## Main definitions

* `SchemaMarkup.Piece` — a piece, and `SchemaMarkup.Piece.source` its text.
* `SchemaMarkup.Piece.ofTag`, `SchemaMarkup.Piece.ofText` — the pieces of a tag and of a document.
* `SchemaMarkup.Piece.directives` — the directives among pieces.

## Main results

* `SchemaMarkup.Piece.sources_ofText` — the pieces of a document make up the document.
-/

namespace SchemaMarkup

/-- A piece of a document: copied, or a directive attribute with its value. -/
inductive Piece where
  | copied (s : List Char)
  | directive (a : Attribute) (value : String)
  deriving DecidableEq, Repr

namespace Piece

/-- A piece as it is written. -/
def source : Piece → List Char
  | copied s => s
  | directive a _ => a.source

/-- Pieces as they are written one after another. -/
def sources (ps : List Piece) : List Char := ps.flatMap source

/-- The directives among pieces, in order. -/
def directives : List Piece → List String
  | [] => []
  | copied _ :: ps => directives ps
  | directive _ d :: ps => d :: directives ps

/-- The pieces of the body of a tag. -/
def ofTag (names : List String) (t : Tag) : List Piece :=
  match t.directive? names with
  | some (before, a, after) =>
    [copied before, directive a (String.ofList (a.value?.getD [])), copied after]
  | none => [copied t.body]

/-- The pieces of a segment. Directives stand in start tags only. -/
def ofSegment (names : List String) : Segment → List Piece
  | .tag t => copied ['<'] :: ofTag names t
  | s => [copied s.source]

/-- The pieces of a document. -/
def ofText (names : List String) (s : List Char) : List Piece :=
  (Segment.ofText s).flatMap (ofSegment names)

/-! ## Nothing is lost -/

@[simp] theorem sources_nil : sources [] = [] := rfl

@[simp] theorem sources_cons (p : Piece) (ps : List Piece) :
    sources (p :: ps) = p.source ++ sources ps := rfl

@[simp] theorem sources_append (ps qs : List Piece) :
    sources (ps ++ qs) = sources ps ++ sources qs := List.flatMap_append

theorem sources_ofTag (names : List String) (t : Tag) : sources (ofTag names t) = t.body := by
  rw [ofTag]
  split
  · rename_i before a after h
    rw [← Tag.append_of_directive? h]
    simp [source]
  · simp [source]

theorem sources_ofSegment (names : List String) (s : Segment) :
    sources (ofSegment names s) = s.source := by
  cases s <;> simp [ofSegment, source, Segment.source, sources_ofTag, Tag.source]

/-- The pieces of a document make up the document. -/
theorem sources_ofText (names : List String) (s : List Char) : sources (ofText names s) = s := by
  conv => rhs; rw [← Segment.sources_ofText s]
  rw [ofText]
  induction Segment.ofText s with
  | nil => rfl
  | cons seg segs ih => simp [sources_ofSegment, ih]

end Piece

end SchemaMarkup
