import SchemaMarkup.Text.Blank
import SchemaMarkup.Vocabulary.Lookup

set_option autoImplicit false

/-!
# Directive tokens

A directive is a text of tokens between white space. A token has one to three segments between dots:
a type, a property, a property and its expected type, a type and a property, or all three. With one
or two segments the vocabulary tells a type from a property. A token that is not well-formed is kept
as the blank token.

## Main definitions

* `SchemaMarkup.Token` — a type, a property and an expected type, each possibly missing.
* `SchemaMarkup.Token.ofSegments` — the meaning of the segments of a token.
* `SchemaMarkup.Token.classify` — the token that a piece of text is.
* `SchemaMarkup.Token.ofDirective` — the tokens of a directive.
-/

namespace SchemaMarkup

/-- One token of a directive. -/
structure Token where
  type : Option String
  property : Option String
  expected : Option String
  deriving DecidableEq, Repr

namespace Token

/-- The token that carries nothing. -/
def blank : Token := ⟨none, none, none⟩

/-- The token carries nothing. -/
def isBlank (t : Token) : Bool := t.type.isNone && t.property.isNone && t.expected.isNone

/-- The token of one to three segments; more segments mean nothing. -/
def ofSegments (v : Vocabulary) : List String → Token
  | [a] => if v.has a then ⟨some a, none, none⟩ else ⟨none, some a, none⟩
  | [a, b] => if v.has a then ⟨some a, some b, none⟩ else ⟨none, some a, some b⟩
  | [a, b, c] => ⟨some a, some b, some c⟩
  | _ => blank

/-- The segments between the dots of a piece. -/
def segments (piece : List Char) : List (List Char) := Text.pieces (· == '.') piece

/-- The token that a piece of text is, white space at its ends aside. A piece with an empty segment
or with more than three is blank. -/
def classify (v : Vocabulary) (piece : List Char) : Token :=
  let segs := segments (Text.stripChars piece)
  if [] ∈ segs then blank else ofSegments v (segs.map String.ofList)

/-- What classifying a piece reports: a piece that is dropped, unless it is empty. -/
def classifyNotes (piece : List Char) : List Note :=
  let stripped := Text.stripChars piece
  let segs := segments stripped
  let shownPiece := String.ofList stripped
  let count := segs.length
  if stripped.isEmpty then []
  else if [] ∈ segs then [.step s!"Dropping malformed directive token '{shownPiece}'"]
  else if count ≤ 3 then []
  else [.step s!"Dropping directive token '{shownPiece}' with {count} segments"]

/-- The tokens of a directive in order, the blank ones among them. -/
def ofDirective (v : Vocabulary) (directive : String) : List Token :=
  (Text.words directive.toList).map (classify v)

/-- What reading a directive reports. -/
def directiveNotes (directive : String) : List Note :=
  (Text.words directive.toList).flatMap classifyNotes

end Token

end SchemaMarkup
