import SchemaMarkup.Document.Quoted
import SchemaMarkup.Text.Blank

set_option autoImplicit false

/-!
# Tags

A tag says what a node stands for. A text without quotes and without a tag is tagged by its form: it
may look like a number, a truth value, a day or nothing at all. One line end behind such a form does
not count.

## Main definitions

* `SchemaMarkup.Document.Tag` — the tags.
* `SchemaMarkup.Document.Tag.ofName` — the tag of a full name.
* `SchemaMarkup.Document.Tag.ofForm` — the tag that the form of a text calls for.

## Main results

* `SchemaMarkup.Document.Tag.ofForm_of_isTruthForm` — truth values are looked for first.
-/

namespace SchemaMarkup.Document

/-- The tags. -/
inductive Tag where
  | null
  | bool
  | int
  | float
  | binary
  /-- A day, or a day with a time of day. -/
  | moment
  /-- A list of maps of one entry each, which stand for pairs; there are two such tags. -/
  | pairs
  | set
  | text
  | list
  | map
  /-- The key that merges other maps. -/
  | merge
  /-- The key whose value stands for its map where a text is wanted. -/
  | equals
  /-- Any other tag, which stands for nothing known. -/
  | other
  deriving DecidableEq, Repr, Inhabited

/-- What the names of the tags of the format itself begin with. -/
def coreTag : String := "tag:yaml.org,2002:"

namespace Tag

/-- The tags by their names. -/
def names : List (String × Tag) :=
  [("null", null), ("bool", bool), ("int", int), ("float", float), ("binary", binary),
    ("timestamp", moment), ("omap", pairs), ("pairs", pairs), ("set", set), ("str", text),
    ("seq", list), ("map", map), ("merge", merge), ("value", equals)]

/-- The tag of a full name. -/
def ofName (name : String) : Tag :=
  let core := coreTag.toList
  if core.isPrefixOf name.toList then
    (names.lookup (String.ofList (name.toList.drop core.length))).getD other
  else other

/-- A node with the tag holds others, and none of them is a key. -/
def isCollection : Tag → Bool
  | pairs | set | list | map => true
  | _ => false

/-! ## Forms -/

/-- The forms of nothing. -/
def isNullForm (s : String) : Bool := ["", "~", "null", "Null", "NULL"].contains s

/-- The forms of truth values. -/
def isTruthForm (s : String) : Bool :=
  ["yes", "Yes", "YES", "no", "No", "NO", "true", "True", "TRUE", "false", "False", "FALSE",
    "on", "On", "ON", "off", "Off", "OFF"].contains s

/-- A text without the sign at its beginning. -/
def unsigned : List Char → List Char
  | '-' :: s => s
  | '+' :: s => s
  | s => s

/-- There is at least one character, and all are of the class or underscores, which do not count in
a number. -/
def isRun (p : Char → Bool) (s : List Char) : Bool := !s.isEmpty && s.all fun c => p c || c == '_'

/-- Digits, possibly with underscores, that begin with a digit. -/
def isDigits (s : List Char) : Bool := s.head?.any Char.isDigit && isRun Char.isDigit s

/-- A part of a number of base 60 behind its first: one or two digits up to 59. -/
def isSixtieth : List Char → Bool
  | [c] => c.isDigit
  | [c, d] => c.isDigit && c ≤ '5' && d.isDigit
  | _ => false

/-- The form of a whole number: binary behind `0b`, hexadecimal behind `0x`, octal behind `0`, and
else decimal or of base 60 with colons. -/
def isIntForm (s : List Char) : Bool :=
  match unsigned s with
  | ['0'] => true
  | '0' :: 'b' :: t => isRun (fun c => c == '0' || c == '1') t
  | '0' :: 'x' :: t => isRun (fun c => (hexDigit? c).isSome) t
  | '0' :: t => isRun (fun c => '0' ≤ c && c ≤ '7') t
  | t =>
    match Text.pieces (· == ':') t with
    | first :: parts => isDigits first && parts.all isSixtieth
    | [] => false

/-- An exponent with its sign, or nothing. -/
def isExponent : List Char → Bool
  | [] => true
  | e :: s :: ds =>
    (e == 'e' || e == 'E') && (s == '+' || s == '-') && !ds.isEmpty && ds.all Char.isDigit
  | _ => false

/-- The digits behind a decimal point, with an exponent after them if it is allowed. -/
def isFraction (exponent : Bool) (s : List Char) : Bool :=
  let rest := s.dropWhile fun c => c.isDigit || c == '_'
  if exponent then isExponent rest else rest.isEmpty

/-- The form of a number with a decimal point, an infinity or the lack of a number. A text that
begins with the point has no sign unless it is an infinity. -/
def isFloatForm (s : List Char) : Bool :=
  let t := unsigned s
  let whole := t.takeWhile (· != '.')
  match t.dropWhile (· != '.') with
  | '.' :: f =>
    if whole.isEmpty then
      ["inf", "Inf", "INF"].contains (String.ofList f) ||
        t.length == s.length &&
          (["nan", "NaN", "NAN"].contains (String.ofList f) ||
            f.head?.any Char.isDigit && isFraction true f)
    else
      match Text.pieces (· == ':') whole with
      | [w] => isDigits w && isFraction true f
      | w :: parts => isDigits w && parts.all isSixtieth && isFraction false f
      | [] => false
  | _ => false

/-- Pass at least `least` and at most `most` digits. -/
def passDigits? (least most : Nat) (s : List Char) : Option (List Char) :=
  let n := min most (s.takeWhile Char.isDigit).length
  if n < least then none else some (s.drop n)

/-- Pass one character. -/
def passChar? (c : Char) : List Char → Option (List Char)
  | [] => none
  | d :: s => if d == c then some s else none

/-- Pass the distance to universal time, or nothing. -/
def passZone? (s : List Char) : Option (List Char) :=
  match s.dropWhile isGap with
  | [] => if s.isEmpty then some [] else none
  | 'Z' :: t => some t
  | c :: t =>
    if c == '+' || c == '-' then do
      let t ← passDigits? 1 2 t
      if t.isEmpty then some t else passDigits? 2 2 (← passChar? ':' t)
    else none

/-- Pass a time of day with the distance to universal time. -/
def passTime? (s : List Char) : Option (List Char) := do
  let s ← passDigits? 1 2 s
  let s ← passDigits? 2 2 (← passChar? ':' s)
  let s ← passDigits? 2 2 (← passChar? ':' s)
  let s := match s with
    | '.' :: t => t.dropWhile Char.isDigit
    | s => s
  passZone? s

/-- Pass the three numbers of a day, the last two with at least so many digits. -/
def passDay? (least : Nat) (s : List Char) : Option (List Char) := do
  let s ← passDigits? 4 4 s
  let s ← passDigits? least 2 (← passChar? '-' s)
  passDigits? least 2 (← passChar? '-' s)

/-- Pass what separates a day from a time of day. -/
def passSeparator? : List Char → Option (List Char)
  | [] => none
  | c :: s =>
    if c == 'T' || c == 't' then some s else if isGap c then some (s.dropWhile isGap) else none

/-- The form of a day, or of a day with a time of day. -/
def isMomentForm (s : List Char) : Bool :=
  passDay? 2 s == some [] ||
    (do passTime? (← passSeparator? (← passDay? 1 s)) : Option (List Char)) == some []

/-- A text without one line end behind it. -/
def dropFinalBreak (s : List Char) : List Char :=
  if s.getLast? == some '\n' then s.dropLast else s

/-- The tag that the form of a text calls for. A line end alone has no form. -/
def ofForm (s : String) : Tag :=
  let form := dropFinalBreak s.toList
  let name := String.ofList form
  if isTruthForm name then bool
  else if s == "\n" then text
  else if isNullForm name then null
  else if isFloatForm form then float
  else if isIntForm form then int
  else if name == "<<" then merge
  else if isMomentForm form then moment
  else if name == "=" then equals
  else if ["!", "&", "*"].contains name then other
  else text

/-- Truth values are looked for first. -/
theorem ofForm_of_isTruthForm {s : String}
    (h : isTruthForm (String.ofList (dropFinalBreak s.toList)) = true) : ofForm s = bool := by
  simp [ofForm, h]

end Tag

end SchemaMarkup.Document
