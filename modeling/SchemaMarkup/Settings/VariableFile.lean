import SchemaMarkup.Table
import SchemaMarkup.Text.Blank

set_option autoImplicit false

/-!
# Files of variables

A file of variables has an assignment on each line: a name, an equals sign and a value. A value may
stand in quotes, and between quotes it may run over several lines and have escapes. A hash sign
begins a comment. A name without an equals sign is set to nothing, and a line that cannot be read
is passed over. In a value, a name in braces behind a dollar sign stands for the value of that
variable.

## Main definitions

* `SchemaMarkup.VariableFile.assignments` — the assignments of a file, as they are written.
* `SchemaMarkup.VariableFile.expand` — a value with the variables in it replaced.
* `SchemaMarkup.VariableFile.read` — the variables of a file.
-/

namespace SchemaMarkup.VariableFile

open Text (isBlank)

/-- White space within a line. -/
def isGap (c : Char) : Bool := isBlank c && c != '\n' && c != '\r'

/-- The characters that do not end a line. -/
def isInLine (c : Char) : Bool := c != '\n' && c != '\r'

/-- The text behind the end of the line that ends here. -/
def passLineEnd? : List Char → Option (List Char)
  | [] => some []
  | '\r' :: '\n' :: s => some s
  | '\r' :: s => some s
  | '\n' :: s => some s
  | _ => none

/-- The text behind the rest of the line. -/
def passLine (s : List Char) : List Char :=
  let rest := s.dropWhile isInLine
  match rest with
  | [] => []
  | _ :: rest => rest

/-- The text behind white space, an optional comment and the end of the line. -/
def passTail? (s : List Char) : Option (List Char) :=
  let rest := s.dropWhile isGap
  match rest with
  | '#' :: t => passLineEnd? (t.dropWhile isInLine)
  | rest => passLineEnd? rest

/-- The text behind the word that may announce an assignment. -/
def passExport (s : List Char) : List Char :=
  let word := "export".toList
  if word.isPrefixOf s then
    let rest := s.drop word.length
    if rest.head?.any isGap then rest.dropWhile isGap else s
  else s

/-- Read a name: between single quotes, or up to white space, an equals sign or a hash sign. At a
comment there is none. The outer answer is missing where no name can be read. -/
def readName? (s : List Char) : Option (Option String × List Char) :=
  match s with
  | '#' :: _ => some (none, s)
  | '\'' :: t =>
    let name := t.takeWhile (· != '\'')
    match name, t.dropWhile (· != '\'') with
    | _ :: _, _ :: rest => some (some (String.ofList name), rest)
    | _, _ => none
  | s =>
    let isNameChar (c : Char) : Bool := c != '=' && c != '#' && !isBlank c
    let name := s.takeWhile isNameChar
    if name.isEmpty then none else some (some (String.ofList name), s.dropWhile isNameChar)

/-- Split a text in quotes from what follows the closing quote: the first that no backslash stands
in front of. A backslash belongs to the character behind it, whichever it is. -/
def splitQuoted? (quote : Char) : List Char → Option (List Char × List Char)
  | [] => none
  | '\\' :: c :: s => (splitQuoted? quote s).map fun r => ('\\' :: c :: r.1, r.2)
  | c :: s =>
    if c == quote then some ([], s) else (splitQuoted? quote s).map fun r => (c :: r.1, r.2)

/-- The escapes between double quotes. -/
def escapes : List (Char × Char) :=
  [('\\', '\\'), ('\'', '\''), ('"', '"'), ('a', '\x07'), ('b', '\x08'), ('f', '\x0c'),
    ('n', '\n'), ('r', '\r'), ('t', '\t'), ('v', '\x0b')]

/-- A text with its escapes replaced. Between single quotes only a backslash and a single quote can
be escaped. -/
def unescape (quote : Char) : List Char → List Char
  | '\\' :: c :: s =>
    match escapes.lookup c with
    | some d =>
      if quote == '"' || c == '\\' || c == '\'' then d :: unescape quote s
      else '\\' :: unescape quote (c :: s)
    | none => '\\' :: unescape quote (c :: s)
  | c :: s => c :: unescape quote s
  | [] => []

/-- A value without quotes ends where a hash sign stands behind white space. -/
def cutComment : List Char → List Char
  | [] => []
  | c :: s =>
    if isBlank c && (s.dropWhile isBlank).head? == some '#' then [] else c :: cutComment s

/-- Read a value. -/
def readValue? (s : List Char) : Option (String × List Char) :=
  match s with
  | [] => some ("", [])
  | c :: t =>
    if c == '\'' || c == '"' then
      (splitQuoted? c t).map fun r => (String.ofList (unescape c r.1), r.2)
    else if !isInLine c then some ("", s)
    else
      let line := cutComment (s.takeWhile isInLine)
      some (String.ofList (line.reverse.dropWhile isBlank).reverse, s.dropWhile isInLine)

/-- Behind an equals sign, white space and a hash sign begin a comment. A hash sign alone does
not. -/
def isComment (s : List Char) : Bool :=
  s.head?.any isGap && (s.dropWhile isGap).head? == some '#'

/-- An assignment, whose value may be missing. -/
abbrev Assignment := String × Option String

/-- Read an assignment at its first character: the assignment if there is a name, and whether the
line could be read, with the text behind it. -/
def readAssignment (s : List Char) : Option Assignment × List Char :=
  let s := passExport s
  match readName? s with
  | none => (none, passLine s)
  | some (name, rest) =>
    let rest := rest.dropWhile isGap
    match rest with
    | '=' :: written =>
      let t := written.dropWhile isGap
      match if isComment written then some ("", t) else readValue? t with
      | none => (none, passLine t)
      | some (value, rest) =>
        match passTail? rest with
        | none => (none, passLine rest)
        | some after => (name.map fun n => (n, some value), after)
    | rest =>
      match passTail? rest with
      | none => (none, passLine rest)
      | some after => (name.map fun n => (n, none), after)

/-- The assignments of a text, at most as many as the number says. -/
def readAll : Nat → List Char → List Assignment
  | 0, _ => []
  | n + 1, s =>
    let s := s.dropWhile isBlank
    if s.isEmpty then []
    else
      let r := readAssignment s
      r.1.toList ++ readAll n r.2

/-- A text without the byte order mark that it may begin with. -/
def dropMark (s : List Char) : List Char := if s.head? == some '\ufeff' then s.drop 1 else s

/-- The assignments of a text in order, as they are written. -/
def assignments (s : List Char) : List Assignment := readAll (s.length + 1) (dropMark s)

/-- A variable in a value: its name and what stands for it if it is not set. -/
structure Reference where
  name : String
  default : String

/-- Read a reference behind the dollar sign and the opening brace. -/
def readReference? (s : List Char) : Option (Reference × List Char) :=
  let isNameChar (c : Char) : Bool := c != '\x7d' && c != ':'
  let name := String.ofList (s.takeWhile isNameChar)
  match s.dropWhile isNameChar with
  | ':' :: '-' :: t =>
    match t.dropWhile (· != '\x7d') with
    | [] => none
    | _ :: rest => some (⟨name, String.ofList (t.takeWhile (· != '\x7d'))⟩, rest)
  | c :: rest => if c == '\x7d' then some (⟨name, ""⟩, rest) else none
  | [] => none

/-- A value with the variables in it replaced, of at most as many characters as the number says. -/
def expandChars (known : List Assignment) : Nat → List Char → List Char
  | 0, _ => []
  | _ + 1, [] => []
  | n + 1, c :: s =>
    if c == '$' && s.head? == some '\x7b' then
      match readReference? (s.drop 1) with
      | some (r, rest) =>
        let value := match known.lookup r.name with
          | some v => v.getD ""
          | none => r.default
        value.toList ++ expandChars known n rest
      | none => c :: expandChars known n s
    else c :: expandChars known n s

/-- A value with the variables in it replaced. -/
def expand (known : List Assignment) (value : String) : String :=
  String.ofList (expandChars known (value.length + 1) value.toList)

/-- The variables of a file, given those set outside. A variable that is set twice has the later
value, and a value may refer to variables set in front of it and to those outside. -/
def read (outside : List (String × String)) (s : List Char) : List Assignment :=
  (assignments s).foldl (fun known a =>
    let visible := known ++ outside.map fun e => (e.1, some e.2)
    Table.put a.1 (a.2.map (expand visible)) known) []

end SchemaMarkup.VariableFile
