import SchemaMarkup.Text.Blank

set_option autoImplicit false

/-!
# Paths

A path is written with slashes between its components. Empty components and single dots count for
nothing, and double dots are kept: where they lead depends on what is on the disk. A path with
nothing in it is written as a single dot.

## Main definitions

* `SchemaMarkup.Path` — a path.
* `SchemaMarkup.Path.ofText` — read a path.
* `SchemaMarkup.Path.text` — write a path.
* `SchemaMarkup.Path.relativeTo?` — a path from the end of another.

## Main results

* `SchemaMarkup.Path.relativeTo?_join` — joining and cutting are inverse.
-/

namespace SchemaMarkup

/-- Where a path begins. -/
inductive Path.Start where
  /-- The working directory. -/
  | here
  /-- The root directory. -/
  | root
  /-- The root directory, written with two slashes. -/
  | doubleRoot
  deriving DecidableEq, Repr

/-- What a path to such a place begins with. -/
def Path.Start.text : Path.Start → String
  | .here => ""
  | .root => "/"
  | .doubleRoot => "//"

/-- A path: where it begins, and its components. -/
structure Path where
  start : Path.Start
  parts : List String
  deriving DecidableEq, Repr

namespace Path

/-- Where a written path begins. More than two slashes are like one. -/
def startOf : List Char → Start
  | '/' :: '/' :: '/' :: _ => .root
  | '/' :: '/' :: _ => .doubleRoot
  | '/' :: _ => .root
  | _ => .here

/-- The components of a written path. -/
def partsOf (s : List Char) : List String :=
  ((Text.pieces (· == '/') s).map String.ofList).filter fun p => p != "" && p != "."

/-- Read a path. -/
def ofText (s : String) : Path := ⟨startOf s.toList, partsOf s.toList⟩

/-- Write a path. -/
def text (p : Path) : String :=
  let parts := "/".intercalate p.parts
  if p.start = .here ∧ p.parts = [] then "." else p.start.text ++ parts

/-- The path that leads on from the end of a path. -/
def join (p : Path) (parts : List String) : Path := { p with parts := p.parts ++ parts }

/-- The last component. -/
def name (p : Path) : String := p.parts.getLastD ""

/-- The path without its last component. -/
def parent (p : Path) : Path := { p with parts := p.parts.dropLast }

/-- The components that lead from the end of the path `base` to the end of the path `p`, if `p`
begins with `base`. -/
def relativeTo? (base p : Path) : Option (List String) :=
  if p.start = base.start ∧ base.parts <+: p.parts then some (p.parts.drop base.parts.length)
  else none

/-- Paths are ordered by their components. -/
def precedes (p q : Path) : Bool := !decide (q.parts < p.parts)

@[simp] theorem join_nil (p : Path) : p.join [] = p := by simp [join]

@[simp] theorem join_join (p : Path) (parts parts' : List String) :
    (p.join parts).join parts' = p.join (parts ++ parts') := by
  simp [join]

/-- What is joined to a path leads from its end to the end of the longer one. -/
theorem relativeTo?_join (p : Path) (parts : List String) :
    relativeTo? p (p.join parts) = some parts := by
  simp [relativeTo?, join]

end Path

end SchemaMarkup
