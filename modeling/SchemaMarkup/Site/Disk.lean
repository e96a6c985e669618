import SchemaMarkup.Site.Path
import SchemaMarkup.Table

set_option autoImplicit false

/-!
# Directories and files

A disk holds directories and files, each at its place: the names that lead to it from the root.
Everything but the root stands in a directory. Paths are followed from left to right, and each step
but the last has to end in a directory. A name is not longer than a limit and holds no null
character.

## Main definitions

* `SchemaMarkup.Disk` — directories and files, and the working directory.
* `SchemaMarkup.Disk.placeOf` — the place that a path names.
* `SchemaMarkup.Disk.locate?` — the place that a path leads to.
* `SchemaMarkup.Disk.makeDirectories` — make a directory and those around it.
* `SchemaMarkup.Disk.readFile`, `SchemaMarkup.Disk.writeFile` — the bytes of a file.

## Main results

* `SchemaMarkup.Disk.item?_putAt` — what stands at a place after something was put somewhere.
-/

namespace SchemaMarkup

/-- The names that lead to a directory or a file from the root. -/
abbrev Place := List String

/-- The place that a component leads to from a place. -/
def Place.enter (place : Place) (part : String) : Place :=
  if part = ".." then place.dropLast else place ++ [part]

/-- What stands at a place. -/
inductive Item where
  | directory
  | file (bytes : List UInt8)
  deriving DecidableEq, Repr

/-- Directories and files by their places, and the working directory. The root is not listed. -/
structure Disk where
  items : List (Place × Item)
  workingDirectory : Place := []

/-- The ways in which a disk refuses what it is asked for. -/
inductive Refusal where
  /-- There is nothing at the path. -/
  | notFound (p : Path)
  /-- Something else is at the path already. -/
  | occupied (p : Path)
  /-- A file is in the way of the path. -/
  | notDirectory (p : Path)
  /-- The path leads to a directory. -/
  | isDirectory (p : Path)
  /-- The path, or a name in it, is too long. -/
  | tooLong (p : Path)
  /-- There is a null character in the path. -/
  | nullCharacter
  deriving DecidableEq, Repr

/-- A refusal in words, with the number that the system gives it if it is the system's. -/
def Refusal.message (r : Refusal) : String :=
  let line (number : Nat) (words : String) (p : Path) : String :=
    let path := p.text
    s!"[Errno {number}] {words}: '{path}'"
  match r with
  | notFound p => line 2 "No such file or directory" p
  | occupied p => line 17 "File exists" p
  | notDirectory p => line 20 "Not a directory" p
  | isDirectory p => line 21 "Is a directory" p
  | tooLong p => line 36 "File name too long" p
  | nullCharacter => "embedded null byte"

namespace Disk

/-- What stands at a place. -/
def item? (d : Disk) (place : Place) : Option Item :=
  if place = [] then some .directory else d.items.lookup place

/-- A directory stands at the place. -/
def isDirectoryAt (d : Disk) (place : Place) : Bool := d.item? place == some .directory

/-- Put something at a place. -/
def putAt (place : Place) (i : Item) (d : Disk) : Disk :=
  { d with items := Table.put place i d.items }

/-- The place that components lead to from a place. -/
def follow? (d : Disk) (place : Place) : List String → Option Place
  | [] => some place
  | part :: parts =>
    if d.isDirectoryAt place then follow? d (place.enter part) parts else none

/-- The place at which a path begins. -/
def origin (d : Disk) (p : Path) : Place :=
  if p.start = .here then d.workingDirectory else []

/-- The place that a path names, whatever stands on the way to it. -/
def placeOf (d : Disk) (p : Path) : Place := p.parts.foldl Place.enter (d.origin p)

/-- The place that a path leads to. -/
def locate? (d : Disk) (p : Path) : Option Place := d.follow? (d.origin p) p.parts

/-- What a path leads to. -/
def find? (d : Disk) (p : Path) : Option Item := (d.locate? p).bind d.item?

/-- The path leads to a directory. -/
def isDirectory (d : Disk) (p : Path) : Bool := d.find? p == some .directory

/-- The path leads to a file. -/
def isFile (d : Disk) (p : Path) : Bool :=
  match d.find? p with
  | some (.file _) => true
  | _ => false

/-- How many bytes a name has at most. -/
def nameLimit : Nat := 255

/-- How many bytes a path has at most. -/
def pathLimit : Nat := 4095

/-- The path is too long to be followed: as a whole, or by a name in a directory that there is. -/
def isTooLong (d : Disk) (p : Path) : Bool :=
  let (before, rest) := p.parts.span fun part => part.utf8ByteSize ≤ nameLimit
  p.text.utf8ByteSize > pathLimit || (!rest.isEmpty && d.isDirectory { p with parts := before })

/-- The names of what stands in the directory that a path leads to. -/
def names (d : Disk) (p : Path) : List String :=
  match d.locate? p with
  | none => []
  | some place =>
    d.items.filterMap fun e =>
      if e.1.dropLast = place then e.1.getLast? else none

/-- The bytes of the file that a path leads to. -/
def readFile (d : Disk) (p : Path) : Except Refusal (List UInt8) :=
  match d.find? p with
  | some (.file bytes) => .ok bytes
  | some .directory => .error (.isDirectory p)
  | none => .error (.notFound p)

/-- Make the directories that components lead to from a directory, as far as they are missing. -/
def makeFrom (d : Disk) (p : Path) (place : Place) : List String → Except Refusal Disk
  | [] => .ok d
  | part :: parts =>
    let next := place.enter part
    if nameLimit < part.utf8ByteSize then .error (.tooLong p)
    else
      match d.item? next with
      | some .directory => makeFrom d p next parts
      | some (.file _) => .error (if parts = [] then .occupied p else .notDirectory p)
      | none => makeFrom (d.putAt next .directory) p next parts

/-- Make the directory that a path leads to and those around it, as far as they are missing. -/
def makeDirectories (d : Disk) (p : Path) : Except Refusal Disk :=
  if p.parts.any (·.toList.contains '\x00') then .error .nullCharacter
  else if p.text.utf8ByteSize > pathLimit then .error (.tooLong p)
  else d.makeFrom p (d.origin p) p.parts

/-- Write a file at a path, in the place of the file that is there. -/
def writeFile (d : Disk) (p : Path) (bytes : List UInt8) : Except Refusal Disk :=
  match d.locate? p with
  | none => .error (.notFound p)
  | some place =>
    if d.isDirectoryAt place then .error (.isDirectory p)
    else if d.isDirectoryAt place.dropLast then .ok (d.putAt place (.file bytes))
    else .error (.notFound p)

/-- What stands at a place after something was put at another or the same. -/
theorem item?_putAt (d : Disk) (place place' : Place) (i : Item) (h : place ≠ []) :
    (d.putAt place i).item? place' = if place' = place then some i else d.item? place' := by
  simp only [item?, putAt, Table.lookup_put]
  by_cases h' : place' = []
  · subst h'
    simp [Ne.symm h]
  · simp [h']

end Disk

end SchemaMarkup
