import SchemaMarkup.Document.Content
import SchemaMarkup.Trace
import SchemaMarkup.Vocabulary.Definition

set_option autoImplicit false

/-!
# Vocabulary files

A vocabulary file is a text file with a document in YAML that maps type names to their definitions.
The root of its vocabulary is the default one.

## Main definitions

* `SchemaMarkup.Vocabulary.ofFile` — the vocabulary of a file.
* `SchemaMarkup.Vocabulary.fileNotes` — what reading it reports.
-/

namespace SchemaMarkup.Vocabulary

/-- The last component of a path. -/
def fileName (path : String) : String :=
  String.ofList ((Text.pieces (· == '/') path.toList).getLastD [])

/-- The definitions in the file at a path, given its bytes if there is such a file. -/
def definitionsOf (path : String) (bytes : Option (List UInt8)) :
    Except LoadFault (List (Value × Value)) :=
  match bytes.map Text.ofFile with
  | none => .error (.fileMissing path)
  | some (.error f) => .error (.notText f)
  | some (.ok s) =>
    match Document.ofText s.toList with
    | .error f => .error (.unreadable (fileName path) f)
    | .ok (.map es) => .ok es
    | .ok _ => .error (.notMapping (fileName path))

/-- The vocabulary of the file at a path, given its bytes if there is such a file. -/
def ofFile (path : String) (bytes : Option (List UInt8)) : Except LoadFault Vocabulary := do
  ofDefinitions (← definitionsOf path bytes) defaultRoot

/-- What reading a vocabulary file reports. -/
def fileNotes (path : String) (bytes : Option (List UInt8)) : List Note :=
  match definitionsOf path bytes with
  | .error _ => []
  | .ok ds =>
    let count := ds.length
    [.detail s!"Loaded {count} vocabulary types from {path}"]

end SchemaMarkup.Vocabulary
