set_option autoImplicit false

/-!
# The trace of a run

What a run reports while it works is a list of notes. Each note has a level, and a run with a given
verbosity shows the notes whose level it reaches.

## Main definitions

* `SchemaMarkup.Note` — one report.
* `SchemaMarkup.Note.severity` — the severity that a note is shown with.
* `SchemaMarkup.shown` — the notes that a verbosity shows.
-/

namespace SchemaMarkup

/-- How serious a note is. -/
inductive Severity where
  | info
  | debug
  | trace
  deriving DecidableEq, Repr

/-- The name that a severity is shown under. -/
def Severity.label : Severity → String
  | .info => "INFO"
  | .debug => "DEBUG"
  | .trace => "TRACE"

/-- A report: level 1 is progress, level 2 detail, level 3 a step-by-step account. -/
structure Note where
  level : Int
  text : String
  deriving DecidableEq, Repr

namespace Note

/-- A note about progress. -/
def progress (text : String) : Note := ⟨1, text⟩

/-- A note about detail. -/
def detail (text : String) : Note := ⟨2, text⟩

/-- A note of the step-by-step account. -/
def step (text : String) : Note := ⟨3, text⟩

/-- Levels other than the first two count as steps. -/
def severity (n : Note) : Severity :=
  if n.level = 1 then .info else if n.level = 2 then .debug else .trace

end Note

/-- The notes that a run of the given verbosity shows; without a verbosity it shows none. -/
def shown (verbosity : Option Int) (notes : List Note) : List Note :=
  match verbosity with
  | none => []
  | some v => notes.filter fun n => n.level ≤ v

end SchemaMarkup
