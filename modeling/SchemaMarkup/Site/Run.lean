import SchemaMarkup.Expander.Basic
import SchemaMarkup.Site.Pattern
import SchemaMarkup.Vocabulary.Bundled
import SchemaMarkup.Vocabulary.File

set_option autoImplicit false

/-!
# Runs

A run expands the files of a directory into another directory, all with one expander. It has four
stages: it checks what it needs and makes the expander, collects the files, expands them and
reports. A stage that cannot go on stops the run.

## Main definitions

* `SchemaMarkup.Selection` — which files a run is to expand.
* `SchemaMarkup.Report` — what a run has written.
* `SchemaMarkup.Run` — where a run stands, and `SchemaMarkup.Run.new` its beginning.
* `SchemaMarkup.Run.Stop` — why a run stops early.
* `SchemaMarkup.Run.Outcome` — what a stage comes to, and `SchemaMarkup.Run.Outcome.status` its exit
  status.
* `SchemaMarkup.Run.check`, `SchemaMarkup.Run.collect`, `SchemaMarkup.Run.expand`,
  `SchemaMarkup.Run.finish` — the stages.
* `SchemaMarkup.Run.perform` — several stages.
-/

namespace SchemaMarkup

/-- What a run has written. A report from elsewhere may be incomplete. -/
structure Report where
  /-- Whether the run succeeded. -/
  status : Option Bool
  /-- The paths of the files written. -/
  files : Option (List String)
  deriving DecidableEq, Repr

/-- The report says nothing. -/
def Report.isBlank (r : Report) : Bool := r.status.isNone && r.files.isNone

/-- Which files a run is to expand. -/
inductive Selection where
  /-- Those that a pattern describes. -/
  | pattern (s : String)
  /-- No pattern is given; what stands in its place is kept as it is shown. -/
  | absent (shown : String)
  deriving DecidableEq, Repr

namespace Selection

/-- The selection as a note shows it. -/
def text : Selection → String
  | pattern s => s
  | absent shown => shown

/-- The pattern of the selection. -/
def pattern? : Selection → Except Pattern.Fault Pattern
  | pattern s => Pattern.ofText s
  | absent shown => .error (.blank shown)

end Selection

/-- Where a run stands. -/
structure Run where
  inputDirectory : Path
  outputDirectory : Path
  /-- A run need not have a verbosity, as long as nobody asks for it. -/
  verbosity : Option Int
  selection : Selection
  semantic : String
  /-- The suffixes to register; a missing one is empty. -/
  suffixes : List (Option String)
  /-- Directives are taken out without markup in their place. -/
  disable : Bool
  /-- The check has succeeded. -/
  ready : Bool
  expander : Option Expander
  /-- The files to expand. -/
  sources : List Path
  report : Option Report
  settings : Settings
  /-- The vocabulary, once it is loaded. -/
  vocabulary : Option Vocabulary
  disk : Disk

namespace Run

/-- What may be said about a run; what is not said has its standard value. -/
structure Options where
  verbosity : Option Int := none
  selection : Option Selection := none
  semantic : Option String := none
  suffixes : Option (List (Option String)) := none
  disable : Option Bool := none
  ready : Option Bool := none
  sources : Option (List Path) := none
  report : Option Report := none
  deriving DecidableEq, Repr

/-- The beginning of a run from one directory to another. -/
def new (settings : Settings) (disk : Disk) (o : Options) (input output : Path) : Run where
  inputDirectory := input
  outputDirectory := output
  verbosity := some (o.verbosity.getD 1)
  selection := o.selection.getD (.pattern "**/*.html")
  semantic := o.semantic.getD Settings.standard.semantic
  suffixes := o.suffixes.getD []
  disable := o.disable.getD false
  ready := o.ready.getD false
  expander := none
  sources := o.sources.getD []
  report := o.report
  settings
  vocabulary := none
  disk

/-- Why a run stops early. -/
inductive Stop where
  /-- A directory is not named, which is noticed before the run begins. -/
  | noDirectory
  /-- The input or the output directory is none, which is noticed before the run begins. -/
  | notDirectory (p : Path)
  /-- There is no input directory. -/
  | inputMissing (p : Path)
  | unknownFlavour (u : UnknownFlavour)
  | vocabulary (f : Vocabulary.LoadFault)
  /-- The disk refuses something outside the expanding of a file. -/
  | refused (r : Refusal)
  | pattern (f : Pattern.Fault)
  /-- A source does not stand in the input directory. -/
  | outside (p : Path)
  /-- A source is no text. -/
  | notText (p : Path) (f : Text.Utf8.Fault)
  /-- The disk refuses something for a source. -/
  | notWritten (p : Path) (r : Refusal)
  /-- A directive of a source has no fragment. -/
  | unanswered (o : Vocabulary.Obstacle)
  /-- There is no expander. -/
  | noExpander
  /-- There is nothing to report. -/
  | noReport
  /-- The report does not say which files were written. -/
  | noFiles
  /-- The verbosity is asked for, and there is none. -/
  | noVerbosity
  deriving DecidableEq, Repr

/-- The line in which a stop is reported. Stops that a user cannot be blamed for have none. -/
def Stop.line? : Stop → Option String
  | noDirectory => none
  | notDirectory p =>
    let path := p.text
    some s!"Not a directory: {path}"
  | inputMissing p =>
    let path := p.text
    some s!"Error: Input directory not found: {path}"
  | unknownFlavour u =>
    let message := u.message
    some s!"Error: {message}"
  | vocabulary f =>
    let message := f.message
    if f.isTold then some s!"Vocabulary error: {message}" else none
  | refused _ => none
  | pattern _ => none
  | outside _ => none
  | notText p f =>
    let path := p.text
    let message := f.message
    some s!"Error rewriting {path}: {message}"
  | notWritten p r =>
    let path := p.text
    let message := r.message
    some s!"Error rewriting {path}: {message}"
  | unanswered _ => none
  | noExpander => none
  | noReport => some "Error: Rewrite failed"
  | noFiles => none
  | noVerbosity => none

/-- What a stage comes to: the run behind it, its notes, and why it stopped if it did. -/
structure Outcome where
  run : Run
  notes : List Note := []
  stop : Option Stop := none

/-- The exit status: one if the run has stopped early. -/
def Outcome.status (o : Outcome) : UInt32 := if o.stop.isSome then 1 else 0

/-- Go on with another stage unless the run has stopped. -/
def Outcome.andThen (o : Outcome) (next : Run → Outcome) : Outcome :=
  match o.stop with
  | some _ => o
  | none =>
    let p := next o.run
    { p with notes := o.notes ++ p.notes }

/-! ## The check -/

/-- The title that a verbose run begins with. -/
def banner : String := "\n".intercalate [
  "",
  "       _                   _      _       _",
  "   ___| |_ _ __ _   _  ___| |_ __| | __ _| |_ __ _",
  "  / __| __| '__| | | |/ __| __/ _\x60 |/ _\x60 | __/ _\x60 |",
  "  \\__ \\ |_| |  | |_| | (__| || (_| | (_| | || (_| |",
  "  |___/\\__|_|   \\__,_|\\___|\\__\\__,_|\\__,_|\\__\\__,_|",
  "",
  "  schema.org structured data from compact directives",
  ""]

/-- The vocabulary of a run with what loading it reports: the one loaded before, else that of the
file that the settings name, else the bundled one. -/
def loadVocabulary (r : Run) : Except Stop Vocabulary × List Note :=
  match r.vocabulary, r.settings.vocabularyPath with
  | some v, _ => (.ok v, [])
  | none, none => (.ok .bundled, [])
  | none, some p =>
    match r.disk.readFile p with
    | .error (.isDirectory q) => (.error (.refused (.isDirectory q)), [])
    | file =>
      ((Vocabulary.ofFile p.text file.toOption).mapError .vocabulary,
        Vocabulary.fileNotes p.text file.toOption)

/-- Make the expander. -/
def makeExpander (r : Run) : Outcome :=
  let (loaded, notes) := r.loadVocabulary
  match loaded with
  | .error stop => { run := r, notes, stop := some stop }
  | .ok v =>
    let r := { r with vocabulary := some v }
    match Expander.new r.settings v (some r.semantic) r.suffixes (some !r.disable) with
    | .error u => { run := r, notes, stop := some (.unknownFlavour u) }
    | .ok w => { run := { r with expander := some w }, notes := notes ++ w.newNotes r.suffixes }

/-- Make the output directory. -/
def makeOutput (r : Run) : Outcome :=
  match r.disk.makeDirectories r.outputDirectory with
  | .error f => { run := r, stop := some (.refused f) }
  | .ok disk =>
    let path := r.outputDirectory.text
    { run := { r with disk, ready := true }, notes := [.detail s!"Output directory: {path}"] }

/-- What an expander is said to be like. -/
def expanderNotes (w : Expander) : List Note :=
  let semantic := w.engine.renderer.flavour.name
  let suffixes := ", ".intercalate w.suffixes
  [.detail s!"Semantic: {semantic}", .detail s!"Suffixes: {suffixes}"]

/-- The first stage: there has to be an input directory; then the expander and the output directory
are made. -/
def check (r : Run) : Outcome :=
  match r.verbosity with
  | none => { run := r, stop := some .noVerbosity }
  | some v =>
    let title := if v ≥ 2 then [Note.detail banner] else []
    let notes := title ++ [.detail "Checking environment..."]
    if !r.disk.isDirectory r.inputDirectory then
      { run := r, notes, stop := some (.inputMissing r.inputDirectory) }
    else
      (({ run := r, notes : Outcome }.andThen makeExpander).andThen fun r =>
        { run := r, notes := (r.expander.map expanderNotes).getD [] }).andThen makeOutput

/-! ## The files -/

/-- The second stage: the selected files are collected. -/
def collect (r : Run) : Outcome :=
  let selection := r.selection.text
  let notes := [Note.progress s!"Collecting sources matching {selection}..."]
  match r.selection.pattern? with
  | .error f => { run := r, notes, stop := some (.pattern f) }
  | .ok p =>
    let sources := p.files r.disk r.inputDirectory
    let count := sources.length
    { run := { r with sources }, notes := notes ++ [.detail s!"Found {count} file(s)"] }

/-- The path at which a source is written. -/
def target? (r : Run) (source : Path) : Option Path :=
  (r.inputDirectory.relativeTo? source).map r.outputDirectory.join

/-- Expand the text of a source and write it at the path `target`. -/
def expandText (r : Run) (source target : Path) (text : String) : Outcome :=
  match r.disk.makeDirectories target.parent with
  | .error f => { run := r, stop := some (.notWritten source f) }
  | .ok disk =>
    match r.expander with
    | none => { run := { r with disk }, stop := some .noExpander }
    | some w =>
      let (out, w') := w.expand text
      let r := { r with disk, expander := some w' }
      let notes := w.expandNotes text
      match w.expandObstacle? text, disk.writeFile target (Text.toFile out) with
      | some o, _ => { run := r, notes, stop := some (.unanswered o) }
      | none, .error f => { run := r, notes, stop := some (.notWritten source f) }
      | none, .ok disk =>
        let path := target.text
        { run := { r with disk }, notes := notes ++ [.detail s!"Wrote {path}"] }

/-- Expand a source. -/
def expandSource (r : Run) (source : Path) : Outcome :=
  match r.target? source with
  | none => { run := r, stop := some (.outside source) }
  | some target =>
    match r.disk.readFile source with
    | .error f => { run := r, stop := some (.notWritten source f) }
    | .ok bytes =>
      match Text.ofFile bytes with
      | .error f => { run := r, stop := some (.notText source f) }
      | .ok text =>
        let count := text.length
        let name := source.name
        { run := r, notes := [.detail s!"Read {count} characters from {name}"] : Outcome }.andThen
          fun r => r.expandText source target text

/-- Expand sources in order. -/
def expandSources (r : Run) : List Path → Outcome
  | [] => { run := r }
  | source :: sources => (r.expandSource source).andThen fun r => r.expandSources sources

/-- The third stage: the files are expanded in order, all with one expander. -/
def expand (r : Run) : Outcome :=
  let notes := [Note.progress "Rewriting directives..."]
  ({ run := r, notes : Outcome }.andThen fun r => r.expandSources r.sources).andThen fun r =>
    let written := (r.sources.filterMap r.target?).map Path.text
    { run := { r with report := some ⟨some true, some written⟩ } }

/-! ## The end -/

/-- What a report says on a run into a directory. -/
def reportNotes (output : Path) (files : List String) : List Note :=
  let count := files.length
  let path := output.text
  [.progress s!"  Files: {count}", .progress s!"  Output: {path}"]

/-- The last stage: what was written is reported. -/
def finish (r : Run) : Outcome :=
  let title := Note.progress "\n✓ Rewrite successful!"
  match r.report.filter (!·.isBlank), r.verbosity with
  | none, _ => { run := r, stop := some .noReport }
  | some _, none => { run := r, stop := some .noVerbosity }
  | some report, some v =>
    if v < 1 then { run := r }
    else
      match report.files with
      | none => { run := r, notes := [title], stop := some .noFiles }
      | some files => { run := r, notes := title :: reportNotes r.outputDirectory files }

/-- The stages. -/
inductive Stage where
  | check
  | collect
  | expand
  | finish
  deriving DecidableEq, Repr

/-- All stages in order. -/
def Stage.all : List Stage := [check, collect, expand, finish]

/-- One stage. -/
def stage (r : Run) : Stage → Outcome
  | .check => r.check
  | .collect => r.collect
  | .expand => r.expand
  | .finish => r.finish

/-- Several stages, up to the first that stops the run. -/
def perform (r : Run) : List Stage → Outcome
  | [] => { run := r }
  | s :: ss => (r.stage s).andThen fun r => r.perform ss

end Run

end SchemaMarkup
