import SchemaMarkup.Settings.Environment
import SchemaMarkup.Site.CommandLine

set_option autoImplicit false

/-!
# The program

The program looks at the directories that its arguments name, lets a run work on what it has seen,
and then makes the directories and writes the files that the run has put on its disk. Notes and
errors go to the error output.

## Main definitions

* `SchemaMarkup.Program.look` — what the system holds at a path.
* `SchemaMarkup.Program.apply` — carry out what a run has done.
* `main` — the program.
-/

namespace SchemaMarkup.Program

/-- What the system holds at a path and below it, without the bytes of the files unless they are
asked for. -/
partial def below (withBytes : Bool) (path : String) (place : Place) :
    IO (List (Place × Item)) := do
  let target := (← IO.currentDir) / path
  if ← target.isDir then
    let inner ← (← target.readDir).toList.mapM fun e =>
      below withBytes (path ++ "/" ++ e.fileName) (place ++ [e.fileName])
    return (place, .directory) :: inner.flatten
  else if ← target.pathExists then
    let bytes ← if withBytes then IO.FS.readBinFile target else pure .empty
    return [(place, .file bytes.toList)]
  else
    return []

/-- The directories of the system on the way to a path. -/
def around (d : Disk) (p : Path) : IO (List (Place × Item)) := do
  let here ← IO.currentDir
  let steps := (List.range p.parts.length).map fun n => { p with parts := p.parts.take n }
  let directories ← steps.filterM fun q => (here / q.text).isDir
  return directories.map fun q => (d.placeOf q, .directory)

/-- What the system holds at a path, on the way to it and below it. -/
def look (withBytes : Bool) (p : Path) (d : Disk) : IO Disk := do
  let found := (← around d p) ++ (← below withBytes p.text (d.placeOf p))
  return found.foldl (fun d e => if (d.item? e.1).isSome then d else d.putAt e.1 e.2) d

/-- A disk with the working directory of the system and the directories around it. -/
def start : IO Disk := do
  let place := (Path.ofText (← IO.currentDir).toString).parts
  let around := (List.range place.length).map fun n => (place.take (n + 1), Item.directory)
  return { items := around, workingDirectory := place }

/-- Make the directories and write the files that a run has put on its disk. -/
def apply (before after : Disk) : IO Unit :=
  for (place, item) in after.items do
    if before.item? place != some item then
      let path := "/" ++ "/".intercalate place
      match item with
      | .directory => IO.FS.createDirAll path
      | .file bytes => IO.FS.writeBinFile path ⟨bytes.toArray⟩

/-- The settings that the environment and the file of variables in the working directory give. -/
def settings : IO (Except Settings.Fault Settings) := do
  let lower := Settings.names.map fun n => Settings.variableStart ++ n
  let written := lower ++ lower.map String.toUpper
  let environment ← written.filterMapM fun n => return (← IO.getEnv n).map fun v => (n, v)
  let file := (← IO.currentDir) / ".env"
  let bytes ← if ← file.pathExists then IO.FS.readBinFile file else pure .empty
  return Settings.ofVariables environment ((Text.ofFile bytes.toList).toOption.getD "")

/-- Carry out a run from one directory to another. -/
def perform (s : Settings) (o : Run.Options) (input output : Option String) : IO UInt32 := do
  let disk ← start
  let disk ← match s.vocabularyPath with
    | some p => look true p disk
    | none => pure disk
  let disk ← look true (.ofText (input.getD "")) disk
  let disk ← look false (.ofText (output.getD "")) disk
  let outcome := CommandLine.run s disk o input output
  for n in shown o.verbosity outcome.notes do
    IO.eprintln (n.severity.label ++ " │ " ++ n.text)
  apply disk outcome.run.disk
  if let some stop := outcome.stop then
    IO.eprintln (stop.line?.getD "Error")
  return outcome.status

end SchemaMarkup.Program

/-- Expand the files of a directory as the arguments say. -/
def main (arguments : List String) : IO UInt32 := do
  match ← SchemaMarkup.Program.settings with
  | .error _ =>
    IO.eprintln "Error: invalid settings"
    return 1
  | .ok s =>
    match SchemaMarkup.CommandLine.requestOf s arguments with
    | .run o input output => SchemaMarkup.Program.perform s o input output
    | .version =>
      IO.println SchemaMarkup.CommandLine.versionLine
      return 0
    | .help =>
      IO.println SchemaMarkup.CommandLine.usage
      return 0
    | .misuse =>
      IO.eprintln SchemaMarkup.CommandLine.usage
      return 2
