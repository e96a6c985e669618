import SchemaMarkup.Site.Run
import SchemaMarkup.Text.Digit

set_option autoImplicit false

/-!
# The command line

The arguments name an input directory and an output directory, with options before, between and
behind them. A long option may be shortened as long as it stays unambiguous, and its value may
follow behind an equals sign. Short options may share a hyphen. Two hyphens end the options, and
where they stand in the place of a value there is none.

## Main definitions

* `SchemaMarkup.CommandLine.Word` — an argument, by what it looks like.
* `SchemaMarkup.CommandLine.Request` — what the arguments ask for.
* `SchemaMarkup.CommandLine.requestOf` — read the arguments.
* `SchemaMarkup.CommandLine.run` — the run that the arguments ask for.
-/

namespace SchemaMarkup.CommandLine

/-- The options. -/
inductive Switch where
  | help
  | version
  | verbosity
  | disable
  | pattern
  | semantic
  | suffix
  /-- Two options that are accepted and count for nothing. -/
  | saveInput
  | saveOutput
  deriving DecidableEq, Repr

/-- The option is followed by a value. -/
def Switch.takesValue : Switch → Bool
  | pattern => true
  | semantic => true
  | suffix => true
  | _ => false

/-- The options as they are written. -/
def switches : List (String × Switch) :=
  [("-h", .help), ("--help", .help), ("--pattern", .pattern), ("--semantic", .semantic),
    ("--suffix", .suffix), ("--disable", .disable), ("-v", .verbosity),
    ("--verbosity", .verbosity), ("-V", .version), ("--version", .version),
    ("--saveinputmeta", .saveInput), ("--saveoutputmeta", .saveOutput)]

/-- An argument, by what it looks like. -/
inductive Word where
  /-- Two hyphens. -/
  | hyphens
  | plain (s : String)
  /-- An option, with what is written behind it in the same argument: behind an equals sign, or
  directly behind a short option. -/
  | option (o : Switch) (short : Bool) (attached : Option (List Char))
  /-- It looks like an option, and there is none. -/
  | unknown
  deriving DecidableEq, Repr

/-- Why arguments cannot be used. -/
inductive Misuse where
  | misuse
  deriving DecidableEq, Repr

/-- A text without the line end that it may have. -/
def dropLineEnd (s : List Char) : List Char :=
  if s.getLast? == some '\n' then s.dropLast else s

/-- The text is a negative number. -/
def isNegativeNumber (s : String) : Bool :=
  match dropLineEnd s.toList with
  | '-' :: t =>
    match t.dropWhile Text.isDecimal with
    | [] => !t.isEmpty
    | '.' :: t => !t.isEmpty && t.all Text.isDecimal
    | _ => false
  | _ => false

/-- Split a text at its first equals sign. -/
def splitEquals? (s : String) : Option (String × List Char) :=
  match s.toList.dropWhile (· != '=') with
  | [] => none
  | _ :: value => some (String.ofList (s.toList.takeWhile (· != '=')), value)

/-- The option is written with one hyphen. -/
def isShort (written : String) : Bool := written.toList.drop 1 |>.head? |>.all (· != '-')

/-- The options that an argument may mean which is none of them as it is written: those that it
shortens, or the short one that it begins with. -/
def candidates (s : String) : List Word :=
  if isShort s then
    let first := String.ofList (s.toList.take 2)
    ((switches.lookup first).map fun o => Word.option o true (some (s.toList.drop 2))).toList
  else
    let (name, attached) : String × Option (List Char) :=
      match splitEquals? s with
      | some (n, v) => (n, some v)
      | none => (s, none)
    let meant := switches.filter fun e => name.toList.isPrefixOf e.1.toList
    meant.map fun e => .option e.2 false attached

/-- Look at an argument. -/
def classify (s : String) : Except Misuse Word :=
  if s.toList.head? != some '-' then .ok (.plain s)
  else
    match switches.lookup s with
    | some o => .ok (.option o (isShort s) none)
    | none =>
      if s.length = 1 then .ok (.plain s)
      else
        match (splitEquals? s).bind fun e => (switches.lookup e.1).map fun o =>
            Word.option o (isShort e.1) (some e.2) with
        | some w => .ok w
        | none =>
          match candidates s with
          | [w] => .ok w
          | _ :: _ :: _ => .error .misuse
          | [] =>
            if isNegativeNumber s || s.toList.contains ' ' then .ok (.plain s) else .ok .unknown

/-- Look at arguments in order. Behind two hyphens every argument is plain. -/
def classifyAll : List String → Except Misuse (List Word)
  | [] => .ok []
  | s :: ss =>
    if s = "--" then .ok (.hyphens :: ss.map .plain)
    else do return (← classify s) :: (← classifyAll ss)

/-- What has been read so far. A suffix or a directory may be there without a name. -/
structure Reading where
  verbosity : Int := 1
  selection : Option Selection := none
  semantic : Option String := none
  suffixes : List (Option String) := []
  disable : Bool := false
  directories : List (Option String) := []
  /-- Something was left over. -/
  surplus : Bool := false
  deriving DecidableEq, Repr

/-- What arguments ask for that ends the reading at once. -/
inductive Ending where
  | help
  | version
  | misuse
  deriving DecidableEq, Repr

/-- Take an option without value into account. -/
def Reading.note (r : Reading) : Switch → Except Ending Reading
  | .help => .error .help
  | .version => .error .version
  | .verbosity => .ok { r with verbosity := r.verbosity + 1 }
  | .disable => .ok { r with disable := true }
  | _ => .ok r

/-- Take an option with its value into account, which is missing where two hyphens stand for it. -/
def Reading.set (r : Reading) (o : Switch) (value : Option String) : Reading :=
  match o with
  | .pattern => { r with selection := some ((value.map .pattern).getD (.absent "[]")) }
  | .semantic => { r with semantic := some (value.getD "") }
  | .suffix => { r with suffixes := r.suffixes ++ [value] }
  | _ => r

/-- The short options that letters stand for. -/
def cluster : List Char → Except Ending (List Switch)
  | [] => .ok []
  | c :: s =>
    match switches.lookup (String.ofList ['-', c]) with
    | none => .error .misuse
    | some o => (cluster s).map (o :: ·)

/-- Take an option into account, with the words behind it. Behind a short option without value
others may be attached. -/
def Reading.option (r : Reading) (o : Switch) (short : Bool) (attached : Option (List Char))
    (ws : List Word) : Except Ending (Reading × List Word) :=
  match attached, o.takesValue, ws with
  | none, false, ws => (r.note o).map fun r => (r, ws)
  | none, true, .plain s :: ws => .ok (r.set o (some s), ws)
  | none, true, _ => .error .misuse
  | some s, true, ws =>
    .ok (r.set o (if s = "--".toList then none else some (String.ofList s)), ws)
  | some s, false, ws =>
    if !short || s.isEmpty then .error .misuse
    else do
      let r ← (o :: (← cluster s)).foldlM Reading.note r
      return (r, ws)

/-- Read one directory, with the hyphens around it. Hyphens in its place name none, unless there are
some around them. -/
def readDirectory? (ws : List Word) : Option (Option String × List Word) :=
  match ws.dropWhile (· == .hyphens) with
  | .plain s :: rest =>
    let marked := ws.head? == some .hyphens || rest.head? == some .hyphens
    some (if s = "--" && !marked then none else some s, rest.dropWhile (· == .hyphens))
  | _ => none

/-- Read the directories that stand here, as long as one is missing. -/
def Reading.readDirectories (missing : Nat) (r : Reading) (ws : List Word) :
    Reading × List Word :=
  match missing, readDirectory? ws with
  | n + 1, some (s, ws) => readDirectories n { r with directories := r.directories ++ [s] } ws
  | _, _ => (r, ws)

/-- The word is an option or looks like one. -/
def Word.isOption : Word → Bool
  | option _ _ _ => true
  | unknown => true
  | _ => false

/-- Read words, in at most as many steps as the number says. -/
def Reading.readAll : Nat → Reading → List Word → Except Ending Reading
  | 0, r, _ => .ok r
  | n + 1, r, ws =>
    match ws with
    | .option o short attached :: ws => do
      let (r, ws) ← r.option o short attached ws
      readAll n r ws
    | .unknown :: ws => readAll n { r with surplus := true } ws
    | ws =>
      let (r', ws') := r.readDirectories (2 - r.directories.length) ws
      if ws'.length < ws.length then readAll n r' ws'
      else if ws.isEmpty then .ok r
      else readAll n { r with surplus := true } (ws.dropWhile fun w => !w.isOption)

/-- What the arguments ask for. -/
inductive Request where
  /-- A run from one directory to another, each of which may be there without a name. -/
  | run (o : Run.Options) (input output : Option String)
  | help
  | version
  | misuse
  deriving DecidableEq, Repr

/-- Read the arguments. A flavour that is not given is that of the settings. -/
def requestOf (settings : Settings) (arguments : List String) : Request :=
  match classifyAll arguments with
  | .error _ => .misuse
  | .ok ws =>
    match Reading.readAll (2 * ws.length + 1) {} ws with
    | .error .help => .help
    | .error .version => .version
    | .error .misuse => .misuse
    | .ok r =>
      match r.directories, r.surplus with
      | [input, output], false =>
        .run {
          verbosity := some r.verbosity
          selection := r.selection
          semantic := some (r.semantic.getD settings.semantic)
          suffixes := some r.suffixes
          disable := some r.disable } input output
      | _, _ => .misuse

/-- The name and the version of the program. -/
def versionLine : String := "structdata 1.0.0"

/-- How the program is called. -/
def usage : String :=
  "usage: structdata [-h] [--pattern PATTERN] [--semantic SEMANTIC] [--suffix SUFFIX] " ++
    "[--disable] [-v] [-V] [--saveinputmeta] [--saveoutputmeta] inputdir outputdir"

/-- The run that the arguments ask for. Its output directory is made before anything else, and then
its input directory is looked for. -/
def run (settings : Settings) (disk : Disk) (o : Run.Options) (input output : Option String) :
    Run.Outcome :=
  let path (name : Option String) : Path := .ofText (name.getD "")
  let r := Run.new settings disk o (path input) (path output)
  if input.isNone || output.isNone then { run := r, stop := some .noDirectory }
  else
    match disk.makeDirectories r.outputDirectory with
    | .error (.occupied p) => { run := r, stop := some (.notDirectory p) }
    | .error f => { run := r, stop := some (.refused f) }
    | .ok disk =>
      let r := { r with disk }
      if disk.isTooLong r.inputDirectory then
        { run := r, stop := some (.refused (.tooLong r.inputDirectory)) }
      else if disk.isDirectory r.inputDirectory then r.perform Run.Stage.all
      else { run := r, stop := some (.notDirectory r.inputDirectory) }

end SchemaMarkup.CommandLine
