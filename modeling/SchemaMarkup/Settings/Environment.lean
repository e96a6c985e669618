import SchemaMarkup.Settings.Basic
import SchemaMarkup.Settings.VariableFile
import SchemaMarkup.Text.Lower

set_option autoImplicit false

/-!
# Settings from variables

Every setting can be given by a variable, whose name is that of the setting behind a common
beginning, in any letter case. A variable of the environment counts more than one of a file. In a
file no variable may be set that is none of the settings, unless it is set to nothing or has the
name of a setting without the common beginning.

## Main definitions

* `SchemaMarkup.Settings.names` — the names of the settings.
* `SchemaMarkup.Settings.flag?` — the flag that a text gives.
* `SchemaMarkup.Settings.ofVariables` — the settings that variables give.
-/

namespace SchemaMarkup.Settings

/-- What every variable of a setting begins with, in lower case. -/
def variableStart : String := "structdata_"

/-- The names of the settings. -/
def names : List String :=
  ["semantic", "attribute_prefix", "default_suffix", "enabled", "schema_url", "vocabulary_file"]

/-- The flag that a text in any letter case gives. -/
def flag? (s : String) : Option Bool :=
  let t := String.ofList (s.toList.map Char.toLower)
  if ["1", "t", "true", "y", "yes", "on"].contains t then some true
  else if ["0", "f", "false", "n", "no", "off"].contains t then some false
  else none

/-- The ways in which variables give no settings. -/
inductive Fault where
  /-- The text is no flag. -/
  | noFlag (text : String)
  /-- The file sets a variable that is no setting. -/
  | unknown (name : String)
  deriving DecidableEq, Repr

/-- Variables by their names in lower case; of two names that differ in letter case the later
counts. -/
def byLowerName {ν : Type} (vs : List (String × ν)) : List (String × ν) :=
  Table.ofList (vs.map fun v => (Text.lower v.1, v.2))

/-- The value of a setting. -/
def given? (environment : List (String × String)) (file : List VariableFile.Assignment)
    (name : String) : Option String :=
  let key := variableStart ++ name
  ((byLowerName environment).lookup key).or (((byLowerName file).lookup key).bind id)

/-- A variable that a file must not set. -/
def unknown? (file : List VariableFile.Assignment) : Option String :=
  let isKnown (key : String) : Bool :=
    names.contains key || names.any fun n => variableStart ++ n == key
  ((byLowerName file).find? fun v => !isKnown v.1 && v.2.any (· != "")).map Prod.fst

/-- The flag that a value gives; without a value it is the standard one. -/
def readFlag (standard : Bool) : Option String → Except Fault Bool
  | none => .ok standard
  | some s =>
    match flag? s with
    | some b => .ok b
    | none => .error (.noFlag s)

/-- The settings that the variables of the environment and the text of a file of variables give. -/
def ofVariables (environment : List (String × String)) (file : String) :
    Except Fault Settings := do
  let assigned := VariableFile.read environment file.toList
  let given (name : String) : Option String := given? environment assigned name
  let enabled ← readFlag standard.enabled (given "enabled")
  if let some key := unknown? assigned then
    throw (.unknown key)
  return {
    semantic := (given "semantic").getD standard.semantic
    attributePrefix := (given "attribute_prefix").getD standard.attributePrefix
    defaultSuffix := (given "default_suffix").getD standard.defaultSuffix
    enabled
    schemaUrl := (given "schema_url").getD standard.schemaUrl
    vocabularyFile := given "vocabulary_file" }

end SchemaMarkup.Settings
