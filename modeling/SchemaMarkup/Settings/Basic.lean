import SchemaMarkup.Site.Path

set_option autoImplicit false

/-!
# Settings

What can be configured: the flavour and the vocabulary address of the markup, and the names of the
directive attributes.

## Main definitions

* `SchemaMarkup.Settings` — the settings, `SchemaMarkup.Settings.standard` their standard values.
* `SchemaMarkup.Settings.attributeName` — the name of a directive attribute.
* `SchemaMarkup.Settings.vocabularyPath` — the path of the vocabulary file.
-/

namespace SchemaMarkup

/-- What can be configured. -/
structure Settings where
  /-- The name of the flavour. -/
  semantic : String
  /-- What the names of directive attributes begin with. -/
  attributePrefix : String
  /-- The suffix that is always registered. -/
  defaultSuffix : String
  /-- Whether markup is written. -/
  enabled : Bool
  /-- The address that type names are relative to. -/
  schemaUrl : String
  /-- The file of the vocabulary; with none the bundled one is used. -/
  vocabularyFile : Option String
  deriving DecidableEq, Repr

namespace Settings

/-- The standard values. -/
def standard : Settings where
  semantic := "Microdata"
  attributePrefix := "data"
  defaultSuffix := "sd"
  enabled := true
  schemaUrl := "https://schema.org"
  vocabularyFile := none

/-- The name of the directive attribute with a given suffix. -/
def attributeName (s : Settings) (suffix : String) : String := s.attributePrefix ++ "-" ++ suffix

/-- The path of the vocabulary file, if one is named. -/
def vocabularyPath (s : Settings) : Option Path := (Text.given s.vocabularyFile).map Path.ofText

end Settings

end SchemaMarkup
