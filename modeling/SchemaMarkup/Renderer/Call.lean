import SchemaMarkup.Renderer.Basic

set_option autoImplicit false

/-!
# Calls to a renderer

What can be asked of a renderer, as data, and the answers. A renderer without a flavour answers
whatever needs no attribute.

## Main definitions

* `SchemaMarkup.Renderer.Call` — what can be asked.
* `SchemaMarkup.Renderer.answer` — the answer of a renderer.
* `SchemaMarkup.Renderer.plainAnswer` — the answer of a renderer without a flavour.
-/

namespace SchemaMarkup.Renderer

/-- What can be asked of a renderer. -/
inductive Call where
  | name
  | baseUrl
  | description
  | property (p : Option String)
  | scope (t : Option String)
  /-- A fragment of a shape. -/
  | fragment (shape : Shape) (content property scope : Option String) (propertyFirst : Bool)
  /-- A fragment from the standard renderer, whichever renderer is asked. -/
  | standard (shape : Shape) (content property scope : Option String) (propertyFirst : Bool)
  deriving Repr

/-- The address of the schema.org vocabulary. -/
def schemaUrl : String := "https://schema.org"

/-- The renderer that serves callers with no renderer of their own. -/
def standard : Renderer := make .microdata none schemaUrl

/-- The name under which renderers of a flavour describe themselves. -/
def familyName : Option Flavour → String
  | some .microdata => "MicrodataRenderer"
  | some .rdfa => "RDFaRenderer"
  | none => "Renderer"

/-- The description of a renderer. -/
def describe (flavour : Option Flavour) (url : String) : String :=
  let family := familyName flavour
  s!"{family}(base_url='{url}')"

/-- The answer of a renderer to a call. A name that is missing is written out. -/
def answer (r : Renderer) : Call → String
  | .name => r.flavour.name
  | .baseUrl => r.baseUrl
  | .description => describe (some r.flavour) r.baseUrl
  | .property p => r.property (labelOf p)
  | .scope t => r.scope (labelOf t)
  | .fragment shape content p t propertyFirst => r.render shape content p t propertyFirst
  | .standard shape content p t propertyFirst => standard.render shape content p t propertyFirst

/-- A renderer without a flavour was asked for an attribute. -/
inductive NoFlavour where
  | noFlavour
  deriving DecidableEq, Repr

/-- The call asks for an attribute. -/
def Call.needsFlavour : Call → Bool
  | .property _ | .scope _ => true
  | .fragment _ _ p t _ => (Text.given p).isSome || (Text.given t).isSome
  | _ => false

/-- The answer of a renderer without a flavour: it has no name, and no attributes. -/
def plainAnswer (url : String) (c : Call) : Except NoFlavour String :=
  if c.needsFlavour then .error .noFlavour
  else
    .ok <|
      match c with
      | .name => ""
      | .description => describe none url
      | c => answer ⟨.microdata, url⟩ c

end SchemaMarkup.Renderer
