import SchemaMarkup.Text.Blank
import SchemaMarkup.Text.Lower

set_option autoImplicit false

/-!
# Renderers

A renderer writes fragments of markup in one flavour of structured data. The flavours differ in the
attributes that declare a property and an item of a type; the shapes of the fragments are shared.
Nothing is escaped: a renderer writes names and content as they are.

## Main definitions

* `SchemaMarkup.Flavour` — the flavours, and `SchemaMarkup.Flavour.ofName` to choose one by name.
* `SchemaMarkup.Shape` — the shapes of fragments.
* `SchemaMarkup.Renderer` — a flavour and the address that type names are relative to.
* `SchemaMarkup.Renderer.property`, `SchemaMarkup.Renderer.scope` — the attributes.
* `SchemaMarkup.Renderer.render` — a fragment of a given shape.
-/

namespace SchemaMarkup

/-- The flavours of structured data. -/
inductive Flavour where
  | microdata
  | rdfa
  deriving DecidableEq, Repr

/-- No flavour has the name that was asked for. -/
structure UnknownFlavour where
  name : Option String
  deriving DecidableEq, Repr

namespace Flavour

/-- The name of a flavour, in lower case. -/
def name : Flavour → String
  | microdata => "microdata"
  | rdfa => "rdfa"

/-- All flavours, in the order of their names. -/
def all : List Flavour := [microdata, rdfa]

/-- The flavour with the given name in any letter case. -/
def ofName (name : Option String) : Except UnknownFlavour Flavour :=
  match all.find? fun f => f.name == Text.lower (name.getD "") with
  | some f => .ok f
  | none => .error ⟨name⟩

end Flavour

/-- How a name is written that may be missing. -/
def labelOf (name : Option String) : String := name.getD "None"

/-- The fault in words, with the names that there are. -/
def UnknownFlavour.message (u : UnknownFlavour) : String :=
  let asked := labelOf u.name
  let known := ", ".intercalate (Flavour.all.map (·.name))
  s!"Unknown semantic '{asked}'. Available: {known}"

/-- The shape of a fragment: chosen by the kind of the property, bare attributes, content in a span
or a div, or an empty element that carries the content as a value. -/
inductive Shape where
  | automatic
  | bare
  | span
  | div
  | metaTag
  deriving DecidableEq, Repr

/-- A flavour and the address that type names are relative to, which has no slash at its end. -/
structure Renderer where
  flavour : Flavour
  baseUrl : String
  deriving DecidableEq, Repr

namespace Renderer

/-- An address without the slashes at its end. -/
def trimUrl (url : String) : String :=
  String.ofList (url.toList.reverse.dropWhile (· == '/')).reverse

/-- The renderer of a flavour. An address that is not given or empty is replaced by the standard
one. -/
def make (flavour : Flavour) (url : Option String) (standardUrl : String) : Renderer :=
  ⟨flavour, trimUrl ((Text.given url).getD standardUrl)⟩

variable (r : Renderer)

/-- The attribute that declares a property. -/
def property (p : String) : String :=
  match r.flavour with
  | .microdata => s!"itemprop='{p}'"
  | .rdfa => s!"property='{p}'"

/-- The attributes that declare an item of a type. -/
def scope (t : String) : String :=
  let url := r.baseUrl
  match r.flavour with
  | .microdata => s!"itemscope itemtype='{url}/{t}'"
  | .rdfa => s!"vocab='{url}' typeof='{t}'"

/-- The attributes of an item and a property, where those are given and not empty. The item comes
first unless the property is to. -/
def attributes (property scope : Option String) (propertyFirst : Bool) : String :=
  let items := ((Text.given scope).map r.scope).toList
  let properties := ((Text.given property).map r.property).toList
  " ".intercalate (if propertyFirst then properties ++ items else items ++ properties)

/-- An empty element that carries the content as a value after the attributes. -/
def metaTag (content property scope : Option String) (propertyFirst : Bool) : String :=
  let attrs := r.attributes property scope propertyFirst
  let sep := if attrs = "" then "" else " "
  let value := content.getD ""
  s!"<meta {attrs}{sep}content='{value}'/>"

/-- The content in an element that carries the attributes. -/
def element (tag : String) (content property scope : Option String) (propertyFirst : Bool) :
    String :=
  let attrs := r.attributes property scope propertyFirst
  let sep := if attrs = "" then "" else " "
  let inner := content.getD ""
  s!"<{tag}{sep}{attrs}>{inner}</{tag}>"

/-- The content in a span that carries the attributes. -/
def span (content property scope : Option String) (propertyFirst : Bool) : String :=
  r.element "span" content property scope propertyFirst

/-- The content in a div that carries the attributes. -/
def div (content property scope : Option String) (propertyFirst : Bool) : String :=
  r.element "div" content property scope propertyFirst

/-- A fragment of the given shape; the shape that is left open is that of bare attributes. -/
def render (shape : Shape) (content property scope : Option String) (propertyFirst : Bool) :
    String :=
  match shape with
  | .span => r.span content property scope propertyFirst
  | .div => r.div content property scope propertyFirst
  | .metaTag => r.metaTag content property scope propertyFirst
  | .automatic | .bare => r.attributes property scope propertyFirst

end Renderer

end SchemaMarkup
