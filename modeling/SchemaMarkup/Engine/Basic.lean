import SchemaMarkup.Directive.Plan
import SchemaMarkup.Renderer.Basic

set_option autoImplicit false

/-!
# The engine

The engine turns a request (a property, its content, and what to fall back on) into a fragment of
markup. It keeps a current type, which decides the properties that can be requested, and one pending
request, which every display clears. A disabled engine writes content without markup.

## Main definitions

* `SchemaMarkup.Request` — a pending request.
* `SchemaMarkup.Engine` — the engine.
* `SchemaMarkup.Engine.setType`, `SchemaMarkup.Engine.requestProperty`,
  `SchemaMarkup.Engine.setContent`, `SchemaMarkup.Engine.setFallback` — fill the request.
* `SchemaMarkup.Engine.rendered`, `SchemaMarkup.Engine.display` — the fragment of the request.
* `SchemaMarkup.Engine.scope` — the attributes of an item.
-/

namespace SchemaMarkup

/-- What is to be rendered next. -/
structure Request where
  /-- The property, if one is requested. -/
  property : Option String
  /-- The content for readers; with none, attributes alone are written. -/
  content : Option String
  /-- The content for machines, in place of the content for readers where a value is written. -/
  machineContent : Option String
  /-- The type of the item to write when no property is requested. -/
  fallbackType : Option String
  /-- The property of that item. -/
  fallbackProperty : Option String
  deriving DecidableEq, Repr

namespace Request

/-- The request for nothing. -/
def blank : Request := ⟨none, none, none, none, none⟩

/-- Nothing is requested. -/
def isBlank (q : Request) : Bool :=
  q.property.isNone && q.content.isNone && q.machineContent.isNone && q.fallbackType.isNone &&
    q.fallbackProperty.isNone

/-- The value that is written for machines. -/
def value (q : Request) : Option String := q.machineContent <|> q.content

end Request

/-- A renderer and a vocabulary with a current type and a pending request. -/
structure Engine where
  renderer : Renderer
  vocabulary : Vocabulary
  enabled : Bool
  current : String
  request : Request

namespace Engine

/-- A new engine has the root as its current type and nothing requested. -/
def new (renderer : Renderer) (vocabulary : Vocabulary) (enabled : Bool) : Engine :=
  ⟨renderer, vocabulary, enabled, vocabulary.root, .blank⟩

variable (e : Engine)

/-- Make a type current; an unknown one counts as the root. -/
def setType (t : Option String) : Engine := { e with current := e.vocabulary.resolve t }

/-- Request a property. One that the current type does not have is not requested. -/
def requestProperty (p : Option String) : Engine :=
  { e with
    request := { e.request with property := p.filter (e.vocabulary.hasProperty e.current ·) } }

/-- Set the content for readers and the content for machines. -/
def setContent (content machineContent : Option String) : Engine :=
  { e with request := { e.request with content, machineContent } }

/-- Set the item to write when no property is requested. An unknown type counts as the root, and a
property that the type does not have is dropped. -/
def setFallback (t p : Option String) : Engine :=
  let type := e.vocabulary.resolve t
  { e with
    request :=
      { e.request with
        fallbackType := some type
        fallbackProperty := p.filter (e.vocabulary.hasProperty type ·) } }

/-- Turn markup on or off. -/
def enable (flag : Bool) : Engine := { e with enabled := flag }

/-- The content as it is, or nothing. -/
def passContent (emptyOutput : Bool) : String :=
  if emptyOutput then "" else e.request.content.getD ""

/-! ## Fragments -/

/-- The type to fall back on as a value, null when there is none. -/
def fallbackValue : Value := (e.request.fallbackType.map Value.text).getD .null

/-- The item that a nested property holds: its type and the property it is the value of there. The
fallback type is taken if it is among the expected types, with the fallback property; otherwise the
first expected type, with no property. -/
def nestedItem (p : String) : Value × Option String :=
  let expected := e.vocabulary.expectedTypes e.current p
  if expected.any fun t => t.key?.isSome && t.key? == e.fallbackValue.key? then
    (e.fallbackValue, e.request.fallbackProperty)
  else (expected.headD .null, none)

/-- The fragment of a nested property: the property and the item it holds. -/
def renderNested (p : String) : String :=
  let r := e.renderer
  let (type, inner) := e.nestedItem p
  match e.request.content with
  | none =>
    let rest := match Text.given inner with
      | some q => " " ++ r.property q
      | none => ""
    r.property p ++ " " ++ r.scope type.label ++ rest
  | some content =>
    let body := match Text.given inner with
      | some q => r.span (some content) (some q) none false
      | none => content
    r.span (some body) (some p) (if type.isBlank then none else some type.label) true

/-- The fragment of a property in the shape that its kind calls for. -/
def renderByKind (p : String) : String :=
  let r := e.renderer
  match e.vocabulary.kind e.current p, e.request.content with
  | .nested, _ => e.renderNested p
  | _, none => r.property p
  | .machine, some content => r.metaTag e.request.value (some p) none false ++ content
  | .plain, some content => r.span (some content) (some p) none false

/-- The fragment of a requested property. -/
def renderProperty (shape : Shape) (p : String) : String :=
  match shape with
  | .automatic => e.renderByKind p
  | .metaTag => e.renderer.metaTag e.request.value (some p) none false
  | shape => e.renderer.render shape e.request.content (some p) none false

/-- The fragment of an item of the type `t` in the shape that its content calls for. -/
def renderItem (t : String) : String :=
  let r := e.renderer
  match Text.given e.request.fallbackProperty, e.request.content with
  | none, none => r.scope t
  | none, some content => r.span (some content) none (some t) false
  | some q, none => r.scope t ++ " " ++ r.property q
  | some q, some content =>
    match e.vocabulary.kind t q with
    | .machine => r.metaTag e.request.value (some q) (some t) false
    | _ => r.span (some (r.span (some content) (some q) none false)) none (some t) false

/-- The fragment of the fallback. -/
def renderFallback (shape : Shape) (t : String) : String :=
  match shape with
  | .automatic => e.renderItem t
  | .metaTag =>
    e.renderer.metaTag e.request.value e.request.fallbackProperty (some t) false
  | shape => e.renderer.render shape e.request.content e.request.fallbackProperty (some t) false

/-- The fragment of the request: of the property if one is requested, else of the fallback if there
is one, else the content as it is. -/
def rendered (shape : Shape) (emptyOutput : Bool) : String :=
  if e.enabled then
    match Text.given e.request.property, Text.given e.request.fallbackType with
    | some p, _ => e.renderProperty shape p
    | none, some t => e.renderFallback shape t
    | none, none => e.passContent emptyOutput
  else
    e.passContent emptyOutput

/-- Render the request and clear it. -/
def display (shape : Shape) (emptyOutput : Bool) : String × Engine :=
  (e.rendered shape emptyOutput, { e with request := .blank })

/-- The attributes of an item of a type, or of the current type when none is given. A disabled
engine writes none. -/
def scope (t : Option String) : String :=
  if e.enabled then
    e.renderer.scope
      (match Text.given t with
      | some t => e.vocabulary.resolve (some t)
      | none => e.current)
  else
    ""

/-- The description of an engine. -/
def describe : String :=
  let flavour := e.renderer.flavour.name
  let current := e.current
  let flag := if e.enabled then "True" else "False"
  s!"StructuredData(renderer={flavour}, type='{current}', enabled={flag})"

/-! ## What a display changes -/

@[simp] theorem display_fst (shape : Shape) (emptyOutput : Bool) :
    (e.display shape emptyOutput).1 = e.rendered shape emptyOutput := rfl

@[simp] theorem display_snd (shape : Shape) (emptyOutput : Bool) :
    (e.display shape emptyOutput).2 = { e with request := .blank } := rfl

end Engine

end SchemaMarkup
