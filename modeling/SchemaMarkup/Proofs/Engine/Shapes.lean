import SchemaMarkup.Proofs.Engine.Automatic
import SchemaMarkup.Proofs.Renderer.Attributes

set_option autoImplicit false

/-!
# Automatic and forced shapes

An automatic display takes the shape that the kind of the pending property calls for, and writes what
a display forced into that shape writes from the same state: attributes where there is no content, a
span for plain text, an empty element for a machine-readable value, with the content for readers
behind it. Only a nested property and a property inside a fallback make fragments of their own.

## Main definitions

* `SchemaMarkup.Engine.Named` — everything pending has a name.
* `SchemaMarkup.Engine.Displays` — what a display in a shape writes.
* `SchemaMarkup.Engine.AgreesWith` — an automatic display begins like a display in a shape.

## Main results

* `SchemaMarkup.Engine.Named.run` — everything pending has a name in every session.
* `SchemaMarkup.Engine.displays_of_property`, `SchemaMarkup.Engine.displays_of_fallback` — displays
  with a pending property and with a fallback.
* `SchemaMarkup.Engine.automatic_agrees` — automatic displays, kind by kind.
-/

namespace SchemaMarkup

namespace Engine

variable {e : Engine} {p q t c : String} {inner : Option String} {shape : Shape}
  {emptyOutput : Bool}

/-! ## Pending names -/

/-- The pending properties are not empty, and the fallback type is a type of the vocabulary. This
holds also where a fallback was set whose property could not be judged. -/
structure Named (e : Engine) : Prop where
  property : ∀ p ∈ e.request.property, p ≠ ""
  fallbackType : ∀ t ∈ e.request.fallbackType, e.vocabulary.has t = true
  fallbackProperty : ∀ q ∈ e.request.fallbackProperty, q ≠ ""

/-- Nothing is pending in a blank request. -/
lemma named_of_blank (h : e.request = .blank) : e.Named := by
  refine ⟨?_, ?_, ?_⟩ <;> simp [h, Request.blank]

/-- A property that a type has is not empty. -/
lemma ne_empty_of_mem_filter {v : Vocabulary} {o : Option String}
    (h : p ∈ o.filter (v.hasProperty t ·)) : p ≠ "" :=
  Vocabulary.ne_empty_of_hasProperty (Option.filter_eq_some_iff.1 h).2

/-- A command keeps everything pending named. -/
lemma Named.next (h : e.Named) (c : Command) : (e.next c).Named := by
  cases c with
  | setType t => exact ⟨h.property, h.fallbackType, h.fallbackProperty⟩
  | requestProperty p =>
    simp only [Engine.next]
    split
    · exact h
    · exact ⟨fun p' hp' => ne_empty_of_mem_filter hp', h.fallbackType, h.fallbackProperty⟩
  | setContent content machine => exact ⟨h.property, h.fallbackType, h.fallbackProperty⟩
  | setFallback t p =>
    have hresolved : ∀ t' ∈ some (e.vocabulary.resolve t), e.vocabulary.has t' = true := by
      rintro t' ⟨rfl⟩
      exact e.vocabulary.has_resolve t
    simp only [Engine.next]
    split
    · exact ⟨h.property, hresolved, h.fallbackProperty⟩
    · exact ⟨h.property, hresolved, fun q hq => ne_empty_of_mem_filter hq⟩
  | enable flag => exact ⟨h.property, h.fallbackType, h.fallbackProperty⟩
  | display shape emptyOutput => exact named_of_blank rfl
  | _ => exact h

/-- **Everything pending has a name** in every session. -/
theorem Named.run (h : e.Named) (cs : List Command) : (e.run cs).Named := by
  induction cs generalizing e with
  | nil => exact h
  | cons c cs ih => exact ih (h.next c)

/-! ## Displays -/

/-- A display in the shape has the answer `s`, and clears the request. -/
def Displays (e : Engine) (emptyOutput : Bool) (shape : Shape) (s : String) : Prop :=
  e.perform (.display shape emptyOutput) =
    (.ok (.text (some s)), { e with request := .blank })

/-- From the same state, an automatic display writes what a display in the shape writes, with `rest`
behind it. -/
def AgreesWith (e : Engine) (emptyOutput : Bool) (shape : Shape) (rest : String) : Prop :=
  ∃ s, e.Displays emptyOutput shape s ∧ e.Displays emptyOutput .automatic (s ++ rest)

/-- A display with nothing in its way writes the fragment of the request. -/
lemma displays_rendered (h : e.displayObstacle? shape = none) (emptyOutput : Bool) :
    e.Displays emptyOutput shape (e.rendered shape emptyOutput) := by
  rw [Displays, perform, obstacle?, h]
  rfl

/-- **A display with a pending property** writes the property in the shape. -/
theorem displays_of_property (henabled : e.enabled = true) (hp : p ∈ e.request.property)
    (hne : p ≠ "") (ho : e.propertyDisplayObstacle? shape p = none) (emptyOutput : Bool) :
    e.Displays emptyOutput shape (e.renderProperty shape p) := by
  have hgiven : Text.given e.request.property = some p := by
    rw [Option.mem_def.1 hp, Text.given_some hne]
  have hobstacle : e.displayObstacle? shape = none := by
    simp only [displayObstacle?, henabled, hgiven, ho]
  have hdisplay := displays_rendered hobstacle emptyOutput
  simpa only [rendered, henabled, if_true, hgiven] using hdisplay

/-- **A display with a fallback** and no pending property writes the fallback in the shape. -/
theorem displays_of_fallback (henabled : e.enabled = true) (hp : e.request.property = none)
    (ht : t ∈ e.request.fallbackType) (hne : t ≠ "")
    (ho : e.fallbackDisplayObstacle? shape t = none) (emptyOutput : Bool) :
    e.Displays emptyOutput shape (e.renderFallback shape t) := by
  have hgiven : Text.given e.request.fallbackType = some t := by
    rw [Option.mem_def.1 ht, Text.given_some hne]
  have hnone : Text.given e.request.property = none := by rw [hp]; rfl
  have hobstacle : e.displayObstacle? shape = none := by
    simp only [displayObstacle?, henabled, hnone, hgiven, ho]
  have hdisplay := displays_rendered hobstacle emptyOutput
  simpa only [rendered, henabled, if_true, hnone, hgiven] using hdisplay

/-- A display with nothing but content passes it on, whatever the shape. -/
lemma displays_of_content (hp : e.request.property = none) (ht : e.request.fallbackType = none)
    (shape : Shape) (emptyOutput : Bool) :
    e.Displays emptyOutput shape (e.passContent emptyOutput) := by
  have hnone : Text.given none = none := rfl
  have hobstacle : e.displayObstacle? shape = none := by
    cases henabled : e.enabled <;> simp only [displayObstacle?, henabled, hp, ht, hnone]
  have hdisplay := displays_rendered hobstacle emptyOutput
  simpa only [rendered, hp, ht, hnone, ite_self] using hdisplay

/-- A forced shape asks nothing of the vocabulary, and where nothing is in the way of an automatic
display of a property either, the two agree as their fragments do. -/
lemma agreesWith_of_property {rest : String} (henabled : e.enabled = true)
    (hp : p ∈ e.request.property) (hne : p ≠ "") (hshape : shape ≠ .automatic)
    (ho : e.propertyDisplayObstacle? .automatic p = none)
    (heq : e.renderByKind p = e.renderProperty shape p ++ rest) :
    e.AgreesWith emptyOutput shape rest := by
  have hforced : e.propertyDisplayObstacle? shape p = none := by
    cases shape with
    | automatic => exact absurd rfl hshape
    | _ => rfl
  have hautomatic := displays_of_property henabled hp hne ho emptyOutput
  exact ⟨_, displays_of_property henabled hp hne hforced emptyOutput, heq ▸ hautomatic⟩

/-- The same for the fallback. -/
lemma agreesWith_of_fallback (henabled : e.enabled = true) (hp : e.request.property = none)
    (ht : t ∈ e.request.fallbackType) (hne : t ≠ "") (hshape : shape ≠ .automatic)
    (ho : e.fallbackDisplayObstacle? .automatic t = none)
    (heq : e.renderItem t = e.renderFallback shape t) :
    e.AgreesWith emptyOutput shape "" := by
  have hforced : e.fallbackDisplayObstacle? shape t = none := by
    cases shape with
    | automatic => exact absurd rfl hshape
    | _ => rfl
  have hautomatic := displays_of_fallback henabled hp ht hne ho emptyOutput
  refine ⟨_, displays_of_fallback henabled hp ht hne hforced emptyOutput, ?_⟩
  rw [String.append_empty]
  exact heq ▸ hautomatic

/-! ## Pending properties, kind by kind -/

/-- Nothing is in the way of an automatic display of a property that is not nested. -/
lemma propertyDisplayObstacle?_eq_none {k : PropertyKind}
    (hkind : e.vocabulary.HasKind e.current p k) (hk : k ≠ .nested) :
    e.propertyDisplayObstacle? .automatic p = none := by
  obtain ⟨hknown, rfl⟩ := hkind
  simp only [propertyDisplayObstacle?, hknown, itemObstacle?]

/-- **Without content**, a property that is not nested is written as bare attributes. -/
lemma agreesWith_bare {k : PropertyKind} (henabled : e.enabled = true)
    (hp : p ∈ e.request.property) (hne : p ≠ "") (hkind : e.vocabulary.HasKind e.current p k)
    (hk : k ≠ .nested) (hcontent : e.request.content = none) :
    e.AgreesWith emptyOutput .bare "" := by
  apply agreesWith_of_property henabled hp hne (by simp)
    (propertyDisplayObstacle?_eq_none hkind hk)
  have hbare : e.renderProperty .bare p = e.renderer.property p :=
    e.renderer.attributes_property hne false
  obtain ⟨-, rfl⟩ := hkind
  rw [renderByKind, hcontent, hbare, String.append_empty]
  cases hkind : e.vocabulary.kind e.current p with
  | nested => exact absurd hkind hk
  | machine | plain => rfl

/-- **Plain text** is written in a span. -/
lemma agreesWith_span (henabled : e.enabled = true) (hp : p ∈ e.request.property)
    (hne : p ≠ "") (hkind : e.vocabulary.HasKind e.current p .plain)
    (hcontent : c ∈ e.request.content) : e.AgreesWith emptyOutput .span "" := by
  apply agreesWith_of_property henabled hp hne (by simp)
    (propertyDisplayObstacle?_eq_none hkind (by simp))
  have hspan : e.renderProperty .span p = e.renderer.span (some c) (some p) none false := by
    rw [← Option.mem_def.1 hcontent]
    rfl
  rw [renderByKind, hkind.2, Option.mem_def.1 hcontent, hspan, String.append_empty]

/-- **A machine-readable value** is written in an empty element, and the content for readers stands
behind it. -/
lemma agreesWith_metaTag (henabled : e.enabled = true) (hp : p ∈ e.request.property)
    (hne : p ≠ "") (hkind : e.vocabulary.HasKind e.current p .machine)
    (hcontent : c ∈ e.request.content) : e.AgreesWith emptyOutput .metaTag c := by
  apply agreesWith_of_property henabled hp hne (by simp)
    (propertyDisplayObstacle?_eq_none hkind (by simp))
  rw [renderByKind, hkind.2, Option.mem_def.1 hcontent, renderProperty]

/-! ## Nested properties -/

/-- A span that carries attributes. -/
lemma span_eq (r : Renderer) {property scope : Option String} {propertyFirst : Bool}
    {attrs : String} (h : r.attributes property scope propertyFirst = attrs) (hne : attrs ≠ "")
    (c : String) :
    r.span (some c) property scope propertyFirst = "<span " ++ attrs ++ ">" ++ c ++ "</span>" := by
  subst h
  rw [← String.toList_inj]
  simp [Renderer.span, Renderer.element, hne, toString]

/-- What stands beside an item and around content is a property with a name. -/
lemma given_of_named (hinner : ∀ q ∈ inner, q ≠ "") : Text.given inner = inner := by
  cases inner with
  | none => rfl
  | some q => exact Text.given_some (hinner q rfl)

/-- **What a nested property shows**: the property with the item behind it, and the property of the
item, if there is one, beside it or around the content. -/
lemma renderNested_eq (hitem : e.nestedItem p = (.text t, inner)) (hp : p ≠ "") (ht : t ≠ "")
    (hinner : ∀ q ∈ inner, q ≠ "") :
    e.renderNested p =
      match e.request.content with
      | none => e.renderer.property p ++ " " ++ e.renderer.scope t ++ beside e.renderer inner
      | some c => "<span " ++ (e.renderer.property p ++ " " ++ e.renderer.scope t) ++ ">" ++
          within e.renderer c inner ++ "</span>" := by
  rw [renderNested, hitem]
  simp only [given_of_named hinner, Value.label_text, span_of_isBlank]
  cases e.request.content with
  | none => cases inner <;> rfl
  | some c =>
    have hattributes := e.renderer.attributes_both hp ht true
    rw [if_pos rfl] at hattributes
    have hne : e.renderer.property p ++ " " ++ e.renderer.scope t ≠ "" :=
      fun h => e.renderer.scope_ne_empty t (String.append_eq_empty_iff.1 h).2
    simp only [span_eq e.renderer hattributes hne]
    cases inner <;> rfl

/-- The item of a nested property is written where it can be said what the property expects. -/
lemma propertyDisplayObstacle?_of_nested (hitem : e.nestedItem p = (.text t, inner))
    (hkind : e.vocabulary.HasKind e.current p .nested) :
    e.propertyDisplayObstacle? .automatic p = none := by
  simp only [propertyDisplayObstacle?, hkind.1, itemObstacle?, hkind.2, hitem]
  rfl

/-! ## Fallbacks -/

/-- **Without content** a fallback is written as bare attributes. -/
lemma agreesWith_bare_of_fallback (h : e.Named) (henabled : e.enabled = true)
    (hp : e.request.property = none) (ht : t ∈ e.request.fallbackType) (hne : t ≠ "")
    (hcontent : e.request.content = none) : e.AgreesWith emptyOutput .bare "" := by
  apply agreesWith_of_fallback henabled hp ht hne (by simp)
  · simp only [fallbackDisplayObstacle?, hcontent]
  · have hbare : e.renderFallback .bare t =
        e.renderer.attributes e.request.fallbackProperty (some t) false := rfl
    rw [renderItem, hbare, given_of_named h.fallbackProperty, hcontent]
    cases hq : e.request.fallbackProperty with
    | none => exact (e.renderer.attributes_scope hne false).symm
    | some q =>
      have hboth := e.renderer.attributes_both (h.fallbackProperty q hq) hne false
      rw [hboth]
      rfl

/-- **Without a property** the content of a fallback is written in a span. -/
lemma agreesWith_span_of_fallback (henabled : e.enabled = true)
    (hp : e.request.property = none) (ht : t ∈ e.request.fallbackType) (hne : t ≠ "")
    (hcontent : c ∈ e.request.content) (hq : e.request.fallbackProperty = none) :
    e.AgreesWith emptyOutput .span "" := by
  have hcontent := Option.mem_def.1 hcontent
  have hnone : Text.given none = none := rfl
  apply agreesWith_of_fallback henabled hp ht hne (by simp)
  · simp only [fallbackDisplayObstacle?, hcontent, hq, hnone]
  · have hspan : e.renderFallback .span t =
        e.renderer.span e.request.content e.request.fallbackProperty (some t) false := rfl
    rw [renderItem, hspan, hq, hnone, hcontent]

/-- A fallback with a property of a known kind can be displayed. -/
lemma fallbackDisplayObstacle?_eq_none (hq : q ∈ e.request.fallbackProperty) (hne : q ≠ "")
    {k : PropertyKind} (hkind : e.vocabulary.HasKind t q k) :
    e.fallbackDisplayObstacle? .automatic t = none := by
  have hgiven : Text.given e.request.fallbackProperty = some q := by
    rw [Option.mem_def.1 hq, Text.given_some hne]
  unfold fallbackDisplayObstacle?
  split
  · rename_i hsome
    obtain rfl : q = _ := Option.some.inj (hgiven.symm.trans hsome)
    exact hkind.1
  · rfl

/-- **A machine-readable value** inside a fallback is written in an empty element. -/
lemma agreesWith_metaTag_of_fallback (henabled : e.enabled = true)
    (hp : e.request.property = none) (ht : t ∈ e.request.fallbackType) (hne : t ≠ "")
    (hcontent : c ∈ e.request.content) (hq : q ∈ e.request.fallbackProperty) (hqne : q ≠ "")
    (hkind : e.vocabulary.HasKind t q .machine) : e.AgreesWith emptyOutput .metaTag "" := by
  apply agreesWith_of_fallback henabled hp ht hne (by simp)
    (fallbackDisplayObstacle?_eq_none hq hqne hkind)
  rw [renderItem, renderFallback, Option.mem_def.1 hq, Text.given_some hqne,
    Option.mem_def.1 hcontent]
  simp only [hkind.2]

/-- **Any other property** inside a fallback is written in a span of its own, inside that of the
item. -/
lemma displays_within_of_fallback (henabled : e.enabled = true)
    (hp : e.request.property = none) (ht : t ∈ e.request.fallbackType) (hne : t ≠ "")
    (hcontent : c ∈ e.request.content) (hq : q ∈ e.request.fallbackProperty) (hqne : q ≠ "")
    {k : PropertyKind} (hkind : e.vocabulary.HasKind t q k) (hk : k ≠ .machine) :
    e.Displays emptyOutput .automatic
      ("<span " ++ e.renderer.scope t ++ ">" ++ within e.renderer c (some q) ++ "</span>") := by
  have hspan := span_eq e.renderer (e.renderer.attributes_scope hne false)
    (e.renderer.scope_ne_empty t) (within e.renderer c (some q))
  have hitem : e.renderItem t =
      e.renderer.span (some (within e.renderer c (some q))) none (some t) false := by
    rw [renderItem, Option.mem_def.1 hq, Text.given_some hqne, Option.mem_def.1 hcontent]
    obtain ⟨-, rfl⟩ := hkind
    simp only
    cases hkind : e.vocabulary.kind t q with
    | machine => exact absurd hkind hk
    | nested | plain => rfl
  have hdisplay := displays_of_fallback henabled hp ht hne
    (fallbackDisplayObstacle?_eq_none hq hqne hkind) emptyOutput
  rw [renderFallback, hitem, hspan] at hdisplay
  exact hdisplay

/-! ## After every session -/

/-- **An automatic display agrees with the shape that the kind calls for**, in every state of a session
with an engine that writes markup. Plain text without content is written as bare attributes and with
content in a span. A machine-readable value without content is written as bare attributes and with
content in an empty element, with the content for readers behind it. A nested property is written
with an item of the fallback type if it expects that type, and with the fallback property inside;
otherwise with an item of the first type that it expects, and no property inside. Where no property
is pending, a fallback is written as bare attributes without content, in a span without a property,
in an empty element with a machine-readable one, and in two spans with any other. With nothing pending
all shapes pass the content on.

**Proof sketch.** A forced shape asks nothing of the vocabulary and always has an answer, an automatic
one has an answer where the kind can be told (`displays_of_property`, `displays_of_fallback`). What is
left is an equation between the two fragments for each kind, with and without content. -/
theorem automatic_agrees {v : Vocabulary} (hexpects : v.ExpectsNames) (hnames : v.NamesGiven)
    (r : Renderer) (flag : Bool) (cs : List Command)
    (henabled : ((new r v flag).run cs).enabled = true) (emptyOutput : Bool) :
    let e := (new r v flag).run cs
    (∀ p ∈ e.request.property,
      (v.HasKind e.current p .plain →
        (e.request.content = none → e.AgreesWith emptyOutput .bare "") ∧
          ∀ c ∈ e.request.content, e.AgreesWith emptyOutput .span "") ∧
      (v.HasKind e.current p .machine →
        (e.request.content = none → e.AgreesWith emptyOutput .bare "") ∧
          ∀ c ∈ e.request.content, e.AgreesWith emptyOutput .metaTag c) ∧
      (v.HasKind e.current p .nested → ∃ t inner, e.ItemOf p t inner ∧
        (e.request.content = none →
          e.AgreesWith emptyOutput .bare (" " ++ r.scope t ++ beside r inner)) ∧
        ∀ c ∈ e.request.content, e.Displays emptyOutput .automatic
          ("<span " ++ (r.property p ++ " " ++ r.scope t) ++ ">" ++ within r c inner ++
            "</span>"))) ∧
    (e.request.property = none →
      (∀ t ∈ e.request.fallbackType,
        (e.request.content = none → e.AgreesWith emptyOutput .bare "") ∧
        ∀ c ∈ e.request.content,
          (e.request.fallbackProperty = none → e.AgreesWith emptyOutput .span "") ∧
          ∀ q ∈ e.request.fallbackProperty,
            (v.HasKind t q .machine → e.AgreesWith emptyOutput .metaTag "") ∧
            ∀ k, k ≠ .machine → v.HasKind t q k → e.Displays emptyOutput .automatic
              ("<span " ++ r.scope t ++ ">" ++ within r c (some q) ++ "</span>")) ∧
      (e.request.fallbackType = none → ∀ shape,
        e.Displays emptyOutput shape (e.passContent emptyOutput))) := by
  intro e
  have hv : e.vocabulary = v := run_vocabulary _ cs
  have hr : e.renderer = r := run_renderer _ cs
  have hnamed : e.Named := (named_of_blank rfl).run cs
  rw [← hv, ← hr]
  rw [← hv] at hexpects hnames
  refine ⟨fun p hp => ?_, fun hp => ⟨fun t ht => ?_, fun ht shape =>
    displays_of_content hp ht shape emptyOutput⟩⟩
  · have hne := hnamed.property p hp
    refine ⟨fun hkind => ?_, fun hkind => ?_, fun hkind => ?_⟩
    · exact ⟨agreesWith_bare henabled hp hne hkind (by simp),
        fun c => agreesWith_span henabled hp hne hkind⟩
    · exact ⟨agreesWith_bare henabled hp hne hkind (by simp),
        fun c => agreesWith_metaTag henabled hp hne hkind⟩
    · obtain ⟨t, inner, hitem, heq⟩ :=
        exists_itemOf hexpects (Vocabulary.expectedTypes_ne_nil_of_nested hkind.2)
      have htne := hnames.ne_empty_of_mem_expectedTypes hitem.mem_expectedTypes
      have hinner : ∀ q ∈ inner, q ≠ "" := by
        cases hitem with
        | first => simp
        | fallback => exact hnamed.fallbackProperty
      have hnested := renderNested_eq heq hne htne hinner
      have hbykind : e.renderByKind p = e.renderNested p := by rw [renderByKind, hkind.2]
      have hobstacle := propertyDisplayObstacle?_of_nested heq hkind
      refine ⟨t, inner, hitem, fun hcontent => ?_, fun c hcontent => ?_⟩
      · apply agreesWith_of_property henabled hp hne (by simp) hobstacle
        have hbare : e.renderProperty .bare p = e.renderer.property p :=
          e.renderer.attributes_property hne false
        rw [hbykind, hnested, hcontent, hbare]
        simp only [String.append_assoc]
      · have hdisplay := displays_of_property henabled hp hne hobstacle emptyOutput
        rw [renderProperty, hbykind, hnested, Option.mem_def.1 hcontent] at hdisplay
        exact hdisplay
  · have hne := hnames.ne_empty_of_has (hnamed.fallbackType t ht)
    refine ⟨agreesWith_bare_of_fallback hnamed henabled hp ht hne, fun c hcontent =>
      ⟨agreesWith_span_of_fallback henabled hp ht hne hcontent, fun q hq => ?_⟩⟩
    have hqne := hnamed.fallbackProperty q hq
    exact ⟨agreesWith_metaTag_of_fallback henabled hp ht hne hcontent hq hqne,
      fun k hk hkind => displays_within_of_fallback henabled hp ht hne hcontent hq hqne hkind hk⟩

/-- An author who is a person, with a name: the item stands in a span, and the name in another one. -/
theorem automatic_agrees_bundled :
    let v := Vocabulary.bundled
    let r : Renderer := ⟨.microdata, "https://schema.org"⟩
    let e := (new r v true).run [.setType (some "Article"), .requestProperty (some "author"),
      .setFallback (some "Person") (some "name"), .setContent (some "Ada") none]
    v.ExpectsNames ∧ v.NamesGiven ∧ e.enabled = true ∧ v.HasKind e.current "author" .nested ∧
      (∃ t inner, e.ItemOf "author" t inner ∧ e.Displays false .automatic
        ("<span " ++ (r.property "author" ++ " " ++ r.scope t) ++ ">" ++ within r "Ada" inner ++
          "</span>")) ∧
      e.rendered .automatic false = "<span itemprop='author' itemscope " ++
        "itemtype='https://schema.org/Person'><span itemprop='name'>Ada</span></span>" := by
  intro v r e
  have hexpects : v.ExpectsNames := by decide +kernel
  have hnames : v.NamesGiven := by decide +kernel
  have henabled : e.enabled = true := by decide +kernel
  have hkind : v.HasKind e.current "author" .nested := by decide +kernel
  obtain ⟨hproperty, -⟩ := automatic_agrees hexpects hnames r true
    [.setType (some "Article"), .requestProperty (some "author"),
      .setFallback (some "Person") (some "name"), .setContent (some "Ada") none] henabled false
  obtain ⟨-, -, hnested⟩ := hproperty "author" (by decide +kernel)
  obtain ⟨t, inner, hitem, -, hdisplay⟩ := hnested hkind
  exact ⟨hexpects, hnames, henabled, hkind, ⟨t, inner, hitem, hdisplay "Ada" (by decide +kernel)⟩,
    by decide +kernel⟩

end Engine

end SchemaMarkup
