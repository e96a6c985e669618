import SchemaMarkup.Proofs.Engine.Session
import SchemaMarkup.Vocabulary.Bundled

set_option autoImplicit false

/-!
# Automatic displays

What a display writes when the kind of the property decides its shape. It writes content, a property,
a property with an item of a type that it expects, or an item of the fallback type. A second property
stands inside an item only if the type of the item has it: the fallback property comes with the
fallback type, and every command keeps the two together.

## Main definitions

* `SchemaMarkup.Engine.Shows` — what an automatic display writes, shape by shape.
* `SchemaMarkup.Vocabulary.strayRoot` — a vocabulary whose root has a list as its parent.

## Main results

* `SchemaMarkup.Engine.rendered_shows` — what an automatic display writes.
* `SchemaMarkup.Engine.session_invariants` — what holds after every session.
-/

namespace SchemaMarkup

namespace Engine

variable {e : Engine} {p t : String}

/-! ## What an automatic display writes -/

/-- The attribute of a property that stands beside the attributes of an item. -/
def beside (r : Renderer) : Option String → String
  | some q => " " ++ r.property q
  | none => ""

/-- Content that is the value of a property, if one is given. -/
def within (r : Renderer) (content : String) : Option String → String
  | some q => r.span (some content) (some q) none false
  | none => content

/-- What an automatic display writes: the content as it is, if there is nothing to say of it; the
pending property, alone or with the content as its value; the pending property with the item that is
its value, around the content; or, if no property is pending, an item of the fallback type, around
the content. The request holds all that stands there, and a property that stands in an item is one
that the type of the item has. -/
inductive Shows (e : Engine) : String → Prop where
  | content (emptyOutput : Bool)
      (hplain : e.enabled = true →
        Text.given e.request.property = none ∧ Text.given e.request.fallbackType = none) :
      Shows e (e.passContent emptyOutput)
  | property {p : String} (hp : p ∈ e.request.property) (hnone : e.request.content = none)
      (hkind : e.vocabulary.kind e.current p ≠ .nested) :
      Shows e (e.renderer.property p)
  | propertySpan {p content : String} (hp : p ∈ e.request.property)
      (hcontent : content ∈ e.request.content) (hkind : e.vocabulary.kind e.current p = .plain) :
      Shows e (e.renderer.span (some content) (some p) none false)
  | propertyValue {p content : String} (hp : p ∈ e.request.property)
      (hcontent : content ∈ e.request.content) (hkind : e.vocabulary.kind e.current p = .machine) :
      Shows e (e.renderer.metaTag e.request.value (some p) none false ++ content)
  | nested {p t : String} {inner : Option String} (hp : p ∈ e.request.property)
      (hnone : e.request.content = none) (hkind : e.vocabulary.kind e.current p = .nested)
      (hitem : e.ItemOf p t inner) (hinner : ∀ q ∈ inner, e.vocabulary.hasProperty t q = true) :
      Shows e (e.renderer.property p ++ " " ++ e.renderer.scope t ++ beside e.renderer inner)
  | nestedSpan {p t content : String} {inner : Option String} (hp : p ∈ e.request.property)
      (hcontent : content ∈ e.request.content) (hkind : e.vocabulary.kind e.current p = .nested)
      (hitem : e.ItemOf p t inner) (hinner : ∀ q ∈ inner, e.vocabulary.hasProperty t q = true) :
      Shows e (e.renderer.span (some (within e.renderer content inner)) (some p) (some t) true)
  | item {t : String} (hnoProperty : Text.given e.request.property = none)
      (ht : t ∈ e.request.fallbackType) (hnone : e.request.content = none)
      (hhas : e.vocabulary.has t = true)
      (hinner : ∀ q ∈ e.request.fallbackProperty, e.vocabulary.hasProperty t q = true) :
      Shows e (e.renderer.scope t ++ beside e.renderer e.request.fallbackProperty)
  | itemSpan {t content : String} (hnoProperty : Text.given e.request.property = none)
      (ht : t ∈ e.request.fallbackType) (hcontent : content ∈ e.request.content)
      (hhas : e.vocabulary.has t = true)
      (hinner : ∀ q ∈ e.request.fallbackProperty, e.vocabulary.hasProperty t q = true)
      (hkind : ∀ q ∈ e.request.fallbackProperty, e.vocabulary.kind t q ≠ .machine) :
      Shows e (e.renderer.span (some (within e.renderer content e.request.fallbackProperty)) none
        (some t) false)
  | itemValue {t q content : String} (hnoProperty : Text.given e.request.property = none)
      (ht : t ∈ e.request.fallbackType) (hcontent : content ∈ e.request.content)
      (hq : q ∈ e.request.fallbackProperty) (hhas : e.vocabulary.has t = true)
      (hinner : e.vocabulary.hasProperty t q = true) (hkind : e.vocabulary.kind t q = .machine) :
      Shows e (e.renderer.metaTag e.request.value (some q) (some t) false)

/-- A pending fallback type has the pending fallback property. -/
lemma Consistent.hasProperty (h : e.Consistent) (ht : t ∈ e.request.fallbackType) :
    ∀ q ∈ e.request.fallbackProperty, e.vocabulary.hasProperty t q = true := by
  intro q hq
  obtain ⟨t', ht', hvalid⟩ := h.fallbackProperty q hq
  obtain rfl : t' = t := Option.mem_unique ht' ht
  exact hvalid

lemma given_of_hasProperty {v : Vocabulary} {inner : Option String}
    (h : ∀ q ∈ inner, v.hasProperty t q = true) : Text.given inner = inner := by
  cases inner with
  | none => rfl
  | some q => exact Text.given_some (Vocabulary.ne_empty_of_hasProperty (h q rfl))

/-- An empty type is left out of the attributes of a property like a missing one. -/
lemma span_of_isBlank (r : Renderer) (content p t : String) :
    r.span (some content) (some p) (if (Value.text t).isBlank then none else some t) true =
      r.span (some content) (some p) (some t) true := by
  split
  · rename_i hblank
    obtain rfl : t = "" := by simpa [Value.isBlank] using hblank
    rfl
  · rfl

/-- What a nested property shows. -/
lemma renderNested_shows (h : e.Consistent) (hexpects : e.vocabulary.ExpectsNames)
    (hp : p ∈ e.request.property) (hnested : e.vocabulary.kind e.current p = .nested) :
    e.Shows (e.renderNested p) := by
  obtain ⟨t, inner, hitem, hnestedItem⟩ :=
    exists_itemOf hexpects (Vocabulary.expectedTypes_ne_nil_of_nested hnested)
  have hinner : ∀ q ∈ inner, e.vocabulary.hasProperty t q = true := by
    cases hitem with
    | first => simp
    | fallback ht => exact h.hasProperty ht
  rw [renderNested, hnestedItem]
  simp only [given_of_hasProperty hinner, Value.label_text, span_of_isBlank]
  cases hcontent : e.request.content with
  | none =>
    have hshown := Shows.nested hp hcontent hnested hitem hinner
    cases inner <;> simpa only [beside] using hshown
  | some content =>
    have hshown := Shows.nestedSpan hp hcontent hnested hitem hinner
    cases inner <;> simpa only [within] using hshown

/-- What a pending property shows. -/
lemma renderByKind_shows (h : e.Consistent) (hexpects : e.vocabulary.ExpectsNames)
    (hp : p ∈ e.request.property) : e.Shows (e.renderByKind p) := by
  simp only [renderByKind]
  split
  · rename_i hnested
    exact renderNested_shows h hexpects hp hnested
  · rename_i hnone hkind
    exact .property hp hnone hkind
  · rename_i hkind hcontent
    exact .propertyValue hp hcontent hkind
  · rename_i hkind hcontent
    exact .propertySpan hp hcontent hkind

/-- What a fallback shows. -/
lemma renderItem_shows (h : e.Consistent) (hnoProperty : Text.given e.request.property = none)
    (ht : t ∈ e.request.fallbackType) : e.Shows (e.renderItem t) := by
  have hhas := h.fallbackType t ht
  have hinner := h.hasProperty ht
  simp only [renderItem, given_of_hasProperty hinner]
  cases hcontent : e.request.content with
  | none =>
    have hshown := Shows.item hnoProperty ht hcontent hhas hinner
    cases hq : e.request.fallbackProperty with
    | none => simpa [hq, beside] using hshown
    | some q => simpa [hq, beside, String.append_assoc] using hshown
  | some content =>
    have hspan := Shows.itemSpan hnoProperty ht hcontent hhas hinner
    cases hq : e.request.fallbackProperty with
    | none =>
      have hshown := hspan (by simp [hq])
      simpa only [hq, within] using hshown
    | some q =>
      simp only
      split
      · rename_i hkind
        exact .itemValue hnoProperty ht hcontent hq hhas (hinner q hq) hkind
      · rename_i hkind
        have hshown := hspan fun q' hq' => Option.mem_unique hq hq' ▸ hkind
        simpa only [hq, within] using hshown

/-- **What an automatic display writes.** A property that stands in an item is one that the type of
the item has. -/
theorem rendered_shows (h : e.Consistent) (hexpects : e.vocabulary.ExpectsNames)
    (emptyOutput : Bool) : e.Shows (e.rendered .automatic emptyOutput) := by
  have hmem : ∀ {o : Option String} {s : String}, Text.given o = some s → s ∈ o :=
    fun ho => (Option.filter_eq_some_iff.1 ho).1
  rw [rendered]
  split
  · split
    · rename_i hp
      exact renderByKind_shows h hexpects (hmem hp)
    · rename_i hproperty ht
      exact renderItem_shows h hproperty (hmem ht)
    · rename_i hproperty hfallback
      exact .content emptyOutput fun _ => ⟨hproperty, hfallback⟩
  · rename_i hdisabled
    exact .content emptyOutput fun henabled => absurd henabled hdisabled

/-! ## After every session -/

/-- **What holds after every session** with a new engine, if all properties list names and the root
has a parent that can be a type, or none. Every command has an answer, and a nested property expects
something. The current type and the fallback type are types of the vocabulary, and the fallback type
has the fallback property. A display clears the request. Only setting a type changes the current
type, and only turning markup on or off changes the flag. What an automatic display writes inside an
item is a property of the type of the item. -/
theorem session_invariants {v : Vocabulary}
    (hroot : ∀ d, (Key.text v.root, d) ∈ v.types → d.isAstray = false)
    (hexpects : v.ExpectsNames) (r : Renderer) (flag : Bool) (cs : List Command) :
    let e := (new r v flag).run cs
    (∀ c, e.perform c = (.ok (e.answer c), e.next c)) ∧
      (∀ p, v.kind e.current p = .nested → v.expectedTypes e.current p ≠ []) ∧
      v.has e.current = true ∧
      (∀ t ∈ e.request.fallbackType, v.has t = true) ∧
      (∀ q ∈ e.request.fallbackProperty,
        ∃ t ∈ e.request.fallbackType, v.hasProperty t q = true) ∧
      (∀ shape emptyOutput, (e.next (.display shape emptyOutput)).request = .blank) ∧
      (∀ c, (∀ t, c ≠ .setType t) → (e.next c).current = e.current) ∧
      (∀ c, (∀ b, c ≠ .enable b) → (e.next c).enabled = e.enabled) ∧
      ∀ emptyOutput, ∃ s, e.answer (.display .automatic emptyOutput) = .text (some s) ∧
        e.Shows s := by
  intro e
  have hparents := Vocabulary.parentsNamed_of_root hroot
  have hv : e.vocabulary = v := run_vocabulary _ cs
  have h : e.Consistent := (consistent_new r v flag).run hparents cs
  have hnone : ∀ c, e.obstacle? c = none :=
    obstacle?_eq_none (by rwa [hv]) (by rwa [hv])
  refine ⟨fun c => ?_, fun p => Vocabulary.expectedTypes_ne_nil_of_nested, hv ▸ h.current,
    hv ▸ h.fallbackType, hv ▸ h.fallbackProperty, fun shape emptyOutput => rfl, fun c hc => ?_,
    fun c hc => ?_, fun emptyOutput => ⟨_, rfl, ?_⟩⟩
  · rw [perform, hnone]
  · rw [next_current]
    split
    · exact absurd rfl (hc _)
    · rfl
  · rw [next_enabled]
    split
    · exact absurd rfl (hc _)
    · rfl
  · exact rendered_shows h (by rwa [hv]) emptyOutput

/-- An author who is a person: the fallback narrows the item, and its property stands inside, beside
the attributes of the item or around the content. -/
theorem session_invariants_bundled :
    let session := [.setType (some "Article"), .requestProperty (some "author"),
      .setFallback (some "Person") (some "name")]
    let e := (new ⟨.microdata, "https://schema.org"⟩ .bundled true).run session
    let e' := (new ⟨.microdata, "https://schema.org"⟩ .bundled true).run
      (session ++ [.setContent (some "Ann") none])
    (∀ d, (Key.text Vocabulary.bundled.root, d) ∈ Vocabulary.bundled.types →
        d.isAstray = false) ∧
      Vocabulary.bundled.ExpectsNames ∧
      e.rendered .automatic false =
        "itemprop='author' itemscope itemtype='https://schema.org/Person' itemprop='name'" ∧
      e'.rendered .automatic false =
        "<span itemprop='author' itemscope itemtype='https://schema.org/Person'>" ++
          "<span itemprop='name'>Ann</span></span>" ∧
      (∃ s, e.answer (.display .automatic false) = .text (some s) ∧ e.Shows s) ∧
      ∃ s, e'.answer (.display .automatic false) = .text (some s) ∧ e'.Shows s := by
  intro session e e'
  have hparents : Vocabulary.bundled.ParentsNamed := by decide +kernel
  have hroot : ∀ d, (Key.text Vocabulary.bundled.root, d) ∈ Vocabulary.bundled.types →
      d.isAstray = false := fun d hd => hparents _ hd
  have hexpects : Vocabulary.bundled.ExpectsNames := by decide +kernel
  have hshows : ∀ cs, _ := fun cs =>
    session_invariants hroot hexpects ⟨.microdata, "https://schema.org"⟩ true cs
  obtain ⟨-, -, -, -, -, -, -, -, hbeside⟩ := hshows session
  obtain ⟨-, -, -, -, -, -, -, -, haround⟩ := hshows (session ++ [.setContent (some "Ann") none])
  exact ⟨hroot, hexpects, by decide +kernel, by decide +kernel, hbeside false, haround false⟩

end Engine

/-- A vocabulary with nothing but its root. Its parent is a list, so that it can be no type. -/
def Vocabulary.strayRoot : Vocabulary where
  root := "Thing"
  types := [(.text "Thing", ⟨.text "Thing", .list [.text "x"],
    [(.text "name", ⟨.text "name", .list [.text "Text"]⟩)]⟩)]
  nodup_keys := by simp [Table.keys]
  root_mem := by simp [Table.keys]
  parent_mem := by simp

/-- Without a name for the parent of the root there are commands that have no answer, also where
every property lists names. -/
theorem Engine.exists_perform_eq_error :
    ¬∀ (v : Vocabulary) (r : Renderer) (flag : Bool) (cs : List Command) (c : Command),
      v.ExpectsNames → ∃ a, (((new r v flag).run cs).perform c).1 = .ok a := by
  intro h
  obtain ⟨a, ha⟩ := h .strayRoot ⟨.microdata, "https://schema.org"⟩ true []
    (.requestProperty (some "name")) (by decide)
  have hastray : ((new ⟨.microdata, "https://schema.org"⟩ .strayRoot true).obstacle?
      (.requestProperty (some "name"))) = some .astray := by decide +kernel
  rw [run_nil, perform, hastray] at ha
  simp at ha

end SchemaMarkup
