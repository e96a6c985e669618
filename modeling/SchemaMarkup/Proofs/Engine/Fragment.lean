import SchemaMarkup.Engine.Directive
import SchemaMarkup.Proofs.Renderer.Attributes
import SchemaMarkup.Proofs.Vocabulary.Names

set_option autoImplicit false

/-!
# Fragments of directives

What the engine writes for a directive, and what it keeps. The renderer, the vocabulary and the flag
stay as they are; the current type becomes the type that the directive names, if it names one. What
is written consists of a property that the current type has and an item of a type of the vocabulary,
both or one of them or none: no other text of the directive comes through.

## Main definitions

* `SchemaMarkup.Engine.candidateText` — what is written for a candidate.
* `SchemaMarkup.Engine.Writes` — what an engine may write.
* `SchemaMarkup.Engine.NamesAvoid` — no name that it may write holds a certain character.
* `SchemaMarkup.Engine.StandsFor` — the attributes that a written text stands for.

## Main results

* `SchemaMarkup.Engine.planFragment_eq` — the fragment of a plan.
* `SchemaMarkup.Engine.fragment_snd` — what a directive changes.
* `SchemaMarkup.Engine.fragment_writes` — fragments are built from names of the vocabulary.
* `SchemaMarkup.Engine.StandsFor.marks` — they are attributes with nothing but names in their values.
* `SchemaMarkup.Engine.fragmentObstacle?_eq_none` — when every directive has a fragment.
-/

namespace SchemaMarkup

/-- A text that is given is given as it is. -/
lemma Text.given_some_of_given {o : Option String} {t : String} (h : given o = some t) :
    given (some t) = some t := by
  obtain ⟨-, ht⟩ := Option.filter_eq_some_iff.1 h
  exact given_some (by simpa using ht)

namespace Engine

variable {e : Engine} {plan : Plan} {d s : String}

/-! ## Spelling a fragment out -/

/-- What is written for a candidate: the property, followed by an item of the type expected of it if
one is named. -/
def candidateText (e : Engine) (c : String × Option String) : String :=
  match Text.given c.2 with
  | some t => e.renderer.property c.1 ++ " " ++ e.renderer.scope (e.vocabulary.resolve (some t))
  | none => e.renderer.property c.1

/-- A property that the current type has is written as bare attributes, whatever was requested
before. -/
lemma rendered_requestProperty {p : String} (h : e.vocabulary.hasProperty e.current p = true) :
    (e.requestProperty (some p)).rendered .bare true =
      if e.enabled then e.renderer.property p else "" := by
  have hp := Vocabulary.ne_empty_of_hasProperty h
  have hrequest : (e.requestProperty (some p)).request.property = some p := by
    simp [requestProperty, h]
  have hgiven := Text.given_some hp
  have henabled : (e.requestProperty (some p)).enabled = e.enabled := rfl
  rw [rendered, hrequest, hgiven, henabled]
  split
  · exact e.renderer.attributes_property hp false
  · rfl

/-- The fragment of a candidate that the current type has. -/
lemma candidateFragment_eq {c : String × Option String}
    (h : e.vocabulary.hasProperty e.current c.1 = true) :
    e.candidateFragment c =
      (if e.enabled then e.candidateText c else "", { e with request := .blank }) := by
  have hsnd : ((e.requestProperty (some c.1)).display .bare true).2 =
      { e with request := .blank } := rfl
  simp only [candidateFragment, display_fst, hsnd, rendered_requestProperty h]
  rw [candidateText]
  cases he : e.enabled with
  | false => cases Text.given c.2 <;> simp
  | true =>
    cases hc : Text.given c.2 with
    | none => simp
    | some t =>
      simp [Renderer.property_ne_empty, scope, Text.given_some_of_given hc]

/-- The fragment of a plan whose candidate can be told. -/
theorem planFragment_eq (h : (e.afterType plan).candidateObstacle? plan = none) :
    e.planFragment plan =
      match plan.candidate? (e.afterType plan).vocabulary (e.afterType plan).current with
      | some c =>
        (if (e.afterType plan).enabled then (e.afterType plan).candidateText c else "",
          { e.afterType plan with request := .blank })
      | none =>
        (if (Text.given plan.setType).isSome then (e.afterType plan).scope none else "",
          e.afterType plan) := by
  simp only [planFragment, h]
  cases hc : plan.candidate? (e.afterType plan).vocabulary (e.afterType plan).current with
  | some c => exact candidateFragment_eq (Plan.hasProperty_of_candidate? hc)
  | none => rfl

/-- A plan whose candidate cannot be told writes nothing. -/
lemma planFragment_of_obstacle {o : Vocabulary.Obstacle}
    (h : (e.afterType plan).candidateObstacle? plan = some o) :
    e.planFragment plan = ("", e.afterType plan) := by
  simp only [planFragment, h]

/-! ## What stays -/

/-- The type that a plan names becomes current, and nothing else changes. -/
lemma afterType_eq (e : Engine) (plan : Plan) :
    e.afterType plan =
      { e with
        current := ((Text.given plan.setType).map fun t =>
          e.vocabulary.resolve (some t)).getD e.current } := by
  rw [afterType]
  cases Text.given plan.setType with
  | none => rfl
  | some t => rfl

@[simp] lemma afterType_renderer (e : Engine) (plan : Plan) :
    (e.afterType plan).renderer = e.renderer := by
  rw [afterType_eq]

@[simp] lemma afterType_vocabulary (e : Engine) (plan : Plan) :
    (e.afterType plan).vocabulary = e.vocabulary := by
  rw [afterType_eq]

@[simp] lemma afterType_enabled (e : Engine) (plan : Plan) :
    (e.afterType plan).enabled = e.enabled := by
  rw [afterType_eq]

lemma afterType_current (e : Engine) (plan : Plan) :
    (e.afterType plan).current =
      ((Text.given plan.setType).map fun t => e.vocabulary.resolve (some t)).getD e.current := by
  rw [afterType_eq]

/-- The fragment of a plan changes nothing but the pending request once the type of the plan is
current. -/
lemma planFragment_snd (e : Engine) (plan : Plan) :
    ∃ q, (e.planFragment plan).2 = { e.afterType plan with request := q } := by
  cases h : (e.afterType plan).candidateObstacle? plan with
  | some o => exact ⟨(e.afterType plan).request, by rw [planFragment_of_obstacle h]⟩
  | none =>
    rw [planFragment_eq h]
    split
    · exact ⟨.blank, rfl⟩
    · exact ⟨(e.afterType plan).request, rfl⟩

/-- **A directive changes nothing but the current type and the pending request.** -/
theorem fragment_snd (e : Engine) (d : String) :
    ∃ q, (e.fragment d).2 =
      { e with
        current := (e.afterType (.ofDirective e.vocabulary d)).current
        request := q } := by
  obtain ⟨q, hq⟩ := e.planFragment_snd (.ofDirective e.vocabulary d)
  refine ⟨q, ?_⟩
  rw [fragment, hq, afterType_eq]

@[simp] lemma fragment_renderer (e : Engine) (d : String) :
    (e.fragment d).2.renderer = e.renderer := by
  obtain ⟨q, hq⟩ := e.fragment_snd d
  rw [hq]

@[simp] lemma fragment_vocabulary (e : Engine) (d : String) :
    (e.fragment d).2.vocabulary = e.vocabulary := by
  obtain ⟨q, hq⟩ := e.fragment_snd d
  rw [hq]

@[simp] lemma fragment_enabled (e : Engine) (d : String) :
    (e.fragment d).2.enabled = e.enabled := by
  obtain ⟨q, hq⟩ := e.fragment_snd d
  rw [hq]

/-- The current type after a directive is the one that its plan names. -/
lemma fragment_current (e : Engine) (d : String) :
    (e.fragment d).2.current = (e.afterType (.ofDirective e.vocabulary d)).current := by
  obtain ⟨q, hq⟩ := e.fragment_snd d
  rw [hq]

/-- The current type is a type of the vocabulary after a plan if it was one before. -/
lemma has_afterType (h : e.vocabulary.has e.current = true) (plan : Plan) :
    e.vocabulary.has (e.afterType plan).current = true := by
  rw [afterType_current]
  cases Text.given plan.setType with
  | none => exact h
  | some t => exact e.vocabulary.has_resolve (some t)

/-! ## What is written -/

/-- What an engine may write with its current type: nothing, a property that the current type has,
an item of a type of the vocabulary, or both. -/
inductive Writes (e : Engine) : String → Prop where
  | nothing : Writes e ""
  | property {p : String} (hp : e.vocabulary.hasProperty e.current p = true) :
      Writes e (e.renderer.property p)
  | propertyItem {p t : String} (hp : e.vocabulary.hasProperty e.current p = true)
      (ht : e.vocabulary.has t = true) :
      Writes e (e.renderer.property p ++ " " ++ e.renderer.scope t)
  | item {t : String} (ht : e.vocabulary.has t = true) : Writes e (e.renderer.scope t)

/-- The text of a candidate that the current type has. -/
lemma writes_candidateText {c : String × Option String}
    (h : e.vocabulary.hasProperty e.current c.1 = true) : e.Writes (e.candidateText c) := by
  rw [candidateText]
  split
  · rename_i t _
    exact .propertyItem h (e.vocabulary.has_resolve (some t))
  · exact .property h

/-- What is written depends neither on the request nor on what it was. -/
lemma Writes.request (h : e.Writes s) (q : Request) : { e with request := q }.Writes s := by
  cases h with
  | nothing => exact .nothing
  | property hp => exact .property (e := { e with request := q }) hp
  | propertyItem hp ht => exact .propertyItem (e := { e with request := q }) hp ht
  | item ht => exact .item (e := { e with request := q }) ht

/-- What is written for a plan, whatever it says. -/
lemma planFragment_writes (e : Engine) (plan : Plan) :
    (e.planFragment plan).2.Writes (e.planFragment plan).1 := by
  cases h : (e.afterType plan).candidateObstacle? plan with
  | some o =>
    rw [planFragment_of_obstacle h]
    exact .nothing
  | none =>
    rw [planFragment_eq h]
    cases hc : plan.candidate? (e.afterType plan).vocabulary (e.afterType plan).current with
    | some c =>
      have htext := writes_candidateText (Plan.hasProperty_of_candidate? hc)
      simp only
      split
      · exact htext.request .blank
      · exact .nothing
    | none =>
      simp only
      split
      · rename_i hset
        obtain ⟨t, ht⟩ := Option.isSome_iff_exists.1 hset
        rw [scope]
        split
        · -- the current type has just been set, so it is a type of the vocabulary
          refine .item ?_
          rw [afterType_current, ht, afterType_vocabulary]
          exact e.vocabulary.has_resolve (some t)
        · exact .nothing
      · exact .nothing

/-- **Fragments are built from names of the vocabulary**, whatever the directive says. -/
theorem fragment_writes (e : Engine) (d : String) : (e.fragment d).2.Writes (e.fragment d).1 :=
  e.planFragment_writes _

/-- A disabled engine writes nothing for a directive. -/
lemma fragment_of_disabled (h : e.enabled = false) (d : String) : (e.fragment d).1 = "" := by
  rw [fragment]
  cases ho : (e.afterType (.ofDirective e.vocabulary d)).candidateObstacle?
      (.ofDirective e.vocabulary d) with
  | some o => rw [planFragment_of_obstacle ho]
  | none =>
    rw [planFragment_eq ho]
    split <;> simp [scope, h]

/-- Neither a name of the vocabulary nor the address that type names are relative to holds the
character. -/
def NamesAvoid (e : Engine) (c : Char) : Prop :=
  e.vocabulary.NamesAvoid c ∧ c ∉ e.renderer.baseUrl.toList

/-- The names that an engine may write are the same after a directive. -/
lemma NamesAvoid.fragment {c : Char} (h : e.NamesAvoid c) (d : String) :
    (e.fragment d).2.NamesAvoid c := by
  rw [NamesAvoid, fragment_vocabulary, fragment_renderer]
  exact h

/-- The attributes that a written text stands for: none, that of a property, those of an item, or all
of them. The property is one of the current type, and the item is one of a type of the
vocabulary. -/
inductive StandsFor (e : Engine) : String → List Attribute → Prop where
  | nothing : StandsFor e "" []
  | property {p : String} (hp : e.vocabulary.hasProperty e.current p = true) :
      StandsFor e (e.renderer.property p) [e.renderer.propertyAttribute p]
  | propertyItem {p t : String} (hp : e.vocabulary.hasProperty e.current p = true)
      (ht : e.vocabulary.has t = true) :
      StandsFor e (e.renderer.property p ++ " " ++ e.renderer.scope t)
        (e.renderer.propertyAttribute p :: e.renderer.scopeAttributes t)
  | item {t : String} (ht : e.vocabulary.has t = true) :
      StandsFor e (e.renderer.scope t) (e.renderer.scopeAttributes t)

/-- Whatever is written stands for attributes. -/
lemma Writes.standsFor (h : e.Writes s) : ∃ as, e.StandsFor s as := by
  cases h with
  | nothing => exact ⟨_, .nothing⟩
  | property hp => exact ⟨_, .property hp⟩
  | propertyItem hp ht => exact ⟨_, .propertyItem hp ht⟩
  | item ht => exact ⟨_, .item ht⟩

/-- What is written is the text of the attributes that it stands for, if no name holds an
apostrophe. -/
theorem StandsFor.marks {as : List Attribute} (h : e.StandsFor s as)
    (hnames : e.NamesAvoid '\'') :
    Renderer.Marks as ∧ s.toList = Tag.attributesSource (Attribute.row [] as) := by
  obtain ⟨hnames, hurl⟩ := hnames
  cases h with
  | nothing => exact ⟨Renderer.marks_nil, rfl⟩
  | property hp =>
    have hp := Vocabulary.not_mem_of_hasProperty hnames hp
    exact ⟨Renderer.marks_property hp, Renderer.toList_property _ _⟩
  | propertyItem hp ht =>
    have hp := Vocabulary.not_mem_of_hasProperty hnames hp
    have ht := Vocabulary.not_mem_of_has hnames ht
    exact ⟨(Renderer.marks_property hp).append (Renderer.marks_scope hurl ht),
      Renderer.toList_property_scope _ _ _⟩
  | item ht =>
    have ht := Vocabulary.not_mem_of_has hnames ht
    exact ⟨Renderer.marks_scope hurl ht, Renderer.toList_scope _ _⟩

/-- What is written makes up attributes if no name holds an apostrophe. -/
theorem Writes.marks (h : e.Writes s) (hnames : e.NamesAvoid '\'') :
    ∃ as, Renderer.Marks as ∧ s.toList = Tag.attributesSource (Attribute.row [] as) := by
  obtain ⟨as, has⟩ := h.standsFor
  exact ⟨as, has.marks hnames⟩

/-- What is written holds no bracket that no name holds. -/
lemma Writes.not_mem {c : Char} (h : e.Writes s) (hc : c = '<' ∨ c = '>')
    (hnames : e.NamesAvoid c) : c ∉ s.toList := by
  obtain ⟨hnames, hurl⟩ := hnames
  cases h with
  | nothing => simp
  | property hp =>
    exact Renderer.not_mem_property hc (Vocabulary.not_mem_of_hasProperty hnames hp)
  | propertyItem hp ht =>
    have hproperty := Renderer.not_mem_property (r := e.renderer) hc
      (Vocabulary.not_mem_of_hasProperty hnames hp)
    have hscope := Renderer.not_mem_scope hc hurl (Vocabulary.not_mem_of_has hnames ht)
    have hspace : c ≠ ' ' := by rcases hc with rfl | rfl <;> decide
    simp [hproperty, hscope, hspace]
  | item ht => exact Renderer.not_mem_scope hc hurl (Vocabulary.not_mem_of_has hnames ht)

/-! ## Obstacles -/

/-- Every directive has a fragment if the parents of all types are named. -/
theorem fragmentObstacle?_eq_none (h : e.vocabulary.ParentsNamed) (d : String) :
    e.fragmentObstacle? d = none := by
  simp only [fragmentObstacle?, candidateObstacle?, Plan.candidateObstacle?,
    List.findSome?_eq_none_iff]
  intro c _
  rw [afterType_vocabulary]
  exact Vocabulary.propertyObstacle?_eq_none h _ c.1

end Engine

end SchemaMarkup
