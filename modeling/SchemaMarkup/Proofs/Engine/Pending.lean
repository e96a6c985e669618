import Mathlib.Data.List.Induction
import SchemaMarkup.Proofs.Engine.Session
import SchemaMarkup.Vocabulary.Bundled

set_option autoImplicit false

/-!
# Pending properties

A property is judged when it is requested, by the type that is current then, and is not judged
again. It is one of the current type as long as every type that is set while it is pending has it
too. If one has not, the property stays all the same, and the next display writes it.

## Main definitions

* `SchemaMarkup.Renderer.Declares` — a fragment holds the attribute of a property.
* `SchemaMarkup.Engine.PendingFits` — the pending property is one of the current type.
* `SchemaMarkup.Engine.Fits`, `SchemaMarkup.Engine.SessionFits` — the types that are set have the
  pending property.

## Main results

* `SchemaMarkup.Engine.exists_request_of_pending` — a pending property was requested.
* `SchemaMarkup.Engine.pendingFits_next_iff` — what a command does to the pending property.
* `SchemaMarkup.Engine.declares_rendered` — every display writes the pending property.
* `SchemaMarkup.Engine.pending_outlives_type` — the pending property in a session.
-/

namespace SchemaMarkup

namespace Renderer

/-! ## The property in a fragment -/

/-- The fragment holds the attribute that declares the property. -/
def Declares (r : Renderer) (p s : String) : Prop := (r.property p).toList <:+: s.toList

variable {r : Renderer} {p s : String}

lemma declares_property (r : Renderer) (p : String) : r.Declares p (r.property p) :=
  List.infix_rfl

/-- A fragment can be followed by anything. -/
lemma Declares.append_right (h : r.Declares p s) (t : String) : r.Declares p (s ++ t) := by
  rw [Declares, String.toList_append]
  exact h.trans (List.prefix_append _ _).isInfix

/-- Anything can stand before a fragment. -/
lemma Declares.append_left (h : r.Declares p s) (t : String) : r.Declares p (t ++ s) := by
  rw [Declares, String.toList_append]
  exact h.trans (List.suffix_append _ _).isInfix

/-- The attributes of a property, whatever item they declare besides. -/
lemma declares_attributes (hp : p ≠ "") (scope : Option String) (propertyFirst : Bool) :
    r.Declares p (r.attributes (some p) scope propertyFirst) := by
  have hproperty := r.declares_property p
  rw [attributes, Text.given_some hp]
  cases Text.given scope with
  | none => cases propertyFirst <;> exact hproperty
  | some t =>
    cases propertyFirst with
    | true => exact (hproperty.append_right " ").append_right (r.scope t)
    | false => exact hproperty.append_left (r.scope t ++ " ")

/-- An empty element that carries a property. -/
lemma declares_metaTag (hp : p ≠ "") (content scope : Option String) (propertyFirst : Bool) :
    r.Declares p (r.metaTag content (some p) scope propertyFirst) :=
  (((((declares_attributes hp scope propertyFirst).append_left "<meta ").append_right _).append_right
    _).append_right _).append_right _

/-- An element that carries a property. -/
lemma declares_element (hp : p ≠ "") (tag : String) (content scope : Option String)
    (propertyFirst : Bool) : r.Declares p (r.element tag content (some p) scope propertyFirst) :=
  ((((((declares_attributes hp scope propertyFirst).append_left _).append_right _).append_right
    _).append_right _).append_right _).append_right _

/-- A fragment of any shape that carries a property. -/
lemma declares_render (hp : p ≠ "") (shape : Shape) (content scope : Option String)
    (propertyFirst : Bool) : r.Declares p (r.render shape content (some p) scope propertyFirst) := by
  cases shape with
  | automatic | bare => exact declares_attributes hp scope propertyFirst
  | span | div => exact declares_element hp _ content scope propertyFirst
  | metaTag => exact declares_metaTag hp content scope propertyFirst

end Renderer

namespace Engine

variable {e : Engine} {p : String}

/-! ## Where a pending property comes from -/

/-- A command that leaves a property pending requests it, or finds it pending. -/
lemma pending_of_next {c : Command} (hp : p ∈ (e.next c).request.property) :
    c = .requestProperty (some p) ∧ e.vocabulary.hasProperty e.current p = true ∨
      p ∈ e.request.property := by
  cases c with
  | requestProperty q =>
    simp only [next] at hp
    split at hp
    · exact .inr hp
    · obtain ⟨rfl, hvalid⟩ := Option.filter_eq_some_iff.1 hp
      exact .inl ⟨rfl, hvalid⟩
  | setFallback t q =>
    simp only [next] at hp
    split at hp <;> exact .inr hp
  | display shape emptyOutput => simp [next, Request.blank] at hp
  | _ => exact .inr hp

/-- **A pending property was requested** when a type was current that has it. -/
theorem exists_request_of_pending {r : Renderer} {v : Vocabulary} {flag : Bool}
    {cs : List Command} (hp : p ∈ ((new r v flag).run cs).request.property) :
    ∃ before after, cs = before ++ .requestProperty (some p) :: after ∧
      v.hasProperty ((new r v flag).run before).current p = true := by
  -- from the end of the session: its last command requests the property or finds it pending
  induction cs using List.reverseRecOn with
  | nil => simp [new, Request.blank] at hp
  | append_singleton cs c ih =>
    rw [run_append, run_cons, run_nil] at hp
    rcases pending_of_next hp with ⟨rfl, hvalid⟩ | hp
    · rw [run_vocabulary] at hvalid
      exact ⟨cs, [], rfl, hvalid⟩
    · obtain ⟨before, after, rfl, hvalid⟩ := ih hp
      exact ⟨before, after ++ [c], by simp, hvalid⟩

/-! ## Types that fit -/

/-- The pending property is one of the current type. -/
def PendingFits (e : Engine) : Prop :=
  ∀ p ∈ e.request.property, e.vocabulary.hasProperty e.current p = true

/-- The command sets no type that does not have the pending property. -/
def Fits (e : Engine) : Command → Prop
  | .setType t => ∀ p ∈ e.request.property,
      e.vocabulary.hasProperty (e.vocabulary.resolve t) p = true
  | _ => True

/-- No command of the session sets a type that does not have the property pending then. -/
def SessionFits (e : Engine) : List Command → Prop
  | [] => True
  | c :: cs => e.Fits c ∧ (e.next c).SessionFits cs

/-- **A pending property goes wrong only where a type is set** that does not have it, and there it
does. -/
theorem pendingFits_next_iff (h : e.PendingFits) (c : Command) :
    (e.next c).PendingFits ↔ e.Fits c := by
  by_cases hset : ∃ t, c = .setType t
  · obtain ⟨t, rfl⟩ := hset
    exact Iff.rfl
  · have hfits : e.Fits c := by
      cases c with
      | setType t => exact absurd ⟨t, rfl⟩ hset
      | _ => trivial
    have hcurrent : (e.next c).current = e.current := by
      rw [next_current]
      split
      · exact absurd ⟨_, rfl⟩ hset
      · rfl
    refine iff_of_true (fun p hp => ?_) hfits
    rw [next_vocabulary, hcurrent]
    rcases pending_of_next hp with ⟨-, hvalid⟩ | hp
    · exact hvalid
    · exact h p hp

/-- The pending property is one of the current type throughout a session exactly if the session
sets no type that does not have it. -/
lemma pendingFits_run_iff (h : e.PendingFits) (cs : List Command) :
    (∀ before, before <+: cs → (e.run before).PendingFits) ↔ e.SessionFits cs := by
  induction cs generalizing e with
  | nil =>
    refine iff_of_true (fun before hbefore => ?_) trivial
    obtain rfl := List.prefix_nil.1 hbefore
    exact h
  | cons c cs ih =>
    constructor
    · intro hall
      have hnext : (e.next c).PendingFits := hall [c] (by simp)
      refine ⟨(pendingFits_next_iff h c).1 hnext, (ih hnext).1 fun before hbefore => ?_⟩
      exact hall (c :: before) (List.cons_prefix_cons.2 ⟨rfl, hbefore⟩)
    · rintro ⟨hfits, hrest⟩ before hbefore
      have hnext := (pendingFits_next_iff h c).2 hfits
      cases before with
      | nil => exact h
      | cons d before =>
        obtain ⟨rfl, hprefix⟩ := List.cons_prefix_cons.1 hbefore
        exact (ih hnext).2 hrest before hprefix

/-! ## What is written -/

/-- A nested property is written. -/
lemma declares_renderNested (hp : p ≠ "") : e.renderer.Declares p (e.renderNested p) := by
  simp only [renderNested]
  cases e.request.content with
  | none =>
    exact ((((e.renderer.declares_property p).append_right " ").append_right _).append_right _)
  | some content => exact Renderer.declares_element hp _ _ _ _

/-- **Every display writes the pending property**, of whatever type it is. -/
theorem declares_rendered (henabled : e.enabled = true) (hp : p ∈ e.request.property)
    (hne : p ≠ "") (shape : Shape) (emptyOutput : Bool) :
    e.renderer.Declares p (e.rendered shape emptyOutput) := by
  rw [rendered, if_pos henabled, Option.mem_def.1 hp, Text.given_some hne]
  cases shape with
  | automatic =>
    simp only [renderProperty, renderByKind]
    split
    · exact declares_renderNested hne
    · exact e.renderer.declares_property p
    · exact (Renderer.declares_metaTag hne _ _ _).append_right _
    · exact Renderer.declares_element hne _ _ _ _
  | metaTag => exact Renderer.declares_metaTag hne _ _ _
  | bare | span | div => exact Renderer.declares_render hne _ _ _ _

/-! ## In a session -/

/-- **The pending property in a session** with a new engine. It was requested when a type was
current that has it. It is one of the current type throughout exactly if no type is set that does
not have it. And whether it is or not, every display of an engine that writes markup declares it. -/
theorem pending_outlives_type (r : Renderer) (v : Vocabulary) (flag : Bool) (cs : List Command) :
    let e := (new r v flag).run cs
    (∀ p ∈ e.request.property, ∃ before after, cs = before ++ .requestProperty (some p) :: after ∧
        v.hasProperty ((new r v flag).run before).current p = true) ∧
      ((∀ before, before <+: cs → ((new r v flag).run before).PendingFits) ↔
        (new r v flag).SessionFits cs) ∧
      (∀ p ∈ e.request.property, e.enabled = true → ∀ shape emptyOutput,
        e.obstacle? (.display shape emptyOutput) = none →
        ∃ s, (e.perform (.display shape emptyOutput)).1 = .ok (.text (some s)) ∧
          r.Declares p s) := by
  intro e
  have hnew : (new r v flag).PendingFits := by simp [PendingFits, new, Request.blank]
  refine ⟨fun p hp => exists_request_of_pending hp, pendingFits_run_iff hnew cs,
    fun p hp henabled shape emptyOutput hnone => ?_⟩
  obtain ⟨before, after, -, hvalid⟩ := exists_request_of_pending hp
  have hwritten := declares_rendered henabled hp (Vocabulary.ne_empty_of_hasProperty hvalid) shape
    emptyOutput
  have hrenderer : e.renderer = r := run_renderer _ cs
  rw [hrenderer] at hwritten
  exact ⟨_, by rw [perform, hnone]; rfl, hwritten⟩

/-- The body of an article is no property of a person. It stays pending when the type is set, and it
is written. -/
theorem not_pendingFits_bundled :
    let e := (new ⟨.microdata, "https://schema.org"⟩ .bundled true).run
      [.setType (some "Article"), .requestProperty (some "articleBody"), .setType (some "Person")]
    e.request.property = some "articleBody" ∧
      e.vocabulary.hasProperty e.current "articleBody" = false ∧
      (e.perform (.display .automatic false)).1 =
        .ok (.text (some "itemprop='articleBody'")) := by
  intro e
  have hnone : e.obstacle? (.display .automatic false) = none := by decide +kernel
  have hwritten : e.answer (.display .automatic false) =
      .text (some "itemprop='articleBody'") := by decide +kernel
  exact ⟨by decide +kernel, by decide +kernel, by rw [perform, hnone, hwritten]⟩

end Engine

end SchemaMarkup
