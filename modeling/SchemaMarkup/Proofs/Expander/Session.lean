import SchemaMarkup.Proofs.Engine.Expand

set_option autoImplicit false

/-!
# Sessions with an expander

An expander keeps its flag and its vocabulary, and so does its engine, which is made anew whenever a
flavour is chosen. The two stay in step as long as the engine is left to the expander. Between two
commands the engine is idle: its current type is a type of the vocabulary, and nothing is requested
of it. A flavour that does not exist is refused before anything has changed.

## Main definitions

* `SchemaMarkup.Engine.Idle` — an engine between two documents.
* `SchemaMarkup.Expander.Command.isOwn` — the commands that leave the engine to the expander.
* `SchemaMarkup.Expander.InStep` — an expander and its engine agree.

## Main results

* `SchemaMarkup.Engine.Idle.expand` — an engine is idle again after a document.
* `SchemaMarkup.Expander.InStep.run` — an expander and its engine stay in step.
* `SchemaMarkup.Expander.session_inStep` — what holds at every moment of a session.
-/

namespace SchemaMarkup

/-! ## Names of flavours -/

namespace Flavour

variable {s : Option String}

/-- A name of a flavour, in any letter case, chooses that flavour. -/
lemma exists_ofName_eq (h : Text.lower (s.getD "") ∈ all.map name) :
    ∃ f, f.name = Text.lower (s.getD "") ∧ ofName s = .ok f := by
  obtain ⟨f, hf, hname⟩ := List.mem_map.1 h
  have hsome : (all.find? fun f => f.name == Text.lower (s.getD "")).isSome :=
    List.find?_isSome.2 ⟨f, hf, by simpa using hname⟩
  obtain ⟨f', hfind⟩ := Option.isSome_iff_exists.1 hsome
  exact ⟨f', by simpa using List.find?_some hfind, by rw [ofName, hfind]⟩

/-- No other name chooses any. -/
lemma ofName_eq_error (h : Text.lower (s.getD "") ∉ all.map name) : ofName s = .error ⟨s⟩ := by
  have hnone : (all.find? fun f => f.name == Text.lower (s.getD "")) = none :=
    List.find?_eq_none.2 fun f hf hname => h (List.mem_map.2 ⟨f, hf, by simpa using hname⟩)
  rw [ofName, hnone]

end Flavour

/-! ## Idle engines -/

namespace Engine

variable {e : Engine}

/-- The current type is a type of the vocabulary, and nothing is requested. -/
structure Idle (e : Engine) : Prop where
  current : e.vocabulary.has e.current = true
  request : e.request = .blank

/-- A new engine is idle. -/
lemma idle_new (r : Renderer) (v : Vocabulary) (flag : Bool) : (new r v flag).Idle :=
  ⟨v.has_root, rfl⟩

/-- The fragment of a plan leaves nothing requested. -/
lemma planFragment_request (h : e.request = .blank) (plan : Plan) :
    (e.planFragment plan).2.request = .blank := by
  have hafter : (e.afterType plan).request = .blank := by rw [afterType_eq, h]
  cases ho : (e.afterType plan).candidateObstacle? plan with
  | some o => rw [planFragment_of_obstacle ho, hafter]
  | none =>
    rw [planFragment_eq ho]
    split
    · rfl
    · exact hafter

/-- An engine is idle again after a directive. -/
lemma Idle.fragment (h : e.Idle) (d : String) : (e.fragment d).2.Idle := by
  refine ⟨?_, planFragment_request h.request _⟩
  rw [fragment_vocabulary, fragment_current]
  exact has_afterType h.current _

/-- **An engine is idle again after any number of directives.** -/
theorem Idle.expand (h : e.Idle) (ps : List Piece) : (e.expand ps).2.Idle := by
  induction ps generalizing e with
  | nil => exact h
  | cons p ps ih =>
    cases p with
    | copied s => exact ih h
    | directive a d =>
      have hrest := ih (h.fragment d)
      simpa only [Engine.expand] using hrest

end Engine

namespace Expander

variable {r r₀ : Expander} {settings : Settings} {v : Vocabulary} {semantic : Option String}
  {suffixes : List (Option String)} {enabled : Option Bool}

/-- The command leaves the engine to the expander. -/
def Command.isOwn : Command → Bool
  | .engine _ => false
  | _ => true

/-- The expander and its engine have the same flag and the same vocabulary, and the engine is
idle. -/
structure InStep (r : Expander) : Prop where
  enabled : r.engine.enabled = r.enabled
  vocabulary : r.engine.vocabulary = r.vocabulary
  idle : r.engine.Idle

/-! ## What a command does -/

/-- Choosing a flavour that there is. -/
lemma exists_setSemantic_eq (r : Expander) {s : Option String}
    (h : Text.lower (s.getD "") ∈ Flavour.all.map Flavour.name) :
    ∃ f : Flavour, f.name = Text.lower (s.getD "") ∧
      r.setSemantic s = .ok
        { r with engine := .new (.make f none r.settings.schemaUrl) r.vocabulary r.enabled } := by
  obtain ⟨f, hname, hf⟩ := Flavour.exists_ofName_eq h
  refine ⟨f, hname, ?_⟩
  rw [setSemantic, engineFor, hf]
  rfl

/-- Choosing one that there is not. -/
lemma setSemantic_eq_error (r : Expander) {s : Option String}
    (h : Text.lower (s.getD "") ∉ Flavour.all.map Flavour.name) :
    r.setSemantic s = .error ⟨s⟩ := by
  rw [setSemantic, engineFor, Flavour.ofName_eq_error h]
  rfl

/-! ## Staying in step -/

/-- An expander is in step with an idle engine of its own flag and vocabulary. -/
lemma InStep.with_engine (h : r.InStep) {e : Engine} (henabled : e.enabled = r.engine.enabled)
    (hvocabulary : e.vocabulary = r.engine.vocabulary) (hidle : e.Idle) :
    { r with engine := e }.InStep :=
  ⟨henabled.trans h.enabled, hvocabulary.trans h.vocabulary, hidle⟩

/-- What an expander is when it is made. -/
lemma exists_of_new (h : new settings v semantic suffixes enabled = .ok r) :
    ∃ f, r = ⟨settings, v, enabled.getD settings.enabled,
      Suffix.addAll [] (some settings.defaultSuffix :: suffixes),
      .new (.make f none settings.schemaUrl) v (enabled.getD settings.enabled)⟩ := by
  rw [new, engineFor] at h
  cases hflavour : Flavour.ofName (some ((Text.given semantic).getD settings.semantic)) with
  | error u => simp [hflavour, Except.map] at h
  | ok f =>
    simp only [hflavour, Except.map, Except.ok.injEq] at h
    exact ⟨f, h.symm⟩

/-- An expander begins in step with its engine. -/
lemma inStep_of_new (h : new settings v semantic suffixes enabled = .ok r) :
    r.InStep ∧ r.vocabulary = v := by
  obtain ⟨f, rfl⟩ := exists_of_new h
  exact ⟨⟨rfl, rfl, Engine.idle_new _ _ _⟩, rfl⟩

/-- **A command keeps an expander in step with its engine.** -/
lemma InStep.next (h : r.InStep) {c : Command} (hown : c.isOwn = true) :
    (r.next c).InStep ∧ (r.next c).vocabulary = r.vocabulary := by
  cases c with
  | setSemantic s =>
    by_cases hs : Text.lower (s.getD "") ∈ Flavour.all.map Flavour.name
    · obtain ⟨f, -, hf⟩ := r.exists_setSemantic_eq hs
      simp only [Expander.next, hf]
      exact ⟨⟨rfl, rfl, Engine.idle_new _ _ _⟩, rfl⟩
    · simp only [Expander.next, r.setSemantic_eq_error hs]
      exact ⟨h, rfl⟩
  | enable flag => exact ⟨⟨rfl, h.vocabulary, h.idle.current, h.idle.request⟩, rfl⟩
  | expand html =>
    simp only [Expander.next, expand_eq]
    exact ⟨h.with_engine (r.engine.expand_enabled _) (r.engine.expand_vocabulary _)
      (h.idle.expand _), trivial⟩
  | fragment d =>
    simp only [Expander.next, Expander.fragment]
    exact ⟨h.with_engine (r.engine.fragment_enabled d) (r.engine.fragment_vocabulary d)
      (h.idle.fragment d), trivial⟩
  | expandTag html start names =>
    simp only [Expander.next]
    cases hpieces : tagPieces html.toList start names with
    | none =>
      simp only [expandTagAt, hpieces, Option.map_none]
      exact ⟨h, trivial⟩
    | some ps =>
      simp only [expandTagAt, hpieces, Option.map_some]
      exact ⟨h.with_engine (r.engine.expand_enabled ps) (r.engine.expand_vocabulary ps)
        (h.idle.expand ps), trivial⟩
  | engine c => simp [Command.isOwn] at hown
  | _ => exact ⟨⟨h.enabled, h.vocabulary, h.idle⟩, rfl⟩

/-- **An expander and its engine stay in step** in every session. -/
theorem InStep.run (h : r.InStep) {cs : List Command} (hown : ∀ c ∈ cs, c.isOwn = true) :
    (r.run cs).InStep ∧ (r.run cs).vocabulary = r.vocabulary := by
  induction cs generalizing r with
  | nil => exact ⟨h, rfl⟩
  | cons c cs ih =>
    obtain ⟨hnext, hvocabulary⟩ := h.next (hown c List.mem_cons_self)
    obtain ⟨hrun, hvocabulary'⟩ := ih hnext fun c' hc' => hown c' (List.mem_cons_of_mem _ hc')
    exact ⟨hrun, hvocabulary'.trans hvocabulary⟩

/-- **What holds at every moment of a session** that leaves the engine to the expander, whatever was
done before. The engine has the flag and the vocabulary of the expander, its current type is a type
of the vocabulary, and nothing is requested of it. Choosing a flavour fails exactly if no flavour has
the name in any letter case, and then nothing has changed; if it succeeds, the suffixes and the flags
stay and the root is current again. Neither turning markup on or off nor registering suffixes changes
the current type, and neither a document nor a directive changes the suffixes, the flags or the
renderer, whether it has an answer or not.

**Proof sketch.** Induction on the session (`InStep.run`); one command keeps an expander in step with
its engine because an idle engine is idle again after any directives (`Engine.Idle.expand`). -/
theorem session_inStep (h : new settings v semantic suffixes enabled = .ok r₀) (cs : List Command)
    (hown : ∀ c ∈ cs, c.isOwn = true) :
    let r := r₀.run cs
    (r.engine.enabled = r.enabled ∧ r.engine.vocabulary = r.vocabulary ∧ r.vocabulary = v ∧
        v.has r.engine.current = true ∧ r.engine.request = .blank) ∧
      (∀ s, Text.lower (s.getD "") ∉ Flavour.all.map Flavour.name →
        r.perform (.setSemantic s) = (.error (.unknownFlavour ⟨s⟩), r)) ∧
      (∀ s, Text.lower (s.getD "") ∈ Flavour.all.map Flavour.name →
        ∃ r', r.perform (.setSemantic s) = (.ok (.plain .done), r') ∧
          r'.engine.renderer.flavour.name = Text.lower (s.getD "") ∧
          r'.suffixes = r.suffixes ∧ r'.enabled = r.enabled ∧
          r'.engine.enabled = r.engine.enabled ∧ r'.engine.current = v.root) ∧
      (∀ flag, (r.perform (.enable flag)).2.engine.current = r.engine.current) ∧
      (∀ ss, (r.perform (.addSuffixes ss)).2.engine = r.engine ∧
        (r.perform (.removeSuffixes ss)).2.engine = r.engine) ∧
      ∀ c, (∃ html, c = .expand html) ∨ (∃ d, c = .fragment d) →
        let r' := (r.perform c).2
        r'.suffixes = r.suffixes ∧ r'.enabled = r.enabled ∧
          r'.engine.enabled = r.engine.enabled ∧ r'.engine.renderer = r.engine.renderer := by
  intro r
  obtain ⟨hnew, hvocabulary⟩ := inStep_of_new h
  obtain ⟨hstep, hrun⟩ := hnew.run hown
  have hv : r.vocabulary = v := hrun.trans hvocabulary
  have hcurrent : v.has r.engine.current = true := by
    rw [← hv, ← hstep.vocabulary]
    exact hstep.idle.current
  refine ⟨⟨hstep.enabled, hstep.vocabulary, hv, hcurrent, hstep.idle.request⟩, fun s hs => ?_,
    fun s hs => ?_, fun flag => rfl, fun ss => ⟨rfl, rfl⟩, ?_⟩
  · simp only [perform, fault?, next, r.setSemantic_eq_error hs]
    rfl
  · obtain ⟨f, hname, hf⟩ := r.exists_setSemantic_eq hs
    refine ⟨{ r with engine := .new (.make f none r.settings.schemaUrl) r.vocabulary r.enabled },
      ?_, hname, rfl, rfl, hstep.enabled.symm, congrArg Vocabulary.root hv⟩
    simp only [perform, fault?, next, answer, hf]
    rfl
  · rintro c (⟨html, rfl⟩ | ⟨d, rfl⟩)
    · simp only [perform_snd, next, expand_eq]
      exact ⟨trivial, trivial, r.engine.expand_enabled _, r.engine.expand_renderer _⟩
    · simp only [perform_snd, next, fragment]
      exact ⟨trivial, trivial, r.engine.fragment_enabled d, r.engine.fragment_renderer d⟩

/-- What is made with the standard settings: the expander to look at, with another vocabulary. -/
lemma new_standard (v : Vocabulary) :
    new .standard v (some "Microdata") [] (some true) =
      .ok { minimal with vocabulary := v, engine := .new minimal.engine.renderer v true } := by
  have hflavour : Flavour.ofName (some "Microdata") = .ok .microdata := by decide +kernel
  have hsuffixes : Suffix.addAll [] [some "sd"] = ["sd"] := by decide +kernel
  have hgiven : Text.given (some "Microdata") = some "Microdata" := by decide
  simp only [new, engineFor, hgiven, Settings.standard, Option.getD_some, hflavour, hsuffixes]
  rfl

/-- The expander to look at is made with the standard settings. -/
lemma new_eq_minimal :
    new .standard (.rootOnly "Thing") (some "Microdata") [] (some true) = .ok minimal :=
  new_standard (.rootOnly "Thing")

/-- A flavour that does not exist, after one that was chosen while no markup is written. -/
theorem session_inStep_minimal :
    let cs : List Command := [.enable false, .setSemantic (some "RDFa"),
      .expand "<p data-sd=Thing>", .addSuffixes [none, some " X "]]
    let r := minimal.run cs
    new .standard (.rootOnly "Thing") (some "Microdata") [] (some true) = .ok minimal ∧
      (∀ c ∈ cs, c.isOwn = true) ∧ r.engine.renderer.flavour = .rdfa ∧
      r.engine.enabled = r.enabled ∧ r.enabled = false ∧
      r.perform (.setSemantic (some "Turtle")) =
        (.error (.unknownFlavour ⟨some "Turtle"⟩), r) := by
  intro cs r
  have hown : ∀ c ∈ cs, c.isOwn = true := by simp [cs, Command.isOwn]
  obtain ⟨⟨henabled, -⟩, hfails, -⟩ := session_inStep new_eq_minimal cs hown
  exact ⟨new_eq_minimal, hown, by decide +kernel, henabled, by decide +kernel,
    hfails _ (by decide +kernel)⟩

end Expander

end SchemaMarkup
