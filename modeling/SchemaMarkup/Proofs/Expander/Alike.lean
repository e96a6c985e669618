import SchemaMarkup.Proofs.Engine.Expand
import SchemaMarkup.Proofs.Markup.Places

set_option autoImplicit false

/-!
# Expanders that read alike

Which places of a document are replaced, and which type is current afterwards, depends on the names
of the attributes, the vocabulary and the current type alone. The flavour, the flag and whatever is
left in the request decide at most what is written at those places: the flag decides whether anything
is, and the request decides nothing.

## Main definitions

* `SchemaMarkup.Engine.ReadsLike`, `SchemaMarkup.Expander.ReadsLike` — the same vocabulary, current
  type and attribute names.
* `SchemaMarkup.Engine.WritesLike` — the same but for the request.
* `SchemaMarkup.Expander.places`, `SchemaMarkup.Expander.fragments` — the places that are replaced in
  a document, and what is written there.

## Main results

* `SchemaMarkup.Engine.ReadsLike.fragment`, `SchemaMarkup.Engine.ReadsLike.expand` — engines that
  read alike go on to.
* `SchemaMarkup.Engine.expand_eq_replaceFrom` — expanding is replacing at places.
* `SchemaMarkup.Expander.ReadsLike.run` — expanders that read alike go on to.
* `SchemaMarkup.Expander.expand_of_readsLike` — what they make of documents.
-/

namespace SchemaMarkup

namespace Engine

variable {e e' : Engine}

/-! ## Engines that read alike -/

/-- The engines have the same vocabulary and the same current type. -/
structure ReadsLike (e e' : Engine) : Prop where
  vocabulary : e.vocabulary = e'.vocabulary
  current : e.current = e'.current

/-- The engines differ in their requests at most. -/
structure WritesLike (e e' : Engine) : Prop extends ReadsLike e e' where
  renderer : e.renderer = e'.renderer
  enabled : e.enabled = e'.enabled

/-- Engines that read alike do so once the type of a plan is current. -/
lemma ReadsLike.afterType (h : e.ReadsLike e') (plan : Plan) :
    (e.afterType plan).ReadsLike (e'.afterType plan) := by
  refine ⟨?_, ?_⟩
  · rw [afterType_vocabulary, afterType_vocabulary, h.vocabulary]
  · rw [afterType_current, afterType_current, h.vocabulary, h.current]

/-- The same is in the way of a directive. -/
lemma ReadsLike.fragmentObstacle?_eq (h : e.ReadsLike e') (d : String) :
    e.fragmentObstacle? d = e'.fragmentObstacle? d := by
  obtain ⟨hvocabulary, hcurrent⟩ := h.afterType (.ofDirective e.vocabulary d)
  simp only [fragmentObstacle?, candidateObstacle?]
  rw [← h.vocabulary, hvocabulary, hcurrent]

/-- **Engines that read alike do so after a directive.** -/
theorem ReadsLike.fragment (h : e.ReadsLike e') (d : String) :
    (e.fragment d).2.ReadsLike (e'.fragment d).2 := by
  refine ⟨?_, ?_⟩
  · rw [fragment_vocabulary, fragment_vocabulary, h.vocabulary]
  · rw [fragment_current, fragment_current, ← h.vocabulary]
    exact (h.afterType _).current

/-- The same pieces are reached, and the same is in the way. -/
lemma ReadsLike.reach_eq (h : e.ReadsLike e') (ps : List Piece) : e.reach ps = e'.reach ps := by
  induction ps generalizing e e' with
  | nil => rfl
  | cons p ps ih =>
    cases p with
    | copied s => rw [reach, reach, ih h]
    | directive a d => rw [reach, reach, h.fragmentObstacle?_eq d, ih (h.fragment d)]

/-- **Engines that read alike do so after any number of pieces.** -/
theorem ReadsLike.expand (h : e.ReadsLike e') (ps : List Piece) :
    (e.expand ps).2.ReadsLike (e'.expand ps).2 := by
  induction ps generalizing e e' with
  | nil => exact h
  | cons p ps ih =>
    cases p with
    | copied s =>
      rw [Engine.expand, Engine.expand]
      exact ih h
    | directive a d =>
      have hrest := ih (h.fragment d)
      rwa [Engine.expand, Engine.expand]

/-! ## What the request decides -/

/-- What is written for a directive does not depend on the request. -/
lemma fragment_request (e : Engine) (q : Request) (d : String) :
    ({ e with request := q }.fragment d).1 = (e.fragment d).1 := by
  -- a plan sees the vocabulary and the current type, and leaves the request to its candidate
  have hafter : ∀ plan : Plan, ({ e with request := q } : Engine).afterType plan =
      { e.afterType plan with request := q } := by
    intro plan
    rw [afterType_eq, afterType_eq]
  rw [fragment, fragment]
  cases ho : (e.afterType (.ofDirective e.vocabulary d)).candidateObstacle?
      (.ofDirective e.vocabulary d) with
  | some o =>
    rw [planFragment_of_obstacle ho, planFragment_of_obstacle (o := o) (by rw [hafter]; exact ho)]
  | none =>
    rw [planFragment_eq ho, planFragment_eq (by rw [hafter]; exact ho)]
    simp only [hafter]
    cases (Plan.ofDirective e.vocabulary d).candidate?
        (e.afterType (.ofDirective e.vocabulary d)).vocabulary
        (e.afterType (.ofDirective e.vocabulary d)).current with
    | some c => rfl
    | none => rfl

/-- Engines that differ in their requests at most write the same for a directive. -/
lemma WritesLike.fragment_eq (h : e.WritesLike e') (d : String) :
    (e.fragment d).1 = (e'.fragment d).1 := by
  have heq : e = { e' with request := e.request } := by
    obtain ⟨renderer, vocabulary, enabled, current, request⟩ := e
    obtain ⟨⟨rfl, rfl⟩, rfl, rfl⟩ := h
    rfl
  rw [heq, fragment_request]

/-- Engines that differ in their requests at most do so after a directive. -/
theorem WritesLike.fragment (h : e.WritesLike e') (d : String) :
    (e.fragment d).2.WritesLike (e'.fragment d).2 := by
  refine ⟨h.toReadsLike.fragment d, ?_, ?_⟩
  · rw [fragment_renderer, fragment_renderer, h.renderer]
  · rw [fragment_enabled, fragment_enabled, h.enabled]

/-! ## Fragments of directives in order -/

/-- The fragments of directives, written one after another. -/
def fragments (e : Engine) : List String → List String
  | [] => []
  | d :: ds => (e.fragment d).1 :: (e.fragment d).2.fragments ds

@[simp] lemma length_fragments (e : Engine) (ds : List String) :
    (e.fragments ds).length = ds.length := by
  induction ds generalizing e with
  | nil => rfl
  | cons d ds ih => rw [fragments, List.length_cons, List.length_cons, ih]

/-- Engines that differ in their requests at most write the same for any number of directives. -/
lemma WritesLike.fragments_eq (h : e.WritesLike e') (ds : List String) :
    e.fragments ds = e'.fragments ds := by
  induction ds generalizing e e' with
  | nil => rfl
  | cons d ds ih => rw [fragments, fragments, h.fragment_eq d, ih (h.fragment d)]

/-- A disabled engine writes nothing for any number of directives. -/
lemma fragments_of_disabled (h : e.enabled = false) (ds : List String) :
    e.fragments ds = List.replicate ds.length "" := by
  induction ds generalizing e with
  | nil => rfl
  | cons d ds ih =>
    have hnext : (e.fragment d).2.enabled = false := by rw [fragment_enabled, h]
    rw [fragments, fragment_of_disabled h, ih hnext, List.length_cons, List.replicate_succ]

/-- **Expanding is replacing**: each directive is replaced at its place by its fragment, and nothing
else changes. -/
theorem expand_eq_replaceFrom (e : Engine) (start : Nat) (ps : List Piece) :
    (e.expand ps).1 = Text.replaceFrom start (Piece.sources ps)
      ((Piece.placesFrom start ps).zip
        ((e.fragments (Piece.directives ps)).map String.toList)) := by
  induction ps generalizing e start with
  | nil => rfl
  | cons p ps ih =>
    cases p with
    | copied s =>
      have hplaces : ∀ edit ∈ (Piece.placesFrom (start + s.length) ps).zip
          ((e.fragments (Piece.directives ps)).map String.toList),
          start + s.length ≤ edit.1.1 ∧ edit.1.1 ≤ edit.1.2 :=
        fun edit hedit => Piece.le_of_mem_placesFrom (List.of_mem_zip hedit).1
      rw [expand, ih e (start + s.length), Piece.sources_cons, Piece.placesFrom, Piece.directives]
      exact (Text.replaceFrom_append s _ hplaces).symm
    | directive a d =>
      rw [expand, ih (e.fragment d).2 (start + a.source.length), Piece.sources_cons,
        Piece.placesFrom, Piece.directives, fragments, List.map_cons, List.zip_cons_cons,
        Text.replaceFrom]
      simp [Piece.source]

end Engine

namespace Expander

variable {r r' : Expander} {html : String}

/-! ## Expanders that read alike -/

/-- The expanders look for the same attributes, and their engines read alike. -/
structure ReadsLike (r r' : Expander) : Prop where
  attributePrefix : r.settings.attributePrefix = r'.settings.attributePrefix
  suffixes : ∀ s, s ∈ r.suffixes ↔ s ∈ r'.suffixes
  engine : r.engine.ReadsLike r'.engine

/-- Expanders that read alike cut a document into the same pieces. -/
lemma ReadsLike.pieces_eq (h : r.ReadsLike r') (html : String) :
    r.pieces html = r'.pieces html := by
  have hnames : ∀ n, n ∈ r.attributeNames ↔ n ∈ r'.attributeNames := by
    intro n
    simp only [attributeNames, List.mem_map, Settings.attributeName, h.attributePrefix,
      h.suffixes]
  rw [pieces, pieces, Piece.ofText_congr hnames]

/-- Expanders that read alike reach the same pieces, and the same is in the way. -/
lemma ReadsLike.reach_eq (h : r.ReadsLike r') (html : String) :
    r.reachedPieces html = r'.reachedPieces html ∧
      r.expandObstacle? html = r'.expandObstacle? html := by
  rw [reachedPieces, reachedPieces, expandObstacle?, expandObstacle?, h.pieces_eq html,
    h.engine.reach_eq]
  exact ⟨rfl, rfl⟩

/-- Expanders that read alike do so after a document. -/
theorem ReadsLike.expand (h : r.ReadsLike r') (html : String) :
    (r.expand html).2.ReadsLike (r'.expand html).2 := by
  refine ⟨h.attributePrefix, h.suffixes, ?_⟩
  rw [expand_eq, expand_eq, (h.reach_eq html).1]
  exact h.engine.expand _

/-- **Expanders that read alike do so after any number of documents.** -/
theorem ReadsLike.run (h : r.ReadsLike r') (htmls : List String) :
    (r.run (htmls.map .expand)).ReadsLike (r'.run (htmls.map .expand)) := by
  induction htmls generalizing r r' with
  | nil => exact h
  | cons html htmls ih => exact ih (h.expand html)

/-- Documents change neither the renderer nor the flag nor the vocabulary. -/
lemma run_expand_keeps (r : Expander) (htmls : List String) :
    (r.run (htmls.map .expand)).engine.renderer = r.engine.renderer ∧
      (r.run (htmls.map .expand)).engine.enabled = r.engine.enabled ∧
      (r.run (htmls.map .expand)).engine.vocabulary = r.engine.vocabulary := by
  induction htmls generalizing r with
  | nil => exact ⟨rfl, rfl, rfl⟩
  | cons html htmls ih =>
    obtain ⟨hrenderer, henabled, hvocabulary⟩ := ih (r.expand html).2
    rw [expand_eq] at hrenderer henabled hvocabulary
    rw [Engine.expand_renderer] at hrenderer
    rw [Engine.expand_enabled] at henabled
    rw [Engine.expand_vocabulary] at hvocabulary
    exact ⟨hrenderer, henabled, hvocabulary⟩

/-! ## Places in a document -/

/-- The places of the directives of a document, up to the first one that has no fragment. -/
def places (r : Expander) (html : String) : List (Nat × Nat) :=
  Piece.placesFrom 0 (r.reachedPieces html)

/-- What is written at the places. -/
def fragments (r : Expander) (html : String) : List String :=
  r.engine.fragments (Piece.directives (r.reachedPieces html))

lemma length_fragments (r : Expander) (html : String) :
    (r.fragments html).length = (r.places html).length := by
  rw [fragments, places, Engine.length_fragments, Piece.length_placesFrom]

/-- **A document is expanded by replacing**: at each place stands what is written there, and nothing
else changes. -/
lemma perform_expand_eq_replaceAt (h : r.expandObstacle? html = none) :
    (r.perform (.expand html)).1 =
      .ok (.plain (.text (Text.replaceAt html (r.places html) (r.fragments html)))) := by
  have hreached : r.reachedPieces html = r.pieces html := Engine.reach_fst_of_none h
  rw [perform_expand h, Text.replaceAt, places, fragments, hreached,
    Engine.expand_eq_replaceFrom _ 0, pieces, Piece.sources_ofText]

/-- A disabled expander deletes the places. -/
lemma perform_expand_of_disabled (h : r.expandObstacle? html = none)
    (hdisabled : r.engine.enabled = false) :
    (r.perform (.expand html)).1 =
      .ok (.plain (.text (Text.deleteAt html (r.places html)))) := by
  rw [perform_expand_eq_replaceAt h, fragments, Engine.fragments_of_disabled hdisabled,
    ← Piece.length_placesFrom 0, ← places, Text.replaceAt_replicate]

/-- **The flavour, the flag and the request do not decide what is replaced.** Take two expanders that
read alike, and documents that both expand one after another. Then both replace the same places of
the next document and have the same current type after it, and the same is in the way; nothing is if
the parents of all types are named. An expander that is disabled deletes the places. If the renderer
and the flag are the same, so is what is written, whatever the requests are.

**Proof sketch.** The pieces of a document depend on the set of names (`Piece.ofText_congr`), and what
a directive does to the current type depends on the vocabulary and the current type
(`Engine.ReadsLike.fragment`), so that the expanders stay alike (`ReadsLike.run`). The fragment of a
directive is written to a request of its own (`Engine.fragment_request`). -/
theorem expand_of_readsLike (h : r.ReadsLike r') (htmls : List String) (html : String) :
    let s := r.run (htmls.map .expand)
    let s' := r'.run (htmls.map .expand)
    (s.perform (.expand html)).2.engine.current = (s'.perform (.expand html)).2.engine.current ∧
      s.places html = s'.places html ∧
      s.expandObstacle? html = s'.expandObstacle? html ∧
      (r.engine.vocabulary.ParentsNamed → s.expandObstacle? html = none) ∧
      (s.expandObstacle? html = none →
        (s.fragments html).length = (s.places html).length ∧
        (s'.fragments html).length = (s.places html).length ∧
        (s.perform (.expand html)).1 =
          .ok (.plain (.text (Text.replaceAt html (s.places html) (s.fragments html)))) ∧
        (s'.perform (.expand html)).1 =
          .ok (.plain (.text (Text.replaceAt html (s.places html) (s'.fragments html)))) ∧
        (r.engine.enabled = false → (s.perform (.expand html)).1 =
          .ok (.plain (.text (Text.deleteAt html (s.places html))))) ∧
        (r'.engine.enabled = false → (s'.perform (.expand html)).1 =
          .ok (.plain (.text (Text.deleteAt html (s.places html)))))) ∧
      (r.engine.renderer = r'.engine.renderer → r.engine.enabled = r'.engine.enabled →
        (s.perform (.expand html)).1 = (s'.perform (.expand html)).1) := by
  intro s s'
  have halike : s.ReadsLike s' := h.run htmls
  obtain ⟨hrenderer, henabled, hvocabulary⟩ := r.run_expand_keeps htmls
  obtain ⟨hrenderer', henabled', -⟩ := r'.run_expand_keeps htmls
  obtain ⟨hreached, hobstacle⟩ := halike.reach_eq html
  have hplaces : s.places html = s'.places html := by rw [places, places, hreached]
  refine ⟨?_, hplaces, hobstacle, fun hparents => ?_, fun hnone => ?_, fun hr hflag => ?_⟩
  · rw [perform_snd, perform_snd]
    exact (halike.expand html).engine.current
  · exact expandObstacle?_eq_none (hvocabulary ▸ hparents) html
  · have hnone' : s'.expandObstacle? html = none := hobstacle ▸ hnone
    refine ⟨s.length_fragments html, hplaces ▸ s'.length_fragments html,
      perform_expand_eq_replaceAt hnone, hplaces ▸ perform_expand_eq_replaceAt hnone',
      fun hdisabled => ?_, fun hdisabled => ?_⟩
    · exact perform_expand_of_disabled hnone (henabled.trans hdisabled)
    · exact hplaces ▸ perform_expand_of_disabled hnone' (henabled'.trans hdisabled)
  · have hwrites : s.engine.WritesLike s'.engine :=
      ⟨halike.engine, hrenderer.trans (hr.trans hrenderer'.symm),
        henabled.trans (hflag.trans henabled'.symm)⟩
    cases ho : s.expandObstacle? html with
    | none =>
      have hfragments : s.fragments html = s'.fragments html := by
        rw [fragments, fragments, hreached, hwrites.fragments_eq]
      rw [perform_expand_eq_replaceAt ho, perform_expand_eq_replaceAt (hobstacle ▸ ho), hplaces,
        hfragments]
    | some o =>
      have ho' : s'.expandObstacle? html = some o := hobstacle ▸ ho
      simp only [perform, fault?, ho, ho', Option.map_some]

/-- The second document, after a first one, for an expander of the other flavour that is disabled and
has a request left: the directive is deleted where the other expander replaces it. -/
theorem expand_of_readsLike_minimal :
    let request : Request := ⟨some "name", some "left", none, some "Thing", none⟩
    let r' : Expander :=
      { minimal with
        engine := ⟨⟨.rdfa, "https://schema.org"⟩, .rootOnly "Thing", false, "Thing", request⟩ }
    let s := minimal.run (["<p data-sd=Thing>"].map .expand)
    let s' := r'.run (["<p data-sd=Thing>"].map .expand)
    minimal.ReadsLike r' ∧ s.expandObstacle? "<b data-sd=Thing>" = none ∧
      s.places "<b data-sd=Thing>" = [(3, 16)] ∧
      s'.places "<b data-sd=Thing>" = [(3, 16)] ∧
      (s'.perform (.expand "<b data-sd=Thing>")).1 = .ok (.plain (.text (some "<b >"))) := by
  intro request r' s s'
  have halike : minimal.ReadsLike r' := ⟨rfl, fun _ => Iff.rfl, rfl, rfl⟩
  have hplaces : s.places "<b data-sd=Thing>" = [(3, 16)] := by decide +kernel
  have hnone : s.expandObstacle? "<b data-sd=Thing>" = none := by decide +kernel
  obtain ⟨-, heq, -, -, hwritten, -⟩ :=
    expand_of_readsLike halike ["<p data-sd=Thing>"] "<b data-sd=Thing>"
  obtain ⟨-, -, -, -, -, hdeleted⟩ := hwritten hnone
  have hdeleted := hdeleted rfl
  have hrest : Text.deleteAt "<b data-sd=Thing>" [(3, 16)] = "<b >" := by decide +kernel
  rw [hplaces, hrest] at hdeleted
  exact ⟨halike, hnone, hplaces, heq ▸ hplaces, hdeleted⟩

end Expander

end SchemaMarkup
