import SchemaMarkup.Proofs.Expander.Recognition
import SchemaMarkup.Proofs.Expander.Session

set_option autoImplicit false

/-!
# The registered suffixes

At every moment of a session the suffixes of an expander are the ordered set that the additions and
removals since its making have left: the suffix of the settings and those it was made with, and then
the suffixes of every command. Nothing but this list decides which attributes are directives.

## Main definitions

* `SchemaMarkup.Expander.Recognises` — an attribute holds a directive.

## Main results

* `SchemaMarkup.Suffix.addAll_of_known`, `SchemaMarkup.Suffix.removeAll_of_notMem` — when nothing
  changes.
* `SchemaMarkup.Expander.isRegistry_run` — the suffixes of a session.
* `SchemaMarkup.Expander.directivePlace?_eq_some_iff` — where a directive is found.
* `SchemaMarkup.Expander.session_registry` — what holds at every moment of a session.
-/

namespace SchemaMarkup

namespace Suffix

variable {registered : List String} {ss : List (Option String)} {steps : List Step} {n : String}

/-- Registering what is registered changes nothing. -/
theorem addAll_of_known (h : ∀ s ∈ ss, normal s = "" ∨ normal s ∈ registered) :
    addAll registered ss = registered := by
  induction ss with
  | nil => rfl
  | cons s ss ih =>
    rw [addAll_cons, add_of_known (h s List.mem_cons_self)]
    exact ih fun s' hs' => h s' (List.mem_cons_of_mem s hs')

/-- Unregistering what is not registered changes nothing. -/
theorem removeAll_of_notMem (h : ∀ s ∈ ss, normal s ∉ registered) :
    removeAll registered ss = registered := by
  induction ss with
  | nil => rfl
  | cons s ss ih =>
    rw [removeAll_cons, remove, List.erase_of_not_mem (h s List.mem_cons_self)]
    exact ih fun s' hs' => h s' (List.mem_cons_of_mem s hs')

/-- Registered names are in lower case. -/
lemma IsRegistry.lowerChars_eq (h : IsRegistry steps registered) (hn : n ∈ registered) :
    Text.lowerChars n.toList = n.toList := by
  obtain ⟨i, hi, -⟩ := h.began n hn
  obtain ⟨s, -, rfl⟩ := hi.added
  rw [normal, Text.lower, String.toList_ofList]
  exact Text.lowerChars_eq_self_iff.2 fun c hc => Text.isLower_of_mem_lowerChars hc

end Suffix

namespace Expander

open Suffix (Step)

variable {settings : Settings} {v : Vocabulary} {semantic : Option String}
  {suffixes : List (Option String)} {enabled : Option Bool} {r r₀ : Expander}

/-! ## The suffixes of a session -/

/-- **The suffixes of a session** are the ordered set that its history leaves, from the making of the
expander on. -/
theorem isRegistry_run (hnew : new settings v semantic suffixes enabled = .ok r₀)
    (cs : List Command) :
    Suffix.IsRegistry
      ((some settings.defaultSuffix :: suffixes).map Step.add ++ cs.flatMap Command.steps)
      (r₀.run cs).suffixes := by
  obtain ⟨f, rfl⟩ := exists_of_new hnew
  rw [(suffixes_run _ cs).2, ← Suffix.foldl_add, ← List.foldl_append]
  exact Suffix.isRegistry_replay _

/-! ## Which attributes are directives -/

/-- The attribute holds a directive: it has a value, and its name in lower case is made of a
registered suffix. -/
def Recognises (r : Expander) (x : Tag.Span) : Prop :=
  x.value.isSome = true ∧
    ∃ n ∈ r.suffixes, Text.lowerChars x.name = (r.settings.attributeName n).toList

lemma isDirective_iff {x : Tag.Span} :
    x.isDirective r.attributeNames = true ↔ r.Recognises x := by
  rw [Tag.Span.isDirective, Bool.and_eq_true, List.contains_iff_mem, attributeNames, List.mem_map,
    Recognises]
  simp only [← String.toList_inj, String.toList_ofList, eq_comm]

/-- **A directive is found** in the first attribute of a tag that is recognised. -/
theorem directivePlace?_eq_some_iff {t : Tag} {x : Tag.Span} :
    t.directivePlace? r.attributeNames = some x ↔ ∃ xs ys, t.spans 1 = xs ++ x :: ys ∧
      r.Recognises x ∧ ∀ y ∈ xs, ¬r.Recognises y := by
  simp only [Tag.directivePlace?_eq_some_iff, ← isDirective_iff, Bool.not_eq_true]

/-- With a prefix in lower case the name of a registered suffix is recognised in any letter case. -/
lemma recognises_iff_names
    (hcase : Text.lower r.settings.attributePrefix = r.settings.attributePrefix)
    (hlower : ∀ n ∈ r.suffixes, Text.lowerChars n.toList = n.toList) {x : Tag.Span} :
    r.Recognises x ↔ x.value.isSome = true ∧ ∃ n ∈ r.suffixes, r.settings.Names n x.name := by
  have hfirst : Text.lowerChars r.settings.attributePrefix.toList =
      r.settings.attributePrefix.toList := by
    rwa [← String.toList_inj, Text.lower, String.toList_ofList] at hcase
  have hname : ∀ n ∈ r.suffixes, Text.lowerChars (r.settings.attributeName n).toList =
      (r.settings.attributeName n).toList := by
    intro n hn
    rw [Settings.lowerChars_attributeName, hfirst, hlower n hn, Settings.toList_attributeName]
  refine and_congr_right fun _ => exists_congr fun n => and_congr_right fun hn => ?_
  rw [Settings.Names, hname n hn]

/-- **The registered suffixes** are an ordered set of names at every moment of every session: none is
empty and none is twice in the list; a name is in it exactly if the last item about it, counted from
the making of the expander on, was registered; and the names stand in the order in which their present
memberships began. Registering what is registered and unregistering what is not changes nothing. A
document is written again for the names that this list makes: in each tag the first attribute is
replaced that has a value and one of these names. With a prefix in lower case these are the names of
the registered suffixes in any letter case.

**Proof sketch.** A session replays its history (`suffixes_run`), and what a step does to the list is
known (`Suffix.Step.apply_cases`, `Suffix.Step.mem_apply_iff`), so that membership and order follow by
induction on the history. -/
theorem session_registry (hnew : new settings v semantic suffixes enabled = .ok r₀)
    (cs : List Command) :
    let r := r₀.run cs
    let steps := (some settings.defaultSuffix :: suffixes).map Step.add ++ cs.flatMap Command.steps
    r.perform .suffixes = (.ok (.plain (.names r.suffixes)), r) ∧
      Suffix.IsRegistry steps r.suffixes ∧
      (∀ ss, (∀ s ∈ ss, Suffix.normal s = "" ∨ Suffix.normal s ∈ r.suffixes) →
        r.perform (.addSuffixes ss) = (.ok (.plain .done), r)) ∧
      (∀ ss, (∀ s ∈ ss, Suffix.normal s ∉ r.suffixes) →
        r.perform (.removeSuffixes ss) = (.ok (.plain .done), r)) ∧
      (∀ (html : String) segs, Segmentation html.toList segs → r.expandObstacle? html = none →
        let written := Segment.rewriteAll (r.suffixes.map settings.attributeName) r.engine segs
        r.perform (.expand html) =
          (.ok (.plain (.text (String.ofList written.1))), { r with engine := written.2 })) ∧
      (∀ (t : Tag) x, t.directivePlace? (r.suffixes.map settings.attributeName) = some x ↔
        ∃ xs ys, t.spans 1 = xs ++ x :: ys ∧ r.Recognises x ∧ ∀ y ∈ xs, ¬r.Recognises y) ∧
      r.settings = settings ∧
      (Text.lower settings.attributePrefix = settings.attributePrefix → ∀ x, r.Recognises x ↔
        x.value.isSome = true ∧ ∃ n ∈ r.suffixes, settings.Names n x.name) := by
  intro r steps
  have hregistry : Suffix.IsRegistry steps r.suffixes := isRegistry_run hnew cs
  have hsettings : r.settings = settings := by
    obtain ⟨f, rfl⟩ := exists_of_new hnew
    exact (suffixes_run _ cs).1
  rw [← hsettings]
  refine ⟨rfl, hregistry, fun ss hss => ?_, fun ss hss => ?_,
    fun html segs hsegs hnone => perform_expand_of_segmentation hsegs hnone,
    fun t x => directivePlace?_eq_some_iff, rfl,
    fun hcase x => recognises_iff_names hcase fun n hn => hregistry.lowerChars_eq hn⟩
  · simp only [perform, fault?, answer, next, addSuffixes, Suffix.addAll_of_known hss]
  · simp only [perform, fault?, answer, next, removeSuffixes, Suffix.removeAll_of_notMem hss]

/-- A suffix that is registered again goes behind those registered meanwhile. -/
theorem session_registry_minimal :
    let cs : List Command := [.addSuffixes [some " X ", none, some "x"], .removeSuffixes [some "SD"],
      .expand "<p data-x=Thing>", .addSuffixes [some "Sd", some "X"]]
    let r := minimal.run cs
    let steps := [some "sd"].map Step.add ++ cs.flatMap Command.steps
    new .standard (.rootOnly "Thing") (some "Microdata") [] (some true) = .ok minimal ∧
      r.suffixes = ["x", "sd"] ∧ Suffix.LastAdded steps "sd" ∧
      (∃ i j, Suffix.BeganAt steps "x" i ∧ Suffix.BeganAt steps "sd" j ∧ i < j) ∧
      r.perform (.addSuffixes [some "SD ", some ""]) = (.ok (.plain .done), r) ∧
      r.Recognises ⟨"DATA-X".toList, some [], 0, 0⟩ := by
  intro cs r steps
  have hsuffixes : r.suffixes = ["x", "sd"] := by decide +kernel
  obtain ⟨-, hregistry, hadd, -, -, -, -, hnames⟩ := session_registry new_eq_minimal cs
  have hx : "x" ∈ r.suffixes := by simp [hsuffixes]
  have hsd : "sd" ∈ r.suffixes := by simp [hsuffixes]
  obtain ⟨i, hi, -⟩ := hregistry.began "x" hx
  obtain ⟨j, hj, -⟩ := hregistry.began "sd" hsd
  have hordered := hregistry.ordered
  rw [hsuffixes] at hordered
  have hlt := (List.pairwise_cons.1 hordered).1 "sd" List.mem_cons_self i j hi hj
  have hknown : ∀ s ∈ [some "SD ", some ""], Suffix.normal s = "" ∨ Suffix.normal s ∈ r.suffixes := by
    rw [hsuffixes]
    decide +kernel
  exact ⟨new_eq_minimal, hsuffixes, (hregistry.mem_iff "sd" (by decide)).1 hsd, ⟨i, j, hi, hj, hlt⟩,
    hadd _ hknown, (hnames (by decide +kernel) _).2 ⟨rfl, "x", hx, by decide +kernel⟩⟩

end Expander

end SchemaMarkup
