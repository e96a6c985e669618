import SchemaMarkup.Proofs.Engine.Expand

set_option autoImplicit false

/-!
# Fragments hold names only

The text of a directive is whatever a page says, and nothing that is written is escaped. Still a
page cannot inject markup: of all that a directive says, only names that the vocabulary knows come
through. With names that hold neither apostrophes nor brackets, what is inserted into a document is
a list of attributes, and the reader of start tags finds exactly those.

## Main results

* `SchemaMarkup.Expander.fragments_hold_names_only` — what directives come to.
-/

namespace SchemaMarkup

namespace Expander

/-- **A page cannot inject markup through its directives.** If the current type is a type of the
vocabulary, it stays one after every directive, and what is written, if nothing is in the way, is a
property that the current type then has, an item of a type of the vocabulary, both, or nothing; it is
nothing if the engine is disabled. Nothing is in the way if the parents of all types are named. If
moreover no name holds an apostrophe or a bracket, then the fragment that is inserted for a directive
of a document holds no bracket and consists of attributes whose values stand between the only
apostrophes that there are.

**Proof sketch.** The candidate of a plan is a property of the current type, and the item behind it
is one of a resolved type (`Engine.fragment_writes`). Each of the four shapes is a list of
attributes (`Engine.Writes.marks`), which are read again (`Renderer.Marks.readAttributes`). The
engine that meets a directive within a document has the same vocabulary and renderer as the one that
begins with the document. -/
theorem fragments_hold_names_only (r : Expander)
    (hcurrent : r.engine.vocabulary.has r.engine.current = true) :
    (∀ d,
      let after := (r.engine.fragment d).2
      (r.engine.fragmentObstacle? d = none →
          after.Writes (r.engine.fragment d).1 ∧
            (r.engine.enabled = false → (r.engine.fragment d).1 = "")) ∧
        after.vocabulary = r.engine.vocabulary ∧ after.renderer = r.engine.renderer ∧
        after.vocabulary.has after.current = true ∧
        (r.engine.vocabulary.ParentsNamed → r.engine.fragmentObstacle? d = none)) ∧
    ((∀ c ∈ ['\'', '<', '>'], r.engine.NamesAvoid c) →
      ∀ html before a d after, r.reachedPieces html = before ++ .directive a d :: after →
        let inserted := ((r.engine.expand before).2.fragment d).1.toList
        (∃ rest, (r.expand html).1.toList = (r.engine.expand before).1 ++ inserted ++ rest) ∧
          '<' ∉ inserted ∧ '>' ∉ inserted ∧
          ∃ as, Renderer.Marks as ∧ inserted = Tag.attributesSource (Attribute.row [] as) ∧
            ∀ s, Tag.readAttributes (inserted ++ '>' :: s) =
              some ((Attribute.row [] as, []), s)) := by
  constructor
  · intro d
    refine ⟨fun _ => ⟨r.engine.fragment_writes d, fun h => Engine.fragment_of_disabled h d⟩,
      r.engine.fragment_vocabulary d, r.engine.fragment_renderer d, ?_,
      fun h => Engine.fragmentObstacle?_eq_none h d⟩
    rw [Engine.fragment_vocabulary, Engine.fragment_current]
    exact Engine.has_afterType hcurrent _
  · intro hnames html before a d after hpieces
    have hwrites := (r.engine.expand before).2.fragment_writes d
    have havoid : ∀ c ∈ ['\'', '<', '>'],
        ((r.engine.expand before).2.fragment d).2.NamesAvoid c :=
      fun c hc => ((hnames c hc).expand before).fragment d
    obtain ⟨as, has, htext⟩ := hwrites.marks (havoid '\'' (by simp))
    refine ⟨exists_expand_eq_append hpieces, hwrites.not_mem (.inl rfl) (havoid '<' (by simp)),
      hwrites.not_mem (.inr rfl) (havoid '>' (by simp)), as, has, htext, fun s => ?_⟩
    rw [htext]
    exact has.readAttributes s

/-- A directive that tries to close its tag writes an item of the type that it also names. -/
theorem fragments_hold_names_only_minimal :
    minimal.engine.vocabulary.has minimal.engine.current = true ∧
      (∀ c ∈ ['\'', '<', '>'], minimal.engine.NamesAvoid c) ∧
      minimal.engine.fragmentObstacle? "Thing '><b>" = none ∧
      (minimal.engine.fragment "Thing '><b>").1 =
        "itemscope itemtype='https://schema.org/Thing'" ∧
      (minimal.engine.fragment "Thing '><b>").2.Writes
        (minimal.engine.fragment "Thing '><b>").1 ∧
      '<' ∉ (minimal.engine.fragment "Thing '><b>").1.toList := by
  have hcurrent : minimal.engine.vocabulary.has minimal.engine.current = true :=
    minimal.engine.vocabulary.has_root
  have hnames : ∀ c ∈ ['\'', '<', '>'], minimal.engine.NamesAvoid c := by
    intro c hc
    simp only [List.mem_cons, List.not_mem_nil, or_false] at hc
    rcases hc with rfl | rfl | rfl
    · exact ⟨Vocabulary.namesAvoid_rootOnly (by decide), by decide +kernel⟩
    · exact ⟨Vocabulary.namesAvoid_rootOnly (by decide), by decide +kernel⟩
    · exact ⟨Vocabulary.namesAvoid_rootOnly (by decide), by decide +kernel⟩
  have hpieces : minimal.reachedPieces "<p data-sd=\"Thing '><b>\">" =
      [.copied ['<'], .copied ['p', ' ']] ++
        .directive ⟨"data-sd".toList, some ⟨[], [], some '"', "Thing '><b>".toList⟩⟩
          "Thing '><b>" :: [.copied ['>']] := by
    decide +kernel
  have hnone : minimal.engine.fragmentObstacle? "Thing '><b>" = none := by decide +kernel
  obtain ⟨hfragments, hinserted⟩ := fragments_hold_names_only minimal hcurrent
  exact ⟨hcurrent, hnames, hnone, by decide +kernel, ((hfragments _).1 hnone).1,
    (hinserted hnames _ _ _ _ _ hpieces).2.1⟩

end Expander

end SchemaMarkup
