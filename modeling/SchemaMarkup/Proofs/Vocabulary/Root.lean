import SchemaMarkup.Proofs.Vocabulary.Inheritance
import SchemaMarkup.Vocabulary.Definition

set_option autoImplicit false

/-!
# The way to the root

That every type but the root has a parent among the types does not mean that every type comes from
the root. On the way up each type but the root is followed by another one, so that the way either
comes to the root or runs into a circle. Circles are not looked for when a vocabulary is made, nor is
a parent of the root; the way up just stops before it repeats itself.

## Main results

* `SchemaMarkup.Vocabulary.getLast?_lineage_eq_root` — a root without a parent is the last ancestor.
* `SchemaMarkup.Vocabulary.exists_circle` — a way up that does not come to the root.
* `SchemaMarkup.Vocabulary.reaches_root_or_circles` — how the way up from a type ends.
-/

namespace SchemaMarkup.Vocabulary

variable {v : Vocabulary} {t : String}

/-- A root without a parent is the last ancestor of every type that comes from it. -/
theorem getLast?_lineage_eq_root (hroot : ∀ p, ¬v.Extends (.text v.root) p)
    (h : .text v.root ∈ v.lineage t) : (v.lineage t).getLast? = some (.text v.root) := by
  obtain ⟨before, after, hsplit⟩ := List.append_of_mem h
  have hchain := v.isChain_lineage t
  rw [hsplit, List.isChain_append] at hchain
  cases after with
  | nil => rw [hsplit, List.getLast?_concat]
  | cons p after =>
    rw [List.isChain_cons_cons] at hchain
    exact absurd hchain.2.1.1 (hroot p)

/-- **A way up that does not come to the root** comes back to one of its types. -/
theorem exists_circle (ht : v.has t = true) (h : .text v.root ∉ v.lineage t) :
    ∃ k p, (v.lineage t).getLast? = some k ∧ p ∈ v.lineage t ∧ v.Extends k p := by
  have hne : v.lineage t ≠ [] := by
    rw [lineage_eq ht]
    exact List.cons_ne_nil _ _
  have hmem := List.getLast_mem hne
  have hk : (v.lineage t).getLast hne ≠ .text v.root := by
    intro heq
    exact h (heq ▸ hmem)
  obtain ⟨p, hextends, hp⟩ := exists_extends_of_ne_root (v.hasKey_of_mem_climb hmem) hk
  exact ⟨_, p, List.getLast?_eq_some_getLast hne, parent_mem_lineage hmem hextends hp, hextends⟩

/-- **How the way up from a type ends**, in a vocabulary of named types whose root has no parent. It
ends at the root exactly if the root can be reached from the type, and then the type has every
property that the root declares. Otherwise it never comes to the root, and the parent of its last
type is on it.

**Proof sketch.** Every type on the way but the root has a parent among the types, which is on the
way too (`parent_mem_lineage`), so that a last type other than the root closes a circle
(`exists_circle`). Nothing follows the root (`getLast?_lineage_eq_root`). -/
theorem reaches_root_or_circles (hnames : v.has "" = false) (hextends : v.ExtendsNames)
    (hroot : v.parent (.text v.root) = .null) (ht : v.has t = true) :
    v.reply (.parent (some v.root)) = .ok (.name .null) ∧
      ∃ ns : List String, v.reply (.lineage (some t)) = .ok (.names (ns.map .text)) ∧
        (ns.getLast? = some v.root ↔
          Relation.ReflTransGen v.Extends (.text t) (.text v.root)) ∧
        (ns.getLast? = some v.root ∧
            (∀ p d, p ≠ "" → v.own? (.text v.root) p = some d →
              v.reply (.hasProperty (some t) (some p)) = .ok (.flag true)) ∨
          v.root ∉ ns ∧
            ∃ a b, ns.getLast? = some a ∧ b ∈ ns ∧ v.parent (.text a) = .text b) := by
  have hnonempty : t ≠ "" := by
    rintro rfl
    simp [hnames] at ht
  have hnoparent : ∀ p, ¬v.Extends (.text v.root) p := by
    intro p hp
    obtain ⟨name, rfl⟩ := hextends.exists_eq_text hp
    rw [extends_iff, hroot] at hp
    simp at hp
  obtain ⟨ns, hns, hanswer, -, -⟩ := exists_reply_lineage hextends ht
  have hmem : ∀ n, Key.text n ∈ v.lineage t ↔ n ∈ ns := by
    intro n
    rw [hns, List.mem_map_of_injective fun _ _ => Key.text.inj]
  have hlast : ∀ n, (v.lineage t).getLast? = some (.text n) ↔ ns.getLast? = some n := by
    intro n
    rw [hns, List.getLast?_map, Option.map_eq_some_iff]
    simp
  refine ⟨by rw [reply, obstacle?, answer, Option.map_some, Option.getD_some, hroot],
    ns, hanswer, ?_, ?_⟩
  · constructor
    · intro h
      exact (mem_lineage_iff.1 ((hmem _).2 (List.mem_of_getLast? h))).2
    · intro h
      exact (hlast _).1 (getLast?_lineage_eq_root hnoparent (mem_lineage_iff.2 ⟨v.has_root, h⟩))
  · by_cases hreach : Key.text v.root ∈ v.lineage t
    · refine .inl ⟨(hlast _).1 (getLast?_lineage_eq_root hnoparent hreach), fun p d hp hd => ?_⟩
      rw [reply_hasProperty hextends.parentsNamed, hasProperty_of_mem_lineage hnonempty hp hreach hd]
    · obtain ⟨k, l, hk, hl, hkl⟩ := exists_circle ht hreach
      obtain ⟨b, rfl⟩ := hextends.exists_eq_text hkl
      obtain ⟨a, ha, rfl⟩ := Option.map_eq_some_iff.1 (by rwa [hns, List.getLast?_map] at hk)
      exact .inr ⟨mt (hmem _).2 hreach, a, b, ha, (hmem _).1 hl, extends_iff.1 hkl⟩

/-- The way up from an egg ends at its hen, whose parent is the egg; that of the root is the root. -/
theorem reaches_root_or_circles_circular :
    circular.has "" = false ∧ circular.ExtendsNames ∧
      circular.parent (.text circular.root) = .null ∧ circular.has "Egg" = true ∧
      ¬Relation.ReflTransGen circular.Extends (.text "Egg") (.text "Thing") ∧
      circular.reply (.hasProperty (some "Thing") (some "url")) = .ok (.flag true) := by
  have hnames : circular.has "" = false := by decide +kernel
  have hextends : circular.ExtendsNames := by decide +kernel
  have hroot : circular.parent (.text circular.root) = .null := rfl
  have hegg : circular.has "Egg" = true := by decide +kernel
  obtain ⟨-, ns, hanswer, hreach, -⟩ := reaches_root_or_circles hnames hextends hroot hegg
  have hcircle : circular.reply (.lineage (some "Egg")) =
      .ok (.names (["Egg", "Hen"].map .text)) := rfl
  rw [hcircle, Except.ok.injEq, Reply.names.injEq,
    (List.map_injective_iff.2 fun _ _ => Value.text.inj).eq_iff] at hanswer
  obtain ⟨-, ns', -, hreach', hends | hends⟩ :=
    reaches_root_or_circles hnames hextends hroot circular.has_root
  · refine ⟨hnames, hextends, hroot, hegg, fun h => ?_, hends.2 "url" _ (by decide) rfl⟩
    have hlast := hreach.2 h
    rw [← hanswer] at hlast
    exact absurd hlast (by decide)
  · exact absurd (List.mem_of_getLast? (hreach'.2 .refl)) hends.1

/-- Two types that extend each other make a vocabulary in which neither comes from the root, and a
root may extend a type. -/
theorem exists_lineage_off_root :
    (∃ v, ofDefinitions
        [(.text "Thing", .map [(.text "properties", .map
            [(.text "name", .list [.text "Text"]), (.text "url", .list [.text "URL"])])]),
          (.text "Egg", .map [(.text "extends", .text "Hen"),
            (.text "properties", .map [(.text "name", .null)])]),
          (.text "Hen", .map [(.text "extends", .text "Egg"),
            (.text "properties", .map [(.text "laidBy", .list [.text "Hen"])])])] "Thing" = .ok v ∧
      v.reply (.lineage (some "Egg")) = .ok (.names [.text "Egg", .text "Hen"]) ∧
      (v.own? (.text "Thing") "url").isSome = true ∧
      v.reply (.hasProperty (some "Egg") (some "url")) = .ok (.flag false)) ∧
    ∃ v, ofDefinitions
        [(.text "Thing", .map [(.text "extends", .text "Hen")]),
          (.text "Hen", .map [(.text "extends", .text "Thing")])] "Thing" = .ok v ∧
      v.reply (.parent (some "Thing")) = .ok (.name (.text "Hen")) ∧
      v.reply (.lineage (some "Thing")) = .ok (.names [.text "Thing", .text "Hen"]) :=
  ⟨⟨circular, rfl, rfl, rfl, rfl⟩, ⟨_, rfl, rfl, rfl⟩⟩

end SchemaMarkup.Vocabulary
