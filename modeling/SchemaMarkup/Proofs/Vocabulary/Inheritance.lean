import Mathlib.Data.List.Nodup
import SchemaMarkup.Proofs.Vocabulary.Expected
import SchemaMarkup.Proofs.Vocabulary.Lineage
import SchemaMarkup.Vocabulary.Query

set_option autoImplicit false

/-!
# Inheritance

What is answered about the properties of a type depends on the type's own declaration if it makes
one, whatever its ancestors declare, and on the answers for its parent if it makes none. That holds
also where parents run in a circle, although the ways up from a type and from its parent then end at
different types.

## Main definitions

* `SchemaMarkup.Vocabulary.ExtendsNames` — every type names its parent, or has none.
* `SchemaMarkup.Vocabulary.own?` — the declaration that a type makes itself.
* `SchemaMarkup.Vocabulary.Query.aboutProperties` — what can be asked about a property of a type.

## Main results

* `SchemaMarkup.Vocabulary.exists_reply_lineage` — the answer about the ancestors of a type.
* `SchemaMarkup.Vocabulary.declaration?_of_own`, `SchemaMarkup.Vocabulary.declaration?_of_extends` —
  the declaration that counts for a type.
* `SchemaMarkup.Vocabulary.inheritance` — the answers about a type from those about its parent.
-/

namespace SchemaMarkup

/-- Only a text has the key of a text. -/
lemma Value.eq_text_of_key? {x : Value} {s : String} (h : x.key? = some (.text s)) :
    x = text s := by
  cases x with
  | text s' => simpa using h
  | bool b => simp [key?] at h
  | float y => cases y <;> simp [key?] at h
  | pair a b =>
    rw [key?] at h
    split at h <;> simp at h
  | _ => simp [key?] at h

/-- The parent is given by its name, or not at all. -/
def TypeDef.extendsName (d : TypeDef) : Bool :=
  match d.parent with
  | .null => true
  | p => p.isName

lemma TypeDef.extendsName_iff {d : TypeDef} :
    d.extendsName = true ↔ d.parent = .null ∨ ∃ name, d.parent = .text name := by
  rw [extendsName]
  cases d.parent <;> simp [Value.isName]

namespace Vocabulary

variable {v : Vocabulary} {k l : Key} {t q p : String}

/-! ## Parents that are names -/

/-- Every type gives its parent by its name, or not at all. -/
def ExtendsNames (v : Vocabulary) : Prop := ∀ e ∈ v.types, e.2.extendsName = true

instance (v : Vocabulary) : Decidable v.ExtendsNames :=
  inferInstanceAs (Decidable (∀ e ∈ v.types, e.2.extendsName = true))

/-- A name can be a type. -/
lemma ExtendsNames.parentsNamed (h : v.ExtendsNames) : v.ParentsNamed := by
  intro e he
  rcases TypeDef.extendsName_iff.1 (h e he) with hparent | ⟨name, hparent⟩
  · simp [TypeDef.isAstray, hparent]
  · simp [TypeDef.isAstray, hparent]

/-- A parent that is a name is known by it. -/
lemma extends_iff : v.Extends k (.text q) ↔ v.parent k = .text q := by
  rw [Extends, parentKey?, parent]
  cases v.definition? k with
  | none => simp
  | some d =>
    rw [Option.bind_some, Option.map_some, Option.getD_some, TypeDef.parentKey?]
    constructor
    · intro h
      split at h
      · simp at h
      · exact Value.eq_text_of_key? h
    · intro h
      rw [h]
      exact Value.key?_text q

/-- What a type extends is given by a name. -/
lemma ExtendsNames.exists_eq_text (h : v.ExtendsNames) (hkl : v.Extends k l) :
    ∃ name, l = .text name := by
  obtain ⟨d, hd, hparent⟩ := Option.bind_eq_some_iff.1 hkl
  have hd' : d.extendsName = true := h _ (mem_types_of_definition? hd)
  rcases TypeDef.extendsName_iff.1 hd' with hnull | ⟨name, hname⟩
  · simp [TypeDef.parentKey?, hnull] at hparent
  · simp only [TypeDef.parentKey?, hname, Value.key?_text, Option.some.injEq] at hparent
    exact ⟨name, hparent.symm⟩

/-- The ancestors of a type are known by their names. -/
lemma ExtendsNames.exists_lineage_eq (h : v.ExtendsNames) (t : String) :
    ∃ ns : List String, v.lineage t = ns.map .text := by
  have hnames : ∀ k ∈ v.lineage t, ∃ name, Key.text name = k := by
    intro k hk
    rcases (mem_lineage_iff.1 hk).2.cases_tail with rfl | ⟨l, -, hlk⟩
    · exact ⟨t, rfl⟩
    · obtain ⟨name, rfl⟩ := h.exists_eq_text hlk
      exact ⟨name, rfl⟩
  generalize v.lineage t = ks at hnames
  induction ks with
  | nil => exact ⟨[], rfl⟩
  | cons k ks ih =>
    obtain ⟨name, rfl⟩ := hnames k List.mem_cons_self
    obtain ⟨ns, rfl⟩ := ih fun k hk => hnames k (List.mem_cons_of_mem _ hk)
    exact ⟨name :: ns, rfl⟩

/-- The ancestors of a type are named as they are where they are parents. -/
lemma map_parent_dropLast {ns : List String}
    (h : ns.IsChain fun a b => v.parent (.text a) = .text b) :
    (ns.map Key.text).dropLast.map v.parent = ns.tail.map Value.text := by
  induction ns with
  | nil => rfl
  | cons a ns ih =>
    cases ns with
    | nil => rfl
    | cons b ns =>
      rw [List.isChain_cons_cons] at h
      rw [List.map_cons, List.map_cons, List.dropLast_cons_cons, List.map_cons, h.1,
        ← List.map_cons, ih h.2]
      rfl

/-- **The answer about the ancestors of a type.** It begins with the type, and each name in it is
followed by the one that it gives as its parent. -/
theorem exists_reply_lineage (h : v.ExtendsNames) (ht : v.has t = true) :
    ∃ ns : List String, v.lineage t = ns.map .text ∧
      v.reply (.lineage (some t)) = .ok (.names (ns.map .text)) ∧ ns.head? = some t ∧
      ns.IsChain fun a b => v.parent (.text a) = .text b := by
  obtain ⟨ns, hns⟩ := h.exists_lineage_eq t
  have hchain := v.isChain_lineage t
  rw [hns, List.isChain_map] at hchain
  have hparents : ns.IsChain fun a b => v.parent (.text a) = .text b :=
    hchain.imp fun _ _ => extends_iff.1
  have hlineage := lineage_eq ht
  rw [hns] at hlineage
  cases ns with
  | nil => simp at hlineage
  | cons a ns =>
    obtain rfl : a = t := Key.text.inj (List.cons.inj hlineage).1
    refine ⟨a :: ns, hns, ?_, rfl, hparents⟩
    have hanswer : v.ancestry a = (a :: ns).map .text := by
      rw [ancestry, hns]
      exact congrArg (Value.text a :: ·) (map_parent_dropLast hparents)
    rw [reply, obstacle?, Option.bind_some, if_neg (by simp [isAstray_eq_false h.parentsNamed]),
      answer, Option.map_some, Option.getD_some, hanswer]

/-! ## Declarations -/

/-- The declaration of a property that a type makes itself. -/
def own? (v : Vocabulary) (k : Key) (p : String) : Option Property :=
  (v.definition? k).bind fun d => d.properties.lookup (.text p)

/-- The declaration that counts for a type is the first one that is made in its lineage. -/
lemma declaration?_eq (v : Vocabulary) (t p : String) :
    v.declaration? t p = (v.lineage t).findSome? fun k => v.own? k p := rfl

/-- **A type's own declaration counts**, whatever its ancestors declare. -/
theorem declaration?_of_own {d : Property} (h : v.own? (.text t) p = some d) :
    v.declaration? t p = some d := by
  have ht : v.has t = true := by
    obtain ⟨def', hdef, -⟩ := Option.bind_eq_some_iff.1 h
    rw [has, hasKey, hdef]
    rfl
  rw [declaration?_eq, lineage_eq ht, List.findSome?_cons, h]

/-- **A declaration is inherited** from the parent by a type that makes none itself. -/
theorem declaration?_of_extends (hparent : v.Extends (.text t) (.text q)) (hq : v.has q = true)
    (hown : v.own? (.text t) p = none) : v.declaration? t p = v.declaration? q p :=
  findSome?_lineage_of_extends (fun k => v.own? k p) hparent hq hown

/-- Without a parent nothing is inherited. -/
lemma declaration?_of_no_parent (ht : v.has t = true)
    (h : ∀ k, v.Extends (.text t) k → v.hasKey k = false) (hown : v.own? (.text t) p = none) :
    v.declaration? t p = none := by
  rw [declaration?_eq, lineage_of_no_parent ht h, List.findSome?_cons, hown]
  rfl

/-- A declaration that an ancestor makes gives the type the property. -/
lemma hasProperty_of_mem_lineage {d : Property} (ht : t ≠ "") (hp : p ≠ "")
    (hk : k ∈ v.lineage t) (hown : v.own? k p = some d) : v.hasProperty t p = true := by
  have hsome : (v.declaration? t p).isSome = true := by
    rw [declaration?_eq, List.findSome?_isSome_iff]
    exact ⟨k, hk, by rw [hown]; rfl⟩
  simp [hasProperty, ht, hp, hsome]

/-! ## Answers -/

/-- What can be asked about a property of a type. -/
def Query.aboutProperties : List (Option String → Option String → Query) :=
  [.hasProperty, .expectedTypes, .kind, .nestedType]

/-- It is answered whether a type has a property. -/
lemma reply_hasProperty (h : v.ParentsNamed) (t p : String) :
    v.reply (.hasProperty (some t) (some p)) = .ok (.flag (v.hasProperty t p)) := by
  simp [reply, obstacle?, answer, propertyObstacle?_eq_none h t p]

/-- **What is asked about a property of a type has an answer.** -/
lemma reply_aboutProperties (hextends : v.ExtendsNames) (hexpects : v.ExpectsNames)
    (t p : String) :
    v.reply (.hasProperty (some t) (some p)) = .ok (.flag (v.hasProperty t p)) ∧
      v.reply (.expectedTypes (some t) (some p)) = .ok (.names (v.expectedTypes t p)) ∧
      v.reply (.kind (some t) (some p)) = .ok (.text (v.kind t p).label) ∧
      v.reply (.nestedType (some t) (some p)) =
        .ok (.name ((v.nestedType? t p).getD .null)) := by
  have hparents := hextends.parentsNamed
  have hexpected := expectedObstacle?_eq_none hparents hexpects t p
  have hkind := kindObstacle?_eq_none hparents hexpects t p
  refine ⟨reply_hasProperty hparents t p, ?_⟩
  simp [reply, obstacle?, answer, expectedOf, kindOf_some, hexpected, hkind]

/-- What is answered about a property depends on the declaration that counts. -/
lemma reply_congr (hextends : v.ExtendsNames) (hexpects : v.ExpectsNames) (ht : t ≠ "")
    (hq : q ≠ "") (h : v.declaration? t p = v.declaration? q p) :
    ∀ ask ∈ Query.aboutProperties,
      v.reply (ask (some t) (some p)) = v.reply (ask (some q) (some p)) := by
  have hhas : v.hasProperty t p = v.hasProperty q p := by
    rw [hasProperty, hasProperty, bne_iff_ne.2 ht, bne_iff_ne.2 hq, h]
  have hexpected : v.expectedTypes t p = v.expectedTypes q p := by
    rw [expectedTypes, expectedTypes, h]
  have hkind : v.kind t p = v.kind q p := by rw [kind, kind, hexpected]
  have hnested : v.nestedType? t p = v.nestedType? q p := by
    rw [nestedType?, nestedType?, hkind, hexpected]
  obtain ⟨hhas₁, hexpected₁, hkind₁, hnested₁⟩ := reply_aboutProperties hextends hexpects t p
  obtain ⟨hhas₂, hexpected₂, hkind₂, hnested₂⟩ := reply_aboutProperties hextends hexpects q p
  intro ask hask
  simp only [Query.aboutProperties, List.mem_cons, List.not_mem_nil, or_false] at hask
  rcases hask with rfl | rfl | rfl | rfl
  · rw [hhas₁, hhas₂, hhas]
  · rw [hexpected₁, hexpected₂, hexpected]
  · rw [hkind₁, hkind₂, hkind]
  · rw [hnested₁, hnested₂, hnested]

/-- The types that a declaration expects are those that it lists. -/
lemma types_eq_getD {d : Property} (h : d.listsNames = true) :
    d.types = d.expected.items?.getD [] := by
  obtain ⟨name, expected⟩ := d
  cases expected with
  | null => rfl
  | list vs => exact Property.types_list name vs
  | _ => simp [Property.listsNames] at h

/-- A property has an item of its own exactly if it is nested, and then it is of the type that the
property expects first. -/
lemma nestedType?_spec (hexpects : v.ExpectsNames) (t p : String) :
    let item := (v.nestedType? t p).getD .null
    (item ≠ .null ↔ v.kind t p = .nested) ∧
      (v.kind t p = .nested → (v.expectedTypes t p).head? = some item) := by
  intro item
  cases hkind : v.kind t p with
  | nested =>
    obtain ⟨x, xs, hxs⟩ := List.exists_cons_of_ne_nil (expectedTypes_ne_nil_of_nested hkind)
    have hitem : item = x := by simp [item, nestedType?, hkind, hxs]
    obtain ⟨name, hname⟩ : ∃ name, x = .text name :=
      exists_name_of_mem_expectedTypes hexpects (t := t) (p := p) (by simp [hxs])
    rw [hitem, hxs, hname]
    simp
  | plain => simp [item, nestedType?, hkind]
  | machine => simp [item, nestedType?, hkind]

/-- **The law of inheritance**, for types that are named by texts that are not empty and properties
that list names, also where parents run in a circle. The ancestors of a type are the types that can
be reached from it, each once and behind the one whose parent it is. If the type declares a property
itself, it has the property and expects what it lists itself, nothing where the list is null. If it
does not, what is answered for it is what is answered for its parent; and if it has no parent in the
vocabulary, it has no such property. In every case there is an item of its own exactly if the
property is nested, and it is of the type that is expected first.

**Proof sketch.** The declaration that counts is the first one in the lineage. The lineage of a type
is the type followed by that of its parent, up to where that comes back to the type
(`lineage_of_extends`); it ends there (`eq_nil_of_extends`), so that nothing but the type itself is
left out. -/
theorem inheritance (hnames : v.has "" = false) (hextends : v.ExtendsNames)
    (hexpects : v.ExpectsNames) (ht : v.has t = true) :
    (∃ ns : List String, v.reply (.lineage (some t)) = .ok (.names (ns.map .text)) ∧
      ns.head? = some t ∧ ns.Nodup ∧ (ns.IsChain fun a b => v.parent (.text a) = .text b) ∧
      ∀ n, n ∈ ns ↔ v.has n = true ∧ Relation.ReflTransGen v.Extends (.text t) (.text n)) ∧
    ∀ p, p ≠ "" →
      (∀ d, v.own? (.text t) p = some d →
        v.reply (.hasProperty (some t) (some p)) = .ok (.flag true) ∧
        v.reply (.expectedTypes (some t) (some p)) =
          .ok (.names (d.expected.items?.getD []))) ∧
      (∀ q, v.own? (.text t) p = none → v.parent (.text t) = .text q → v.has q = true →
        ∀ ask ∈ Query.aboutProperties,
          v.reply (ask (some t) (some p)) = v.reply (ask (some q) (some p))) ∧
      (v.own? (.text t) p = none → (∀ q, v.parent (.text t) = .text q → v.has q = false) →
        v.reply (.hasProperty (some t) (some p)) = .ok (.flag false) ∧
        v.reply (.expectedTypes (some t) (some p)) = .ok (.names [])) ∧
      ∃ (kind : PropertyKind) (item : Value),
        v.reply (.kind (some t) (some p)) = .ok (.text kind.label) ∧
        v.reply (.nestedType (some t) (some p)) = .ok (.name item) ∧
        (item ≠ .null ↔ kind = .nested) ∧
        (kind = .nested → ∃ types, types.head? = some item ∧
          v.reply (.expectedTypes (some t) (some p)) = .ok (.names types)) := by
  have hnonempty : ∀ {n : String}, v.has n = true → n ≠ "" := by
    rintro n hn rfl
    simp [hnames] at hn
  constructor
  · obtain ⟨ns, hns, hanswer, hhead, hchain⟩ := exists_reply_lineage hextends ht
    refine ⟨ns, hanswer, hhead, ?_, hchain, fun n => ?_⟩
    · have hnodup := v.nodup_lineage t
      rw [hns] at hnodup
      exact List.Nodup.of_map _ hnodup
    · rw [has, ← mem_lineage_iff, hns, List.mem_map_of_injective fun _ _ => Key.text.inj]
  · intro p hp
    obtain ⟨hhas, hexpected, hkind, hnested⟩ := reply_aboutProperties hextends hexpects t p
    rw [hhas, hexpected, hkind, hnested]
    refine ⟨fun d hd => ?_, fun q hown hparent hq => ?_, fun hown hparent => ?_, ?_⟩
    · have hcounts := declaration?_of_own hd
      simp [hasProperty, expectedTypes, hcounts, hnonempty ht, hp,
        types_eq_getD (hexpects.declaration? hcounts)]
    · exact reply_congr hextends hexpects (hnonempty ht) (hnonempty hq)
        (declaration?_of_extends (extends_iff.2 hparent) hq hown)
    · have hnone : ∀ k, v.Extends (.text t) k → v.hasKey k = false := by
        intro k hk
        obtain ⟨q, rfl⟩ := hextends.exists_eq_text hk
        exact hparent q (extends_iff.1 hk)
      simp [hasProperty, expectedTypes, declaration?_of_no_parent ht hnone hown]
    · obtain ⟨hitem, hhead⟩ := nestedType?_spec hexpects t p
      exact ⟨_, _, rfl, rfl, hitem, fun hkind => ⟨_, hhead hkind, rfl⟩⟩

/-- Two types that extend each other, beside the root. -/
def circular : Vocabulary where
  root := "Thing"
  types :=
    [(.text "Thing", ⟨.text "Thing", .null,
        [(.text "name", ⟨.text "name", .list [.text "Text"]⟩),
          (.text "url", ⟨.text "url", .list [.text "URL"]⟩)]⟩),
      (.text "Egg", ⟨.text "Egg", .text "Hen",
        [(.text "name", ⟨.text "name", .null⟩)]⟩),
      (.text "Hen", ⟨.text "Hen", .text "Egg",
        [(.text "laidBy", ⟨.text "laidBy", .list [.text "Hen"]⟩)]⟩)]
  nodup_keys := by decide +kernel
  root_mem := by decide +kernel
  parent_mem := by decide +kernel

/-- An egg has no property of its own that tells its hen, but its parent has. -/
theorem inheritance_circular :
    circular.has "" = false ∧ circular.ExtendsNames ∧ circular.ExpectsNames ∧
      circular.has "Egg" = true ∧ circular.own? (.text "Egg") "laidBy" = none ∧
      circular.reply (.expectedTypes (some "Egg") (some "name")) = .ok (.names []) ∧
      circular.reply (.nestedType (some "Egg") (some "laidBy")) =
        circular.reply (.nestedType (some "Hen") (some "laidBy")) := by
  have hnames : circular.has "" = false := by decide +kernel
  have hextends : circular.ExtendsNames := by decide +kernel
  have hexpects : circular.ExpectsNames := by decide +kernel
  have hegg : circular.has "Egg" = true := by decide +kernel
  have hown : circular.own? (.text "Egg") "laidBy" = none := by rfl
  obtain ⟨-, hlaw⟩ := inheritance hnames hextends hexpects hegg
  obtain ⟨hname, -⟩ := hlaw "name" (by decide)
  obtain ⟨-, hlaid, -⟩ := hlaw "laidBy" (by decide)
  exact ⟨hnames, hextends, hexpects, hegg, hown, (hname _ rfl).2,
    hlaid "Hen" hown rfl (by decide +kernel) _ (by simp [Query.aboutProperties])⟩

end Vocabulary

end SchemaMarkup
