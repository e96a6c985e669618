import SchemaMarkup.Proofs.Expander.History
import SchemaMarkup.Proofs.Expander.OneTag
import SchemaMarkup.Proofs.Expander.SecondPass
import SchemaMarkup.Proofs.Text.LowerForm
import SchemaMarkup.Proofs.Text.Words

set_option autoImplicit false

/-!
# Which attributes are recognised

Suffixes are registered in lower case, and the name of an attribute is looked up in lower case. The
prefix is taken as it is. If it is in lower case, then a directive attribute is recognised in any
letter case. If it is not, then no attribute is recognised, not even one that is written exactly like
the name that is looked up.

## Main definitions

* `SchemaMarkup.Settings.Names` — the name of a directive attribute in any letter case.
* `SchemaMarkup.Expander.Command.Keeps` — a command that does not unregister a suffix.

## Main results

* `SchemaMarkup.Expander.mem_suffixes_run` — a suffix stays registered.
* `SchemaMarkup.Expander.mem_attributeNames_of_names`,
  `SchemaMarkup.Expander.names_of_mem_attributeNames` — which names are found when they are looked
  up.
* `SchemaMarkup.Expander.expand_recognised` — which attributes are replaced.
-/

namespace SchemaMarkup

/-! ## Names in any letter case -/

namespace Settings

variable {settings : Settings} {suffix : String} {name : List Char}

/-- The name, in any letter case, is that of the directive attribute with the suffix. -/
def Names (settings : Settings) (suffix : String) (name : List Char) : Prop :=
  Text.lowerChars name = Text.lowerChars (settings.attributeName suffix).toList

instance (settings : Settings) (suffix : String) (name : List Char) :
    Decidable (settings.Names suffix name) := inferInstanceAs (Decidable (_ = _))

lemma toList_attributeName (settings : Settings) (suffix : String) :
    (settings.attributeName suffix).toList =
      settings.attributePrefix.toList ++ '-' :: suffix.toList := by
  simp [attributeName]

/-- The prefix and the suffix of a name are lower-cased each by itself. -/
lemma lowerChars_attributeName (settings : Settings) (suffix : String) :
    Text.lowerChars (settings.attributeName suffix).toList =
      Text.lowerChars settings.attributePrefix.toList ++ '-' :: Text.lowerChars suffix.toList := by
  rw [toList_attributeName, Text.lowerChars_append_cons Text.separates_hyphen]

/-- A name that is a lower-case form has a prefix in lower case, and is a name in any letter case. -/
lemma of_lowerChars_eq (h : Text.lowerChars name = (settings.attributeName suffix).toList) :
    Text.lower settings.attributePrefix = settings.attributePrefix ∧ settings.Names suffix name := by
  have hlower : ∀ c ∈ (settings.attributeName suffix).toList, Text.IsLower c := by
    rw [← h]
    exact fun c hc => Text.isLower_of_mem_lowerChars hc
  constructor
  · rw [toList_attributeName] at hlower
    rw [Text.lower, Text.lowerChars_eq_self_iff.2 fun c hc => hlower c (List.mem_append_left _ hc),
      String.ofList_toList]
  · rw [Names, h, Text.lowerChars_eq_self_iff.2 hlower]

end Settings

/-! ## Registered suffixes -/

namespace Suffix

variable {registered : List String} {s : Option String} {ss : List (Option String)} {n : String}

/-- A suffix without white space is registered in lower case. -/
lemma normal_some {s : String} (h : ∀ c ∈ s.toList, Text.isBlank c = false) :
    normal (some s) = Text.lower s := by
  rw [normal, Option.getD_some, Text.strip, Text.stripChars_of_forall h, String.ofList_toList]

lemma addAll_cons (registered : List String) (s : Option String) (ss : List (Option String)) :
    addAll registered (s :: ss) = addAll (add registered s) ss := List.foldl_cons ..

lemma removeAll_cons (registered : List String) (s : Option String)
    (ss : List (Option String)) :
    removeAll registered (s :: ss) = removeAll (remove registered s) ss := List.foldl_cons ..

/-- What is registered stays registered when suffixes are. -/
lemma mem_addAll_of_mem (h : n ∈ registered) (ss : List (Option String)) :
    n ∈ addAll registered ss := by
  induction ss generalizing registered with
  | nil => exact h
  | cons s ss ih =>
    rw [addAll_cons]
    exact ih (mem_add_iff.2 (.inl h))

/-- Registering suffixes registers each that is not empty. -/
lemma mem_addAll (hs : s ∈ ss) (hne : normal s ≠ "") : normal s ∈ addAll registered ss := by
  induction ss generalizing registered with
  | nil => simp at hs
  | cons t ss ih =>
    rw [addAll_cons]
    rcases List.mem_cons.1 hs with rfl | hs
    · exact mem_addAll_of_mem (mem_add_iff.2 (.inr ⟨rfl, hne⟩)) ss
    · exact ih hs

/-- Unregistering other suffixes keeps a suffix. -/
lemma mem_removeAll (h : n ∈ registered) (hss : ∀ s ∈ ss, normal s ≠ n) :
    n ∈ removeAll registered ss := by
  induction ss generalizing registered with
  | nil => exact h
  | cons s ss ih =>
    have hn : n ∈ remove registered s :=
      (List.mem_erase_of_ne (hss s List.mem_cons_self).symm).2 h
    rw [removeAll_cons]
    exact ih hn fun t ht => hss t (List.mem_cons_of_mem s ht)

end Suffix

/-- **The place of a directive** is the first place that is one. -/
lemma Tag.directivePlace?_eq_some_iff {names : List String} {t : Tag} {x : Span} :
    t.directivePlace? names = some x ↔ ∃ xs ys, t.spans 1 = xs ++ x :: ys ∧
      x.isDirective names = true ∧ ∀ y ∈ xs, y.isDirective names = false := by
  have hfind : t.directivePlace? names = (t.spans 1).find? (Span.isDirective names) := rfl
  rw [hfind, List.find?_eq_some_iff_append]
  constructor
  · rintro ⟨hx, xs, ys, hspans, hxs⟩
    exact ⟨xs, ys, hspans, hx, fun y hy => by simpa using hxs y hy⟩
  · rintro ⟨xs, ys, hspans, hx, hxs⟩
    exact ⟨hx, xs, ys, hspans, fun y hy => by simpa using hxs y hy⟩

namespace Expander

variable {r : Expander} {c : Command} {cs : List Command} {s : String} {ss : List (Option String)}
  {name : List Char}

/-! ## Sessions -/

/-- The command does not unregister the suffix. -/
def Command.Keeps (s : Option String) : Command → Prop
  | .removeSuffixes ss => ∀ s' ∈ ss, Suffix.normal s' ≠ Suffix.normal s
  | _ => True

instance (s : Option String) (c : Command) : Decidable (c.Keeps s) :=
  match c with
  | .removeSuffixes _ => inferInstanceAs (Decidable (∀ s' ∈ _, _))
  | .setSemantic _ | .enable _ | .addSuffixes _ | .expand _ | .fragment _ | .semantic | .suffixes
  | .scanTag .. | .expandTag .. | .skipRaw .. | .engine _ => isTrue trivial

/-- A command that does not unregister a suffix keeps it registered. -/
lemma mem_suffixes_next {s : Option String} (h : Suffix.normal s ∈ r.suffixes)
    (hkeeps : c.Keeps s) : Suffix.normal s ∈ (r.next c).suffixes := by
  rw [(r.next_suffixes c).2]
  cases c with
  | addSuffixes ss =>
    rw [Command.steps, Suffix.foldl_add]
    exact Suffix.mem_addAll_of_mem h ss
  | removeSuffixes ss =>
    rw [Command.steps, Suffix.foldl_remove]
    exact Suffix.mem_removeAll h hkeeps
  | _ => exact h

/-- **A suffix stays registered** in every session that does not unregister it, and the settings stay
what they are. -/
theorem mem_suffixes_run {s : Option String} (h : Suffix.normal s ∈ r.suffixes)
    (hkeeps : ∀ c ∈ cs, c.Keeps s) :
    Suffix.normal s ∈ (r.run cs).suffixes ∧ (r.run cs).settings = r.settings := by
  induction cs generalizing r with
  | nil => exact ⟨h, rfl⟩
  | cons c cs ih =>
    obtain ⟨hmem, hsettings⟩ := ih (mem_suffixes_next h (hkeeps c List.mem_cons_self))
      fun c' hc' => hkeeps c' (List.mem_cons_of_mem c hc')
    exact ⟨hmem, hsettings.trans (r.next_suffixes c).1⟩

/-! ## Recognising -/

/-- A name that is looked up and found has a prefix in lower case and is that of a suffix. -/
theorem names_of_mem_attributeNames (h : String.ofList (Text.lowerChars name) ∈ r.attributeNames) :
    Text.lower r.settings.attributePrefix = r.settings.attributePrefix ∧
      ∃ n ∈ r.suffixes, r.settings.Names n name := by
  obtain ⟨n, hn, heq⟩ := List.mem_map.1 h
  have hname : Text.lowerChars name = (r.settings.attributeName n).toList := by
    rw [heq, String.toList_ofList]
  obtain ⟨hcase, hnames⟩ := Settings.of_lowerChars_eq hname
  exact ⟨hcase, n, hn, hnames⟩

/-- **With a prefix in lower case** the name of a directive attribute is found in any letter case. -/
theorem mem_attributeNames_of_names
    (hcase : Text.lower r.settings.attributePrefix = r.settings.attributePrefix)
    (hblank : ∀ c ∈ s.toList, Text.isBlank c = false) (hs : Suffix.normal (some s) ∈ r.suffixes)
    (hname : r.settings.Names s name) :
    String.ofList (Text.lowerChars name) ∈ r.attributeNames := by
  refine List.mem_map.2 ⟨_, hs, String.toList_inj.1 ?_⟩
  have hlower : Text.lowerChars r.settings.attributePrefix.toList =
      r.settings.attributePrefix.toList := by
    rw [← String.toList_inj, Text.lower, String.toList_ofList] at hcase
    exact hcase
  rw [String.toList_ofList, hname, Settings.lowerChars_attributeName, hlower,
    Settings.toList_attributeName, Suffix.normal_some hblank, Text.lower, String.toList_ofList]

/-- With any other prefix no attribute is a directive, and a document is copied. -/
lemma perform_expand_of_lower_ne
    (hcase : Text.lower r.settings.attributePrefix ≠ r.settings.attributePrefix)
    (html : String) : r.perform (.expand html) = (.ok (.plain (.text html)), r) := by
  have hnone : Segment.NoDirectives r.attributeNames (Segment.ofText html.toList) := by
    intro t _
    have hsplit : Tag.splitDirective? r.attributeNames t.attributes = none := by
      refine Tag.splitDirective?_eq_none fun e _ => ?_
      rw [Tag.isDirective, Bool.and_eq_false_iff, ← Bool.not_eq_true (List.contains _ _),
        List.contains_iff_mem]
      exact .inr fun hmem => hcase (names_of_mem_attributeNames hmem).1
    rw [Tag.directive?, hsplit]
    rfl
  obtain ⟨hexpand, hreach⟩ := Engine.expand_of_directives_nil (e := r.engine)
    (directives_eq_nil hnone)
  have hobstacle : r.expandObstacle? html = none := congrArg Prod.snd hreach
  have hsources : Piece.sources ((Segment.ofText html.toList).flatMap
      (Piece.ofSegment r.attributeNames)) = html.toList := Piece.sources_ofText _ _
  rw [perform_expand hobstacle, pieces, Piece.ofText, hexpand, hsources, String.ofList_toList]

/-- **Which attributes are replaced.** Take a suffix that is registered, not empty and without white
space, and not unregistered afterwards. If the prefix of the settings is in lower case, then the first
attribute of a tag that has a value and, in any letter case, the name of a registered suffix is
replaced, when it has the name of this suffix: it gives way to the fragment of its value, whatever
stands before the tag and after it. If the prefix is not in lower case, then no attribute of any
document is replaced.

**Proof sketch.** The hyphen keeps the letter case of the prefix and of the suffix apart
(`Text.lowerChars_append_cons`), so that a name in lower case is a prefix in lower case, a hyphen and
a suffix in lower case, which is how the suffix was registered. A prefix that is not in lower case
does not come up in any lower-case form (`Text.lowerChars_eq_self_iff`). -/
theorem expand_recognised (r₀ : Expander) (hs : some s ∈ ss) (hword : Text.IsWord s.toList)
    (hkeeps : ∀ c ∈ cs, c.Keeps (some s)) (html : String) :
    let r := (r₀.addSuffixes ss).run cs
    let p := r₀.settings.attributePrefix
    (Text.lower p = p → r.expandObstacle? html = none →
      ∀ before t after xs x ys, Segmentation html.toList (before ++ .tag t :: after) →
        t.spans 1 = xs ++ x :: ys → x.value.isSome = true → r₀.settings.Names s x.name →
        (∀ y ∈ xs, y.value.isSome = true → ∀ n ∈ r.suffixes, ¬r₀.settings.Names n y.name) →
        let first := Segment.rewriteAll r.attributeNames r.engine before
        let f := first.2.fragment (String.ofList (x.value.getD []))
        let rest := Segment.rewriteAll r.attributeNames f.2 after
        r.perform (.expand html) =
          (.ok (.plain (.text (String.ofList (first.1 ++
            (t.source.take x.start ++ f.1.toList ++ t.source.drop x.stop) ++ rest.1)))),
            { r with engine := rest.2 })) ∧
      (r.engine.vocabulary.ParentsNamed → r.expandObstacle? html = none) ∧
      (Text.lower p ≠ p → r.perform (.expand html) = (.ok (.plain (.text html)), r)) := by
  intro r p
  have hnormal : Suffix.normal (some s) ≠ "" := by
    intro h
    rw [Suffix.normal_some hword.2, Text.lower, ← String.toList_inj, String.toList_ofList] at h
    exact hword.1 ((Text.lowerChars_eq_nil_iff _).1 h)
  obtain ⟨hmem, hsettings⟩ := mem_suffixes_run (r := r₀.addSuffixes ss)
    (Suffix.mem_addAll hs hnormal) hkeeps
  have hsettings : r.settings = r₀.settings := hsettings
  refine ⟨fun hcase hnone before t after xs x ys hsegs hspans hvalue hname hearlier => ?_,
    fun h => expandObstacle?_eq_none h html, fun hcase => ?_⟩
  · have hx : x.isDirective r.attributeNames = true := by
      rw [Tag.Span.isDirective, hvalue, Bool.true_and, List.contains_iff_mem]
      exact mem_attributeNames_of_names (hsettings ▸ hcase) hword.2 hmem (hsettings ▸ hname)
    have hxs : ∀ y ∈ xs, y.isDirective r.attributeNames = false := by
      intro y hy
      rw [← Bool.not_eq_true, Tag.Span.isDirective, Bool.and_eq_true, List.contains_iff_mem]
      rintro ⟨hy', hfound⟩
      obtain ⟨-, n, hn, hnames⟩ := names_of_mem_attributeNames hfound
      exact hearlier y hy hy' n hn (hsettings ▸ hnames)
    have hplace := Tag.directivePlace?_eq_some_iff.2 ⟨xs, ys, hspans, hx, hxs⟩
    rw [perform_expand_of_segmentation hsegs hnone, Segment.rewriteAll_append, Segment.rewriteAll,
      Segment.rewrite, hplace]
    simp only [List.append_assoc]
  · exact perform_expand_of_lower_ne (hsettings ▸ hcase) html

/-- A suffix in capitals whose last letter has a form of its own at the end of a word. -/
theorem expand_recognised_minimal :
    let cs : List Command := [.removeSuffixes [some "sd"]]
    let r := (minimal.addSuffixes [some "ΟΔΟΣ"]).run cs
    let html := "<p id=a DATA-οδοΣ=Thing>"
    Text.IsWord "ΟΔΟΣ".toList ∧ (∀ c ∈ cs, c.Keeps (some "ΟΔΟΣ")) ∧
      r.suffixes = ["οδος"] ∧
      (r.perform (.expand html)).1 =
        .ok (.plain (.text "<p id=a itemscope itemtype='https://schema.org/Thing'>")) := by
  intro cs r html
  have hword : Text.IsWord "ΟΔΟΣ".toList := by decide +kernel
  have hkeeps : ∀ c ∈ cs, c.Keeps (some "ΟΔΟΣ") := by decide +kernel
  have hsuffixes : r.suffixes = ["οδος"] := by decide +kernel
  have hsegs : Segmentation html.toList ([] ++ .tag ⟨['p'],
      [([' '], ⟨['i', 'd'], some ⟨[], [], none, ['a']⟩⟩),
        ([' '], ⟨"DATA-οδοΣ".toList, some ⟨[], [], none, "Thing".toList⟩⟩)], []⟩ :: []) :=
    segmentation_iff.2 (by decide +kernel)
  have hs : some "ΟΔΟΣ" ∈ [some "ΟΔΟΣ"] := List.mem_cons_self
  obtain ⟨hexpand, -⟩ := expand_recognised minimal hs hword hkeeps html
  have hwritten := hexpand (by decide +kernel) (by decide +kernel) [] _ []
    [⟨['i', 'd'], some ['a'], 3, 7⟩] ⟨"DATA-οδοΣ".toList, some "Thing".toList, 8, 23⟩ [] hsegs
    (by decide +kernel) rfl (by decide +kernel) (by decide +kernel)
  refine ⟨hword, hkeeps, hsuffixes, ?_⟩
  rw [hwritten]
  decide +kernel

/-- The prefix is written in the document exactly as in the settings, and the directive, whose
fragment is another text, stays. -/
theorem exists_not_recognised :
    let settings : Settings := { Settings.standard with attributePrefix := "Data" }
    let r := { minimal with settings := settings, suffixes := [] }.addSuffixes [some "sd"]
    let html := "<p Data-sd=Thing>"
    ∃ t x, Segmentation html.toList [.tag t] ∧ t.spans 1 = [x] ∧
      x.name = (settings.attributeName "sd").toList ∧ settings.Names "sd" x.name ∧
      x.value = some "Thing".toList ∧
      (r.engine.fragment "Thing").1 = "itemscope itemtype='https://schema.org/Thing'" ∧
      (r.perform (.expand html)).1 = .ok (.plain (.text html)) := by
  refine ⟨⟨['p'], [([' '], ⟨"Data-sd".toList, some ⟨[], [], none, "Thing".toList⟩⟩)], []⟩,
    ⟨"Data-sd".toList, some "Thing".toList, 3, 16⟩, segmentation_iff.2 ?_, ?_, ?_, ?_, ?_, ?_, ?_⟩
  all_goals decide +kernel

end Expander

end SchemaMarkup
