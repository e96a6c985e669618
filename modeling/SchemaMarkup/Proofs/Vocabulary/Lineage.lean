import Mathlib.Data.List.Chain
import Mathlib.Data.List.Perm.Subperm
import SchemaMarkup.Proofs.Vocabulary.Names

set_option autoImplicit false

/-!
# Lineages

The way up from a type, told without the steps that are counted and the types that have been seen on
it. A lineage goes from each type to its parent and holds exactly the types that can be reached, also
where parents run in a circle. It is the type followed by the lineage of its parent, as far as that
does not come back to the type.

## Main definitions

* `SchemaMarkup.Vocabulary.Extends` — a type and its parent.
* `SchemaMarkup.Vocabulary.Ample` — the steps that are left suffice for all types not seen.

## Main results

* `SchemaMarkup.Vocabulary.climb_induction` — induction on the way up.
* `SchemaMarkup.Vocabulary.isChain_lineage` — each type is followed by its parent.
* `SchemaMarkup.Vocabulary.mem_lineage_iff` — the types of a lineage are those that can be reached.
* `SchemaMarkup.Vocabulary.lineage_of_extends` — the lineage of a type from that of its parent.
* `SchemaMarkup.Vocabulary.eq_nil_of_extends` — where the lineage of the parent comes back.
-/

namespace SchemaMarkup.Vocabulary

variable {v : Vocabulary} {n : Nat} {seen seen' : List Key} {o : Option Key} {k p x : Key}

/-- The first key is that of a type, and the second one is that of the parent which it declares. -/
def Extends (v : Vocabulary) (k p : Key) : Prop := v.parentKey? k = some p

/-- What extends something is a type. -/
lemma Extends.hasKey (h : v.Extends k p) : v.hasKey k = true := by
  obtain ⟨d, hd, -⟩ := Option.bind_eq_some_iff.1 h
  rw [Vocabulary.hasKey, hd]
  rfl

/-- The parent of a type other than the root is a type. -/
lemma exists_extends_of_ne_root (hk : v.hasKey k = true) (hroot : k ≠ .text v.root) :
    ∃ p, v.Extends k p ∧ v.hasKey p = true := by
  obtain ⟨d, hd⟩ := Option.isSome_iff_exists.1 hk
  obtain ⟨p, hp, hparent⟩ := v.parent_mem _ (mem_types_of_definition? hd) hroot
  refine ⟨p, ?_, (v.hasKey_iff_mem_keys p).2 hp⟩
  rw [Extends, parentKey?, hd]
  exact hparent

/-! ## Steps enough -/

/-- The types that have been seen are distinct types of the vocabulary, and `n` more steps suffice to
see all the others. -/
structure Ample (v : Vocabulary) (n : Nat) (seen : List Key) : Prop where
  nodup : seen.Nodup
  known : ∀ k ∈ seen, v.hasKey k = true
  steps : v.types.length ≤ seen.length + n

/-- As many steps as there are types suffice when none has been seen. -/
lemma ample_start (v : Vocabulary) : v.Ample v.types.length [] :=
  ⟨List.nodup_nil, by simp, by simp⟩

/-- A step that sees a new type leaves steps enough. -/
lemma Ample.step (h : v.Ample (n + 1) seen) (hk : v.hasKey k = true) (hnew : k ∉ seen) :
    v.Ample n (k :: seen) := by
  refine ⟨List.nodup_cons.2 ⟨hnew, h.nodup⟩, ?_, ?_⟩
  · rintro x (_ | ⟨_, hx⟩)
    · exact hk
    · exact h.known x hx
  · have hsteps := h.steps
    rw [List.length_cons]
    omega

/-- When no step is left, all types have been seen. -/
lemma Ample.mem_of_zero (h : v.Ample 0 seen) (hk : v.hasKey k = true) : k ∈ seen := by
  by_contra hnew
  have hnodup : (k :: seen).Nodup := List.nodup_cons.2 ⟨hnew, h.nodup⟩
  have hsubset : k :: seen ⊆ v.keys := by
    rintro x (_ | ⟨_, hx⟩)
    · exact (v.hasKey_iff_mem_keys k).1 hk
    · exact (v.hasKey_iff_mem_keys x).1 (h.known x hx)
  have hlength := (List.subperm_of_subset hnodup hsubset).length_le
  have hsteps := h.steps
  simp only [keys, Table.keys, List.length_cons, List.length_map] at hlength
  omega

/-! ## The way up -/

/-- What is met on the way up ends it, or is a type that has not been seen. -/
lemma stops_or_new (v : Vocabulary) (k : Key) (seen : List Key) :
    (v.hasKey k = true → k ∈ seen) ∨ v.hasKey k = true ∧ k ∉ seen := by
  by_cases h : v.hasKey k = true → k ∈ seen
  · exact .inl h
  · exact .inr (Classical.not_imp.1 h)

lemma climb_none (n : Nat) (seen : List Key) : v.climb n seen none = [] := by
  cases n <;> rfl

/-- The way up goes on from a type that has not been seen. -/
lemma climb_of_new (hk : v.hasKey k = true) (hnew : k ∉ seen) :
    v.climb (n + 1) seen (some k) = k :: v.climb n (k :: seen) (v.parentKey? k) := by
  rw [climb, if_pos (by simpa [hk] using hnew)]

/-- The way up ends at what is no type or has been seen. -/
lemma climb_of_stop (h : v.hasKey k = true → k ∈ seen) : v.climb n seen (some k) = [] := by
  cases n with
  | zero => rfl
  | succ n =>
    rw [climb, if_neg]
    intro hk
    simp only [Bool.and_eq_true, Bool.not_eq_true', List.contains_eq_mem, decide_eq_false_iff_not]
      at hk
    exact hk.2 (h hk.1)

/-- The way up begins where it is begun. -/
lemma eq_of_mem_head?_climb (hx : x ∈ (v.climb n seen o).head?) : o = some x := by
  cases o with
  | none => simp [climb_none] at hx
  | some k =>
    rcases v.stops_or_new k seen with hstop | ⟨hk, hnew⟩
    · simp [climb_of_stop hstop] at hx
    · cases n with
      | zero => simp [climb] at hx
      | succ n =>
        rw [climb_of_new hk hnew, List.head?_cons, Option.mem_some] at hx
        rw [hx]

/-- **Induction on the way up.** It ends where there is no parent, where no step is left, or at what is
no type or has been seen, and it goes on from a type that has not been seen. -/
theorem climb_induction (v : Vocabulary) {motive : Nat → List Key → Option Key → Prop}
    (none : ∀ n seen, motive n seen none) (zero : ∀ seen k, motive 0 seen (some k))
    (stop : ∀ n seen k, (v.hasKey k = true → k ∈ seen) → motive n seen (some k))
    (new : ∀ n seen k, v.hasKey k = true → k ∉ seen →
      motive n (k :: seen) (v.parentKey? k) → motive (n + 1) seen (some k))
    (n : Nat) (seen : List Key) (o : Option Key) : motive n seen o := by
  induction n generalizing seen o with
  | zero =>
    cases o with
    | none => exact none 0 seen
    | some k => exact zero seen k
  | succ n ih =>
    cases o with
    | none => exact none (n + 1) seen
    | some k =>
      rcases v.stops_or_new k seen with hstop | ⟨hk, hnew⟩
      · exact stop (n + 1) seen k hstop
      · exact new n seen k hk hnew (ih _ _)

/-- The way up goes from each type to its parent. -/
lemma isChain_climb (n : Nat) (seen : List Key) (o : Option Key) :
    (v.climb n seen o).IsChain v.Extends := by
  induction n, seen, o using v.climb_induction with
  | none n seen =>
    rw [climb_none]
    exact List.isChain_nil
  | zero seen k => exact List.isChain_nil
  | stop n seen k hstop =>
    rw [climb_of_stop hstop]
    exact List.isChain_nil
  | new n seen k hk hnew ih =>
    rw [climb_of_new hk hnew, List.isChain_cons]
    exact ⟨fun p hp => eq_of_mem_head?_climb hp, ih⟩

/-- What is met on the way up can be reached from where it is begun. -/
lemma exists_reaches_of_mem_climb (hx : x ∈ v.climb n seen o) :
    ∃ k ∈ o, Relation.ReflTransGen v.Extends k x := by
  induction n, seen, o using v.climb_induction with
  | none n seen => simp [climb_none] at hx
  | zero seen k => simp [climb] at hx
  | stop n seen k hstop => simp [climb_of_stop hstop] at hx
  | new n seen k hk hnew ih =>
    rw [climb_of_new hk hnew] at hx
    refine ⟨k, rfl, ?_⟩
    rcases List.mem_cons.1 hx with rfl | hx
    · exact .refl
    · obtain ⟨p, hp, hreach⟩ := ih hx
      exact .head hp hreach

/-- Where steps enough are left, the way up meets the type at which it is begun. -/
lemma Ample.mem_climb (h : v.Ample n seen) (hk : v.hasKey k = true) :
    k ∈ seen ∨ k ∈ v.climb n seen (some k) := by
  by_cases hnew : k ∈ seen
  · exact .inl hnew
  · cases n with
    | zero => exact .inl (h.mem_of_zero hk)
    | succ n =>
      rw [climb_of_new hk hnew]
      exact .inr List.mem_cons_self

/-- Where steps enough are left, the way up meets the parent of what it meets. -/
lemma Ample.parent_mem_climb (h : v.Ample n seen) (hx : x ∈ v.climb n seen o)
    (hparent : v.Extends x p) (hp : v.hasKey p = true) : p ∈ seen ∨ p ∈ v.climb n seen o := by
  induction n, seen, o using v.climb_induction with
  | none n seen => simp [climb_none] at hx
  | zero seen k => simp [climb] at hx
  | stop n seen k hstop => simp [climb_of_stop hstop] at hx
  | new n seen k hk hnew ih =>
    have hample := h.step hk hnew
    rw [climb_of_new hk hnew] at hx ⊢
    have hrest : p ∈ k :: seen ∨ p ∈ v.climb n (k :: seen) (v.parentKey? k) := by
      rcases List.mem_cons.1 hx with rfl | hx
      · rw [Extends] at hparent
        rw [hparent]
        exact hample.mem_climb hp
      · exact ih hample hx
    rcases hrest with hseen | hrest
    · rcases List.mem_cons.1 hseen with rfl | hseen
      · exact .inr List.mem_cons_self
      · exact .inl hseen
    · exact .inr (List.mem_cons_of_mem _ hrest)

/-- Steps that are not needed change nothing. -/
lemma Ample.climb_succ (h : v.Ample n seen) (o : Option Key) :
    v.climb (n + 1) seen o = v.climb n seen o := by
  induction n, seen, o using v.climb_induction with
  | none n seen => rw [climb_none, climb_none]
  | zero seen k => rw [climb_of_stop h.mem_of_zero, climb_of_stop h.mem_of_zero]
  | stop n seen k hstop => rw [climb_of_stop hstop, climb_of_stop hstop]
  | new n seen k hk hnew ih =>
    rw [climb_of_new hk hnew, climb_of_new hk hnew, ih (h.step hk hnew)]

/-- The order in which types have been seen does not matter. -/
lemma climb_congr (h : ∀ x, x ∈ seen ↔ x ∈ seen') (n : Nat) (o : Option Key) :
    v.climb n seen o = v.climb n seen' o := by
  induction n, seen, o using v.climb_induction generalizing seen' with
  | none n seen => rw [climb_none, climb_none]
  | zero seen k => rfl
  | stop n seen k hstop =>
    rw [climb_of_stop hstop, climb_of_stop fun hkey => (h k).1 (hstop hkey)]
  | new n seen k hk hnew ih =>
    have hcons : ∀ x, x ∈ k :: seen ↔ x ∈ k :: seen' := by
      intro x
      rw [List.mem_cons, List.mem_cons, h]
    rw [climb_of_new hk hnew, climb_of_new hk (mt (h k).2 hnew), ih hcons]

/-- **One more type that has been seen** cuts the way up in front of that type. -/
lemma climb_cons_seen (s : Key) (n : Nat) (seen : List Key) (o : Option Key) :
    v.climb n (s :: seen) o = (v.climb n seen o).takeWhile (· != s) := by
  induction n, seen, o using v.climb_induction with
  | none n seen =>
    rw [climb_none, climb_none]
    rfl
  | zero seen k => rfl
  | stop n seen k hstop =>
    rw [climb_of_stop hstop, climb_of_stop fun hkey => List.mem_cons_of_mem _ (hstop hkey)]
    rfl
  | new n seen k hk hnew ih =>
    rw [climb_of_new hk hnew]
    by_cases hs : k = s
    · subst hs
      rw [climb_of_stop fun _ => List.mem_cons_self, List.takeWhile_cons_of_neg (by simp)]
    · have hnew' : k ∉ s :: seen := by simp [hs, hnew]
      have hswap : ∀ x, x ∈ k :: s :: seen ↔ x ∈ s :: k :: seen := by
        intro x
        simp only [List.mem_cons, or_left_comm]
      rw [climb_of_new hk hnew', List.takeWhile_cons_of_pos (by simpa using hs),
        climb_congr hswap, ih]

/-! ## Lineages -/

variable {t q : String}

/-- A lineage is the type followed by the way up from its parent. -/
lemma lineage_eq (ht : v.has t = true) :
    v.lineage t = .text t :: v.climb v.types.length [.text t] (v.parentKey? (.text t)) := by
  rw [lineage]
  cases hlength : v.types.length with
  | zero =>
    have hmem := (v.hasKey_iff_mem_keys _).1 ht
    rw [keys, Table.keys, List.length_eq_zero_iff.1 hlength] at hmem
    simp at hmem
  | succ n =>
    have hample : v.Ample n [.text t] := (hlength ▸ v.ample_start).step ht List.not_mem_nil
    rw [climb_of_new ht List.not_mem_nil, hample.climb_succ]

/-- A type without a parent in the vocabulary has no ancestors. -/
lemma lineage_of_no_parent (ht : v.has t = true)
    (h : ∀ p, v.Extends (.text t) p → v.hasKey p = false) : v.lineage t = [.text t] := by
  rw [lineage_eq ht]
  cases hp : v.parentKey? (.text t) with
  | none => rw [climb_none]
  | some p => rw [climb_of_stop fun hk => absurd hk (by simp [h p hp])]

/-- Each type of a lineage is followed by its parent. -/
theorem isChain_lineage (v : Vocabulary) (t : String) : (v.lineage t).IsChain v.Extends :=
  isChain_climb _ _ _

/-- A lineage holds the parents of its types, as far as they are types. -/
lemma parent_mem_lineage (hk : k ∈ v.lineage t) (hparent : v.Extends k p)
    (hp : v.hasKey p = true) : p ∈ v.lineage t :=
  (v.ample_start.parent_mem_climb hk hparent hp).resolve_left List.not_mem_nil

/-- **A lineage holds the types that can be reached** from the type, and nothing else. -/
theorem mem_lineage_iff :
    x ∈ v.lineage t ↔ v.hasKey x = true ∧ Relation.ReflTransGen v.Extends (.text t) x := by
  constructor
  · intro hx
    obtain ⟨k, hk, hreach⟩ := exists_reaches_of_mem_climb hx
    obtain rfl := Option.some.inj hk
    exact ⟨v.hasKey_of_mem_climb hx, hreach⟩
  · rintro ⟨hx, hreach⟩
    induction hreach with
    | refl => exact (v.ample_start.mem_climb hx).resolve_left List.not_mem_nil
    | tail _ hparent ih => exact parent_mem_lineage (ih hparent.hasKey) hparent hx

/-- **The lineage of a type from that of its parent.** The type is followed by the lineage of the
parent, up to where that comes back to the type. -/
theorem lineage_of_extends (hparent : v.Extends (.text t) (.text q)) :
    v.lineage t = .text t :: (v.lineage q).takeWhile (· != .text t) := by
  rw [lineage_eq hparent.hasKey, hparent, climb_cons_seen]
  rfl

/-- Where the lineage of the parent comes back to the type it ends: the parent stands at its
beginning. -/
theorem eq_nil_of_extends (hparent : v.Extends (.text t) (.text q)) (hq : v.has q = true)
    {before after : List Key} (h : v.lineage q = before ++ .text t :: after) : after = [] := by
  cases after with
  | nil => rfl
  | cons p after =>
    have hchain := v.isChain_lineage q
    rw [h, List.isChain_append, List.isChain_cons_cons] at hchain
    obtain rfl : Key.text q = p := Option.some.inj (hparent.symm.trans hchain.2.1.1)
    -- the parent would stand behind the type as well as at the beginning
    have hnodup := v.nodup_lineage q
    rw [lineage_eq hq, List.nodup_cons] at hnodup
    have htail := congrArg List.tail ((lineage_eq hq).symm.trans h)
    rw [List.tail_cons] at htail
    refine absurd ?_ hnodup.1
    rw [htail]
    cases before with
    | nil => exact List.mem_cons_self
    | cons k before => simp

/-- A search that passes over a type finds on the lineage of its parent what it finds up to where
that comes back to the type. -/
lemma findSome?_lineage_of_extends {α : Type} (f : Key → Option α)
    (hparent : v.Extends (.text t) (.text q)) (hq : v.has q = true) (ht : f (.text t) = none) :
    (v.lineage t).findSome? f = (v.lineage q).findSome? f := by
  have hparts := List.takeWhile_append_dropWhile (p := (· != Key.text t)) (l := v.lineage q)
  have hrest : ((v.lineage q).dropWhile (· != .text t)).findSome? f = none := by
    cases hdrop : (v.lineage q).dropWhile (· != .text t) with
    | nil => rfl
    | cons k after =>
      have hk : k = .text t := by
        have hhead := List.head?_dropWhile_not (· != Key.text t) (v.lineage q)
        rw [hdrop] at hhead
        simpa using hhead
      subst hk
      rw [hdrop] at hparts
      rw [eq_nil_of_extends hparent hq hparts.symm, List.findSome?_cons, ht]
      rfl
  rw [lineage_of_extends hparent, List.findSome?_cons, ht]
  conv_rhs => rw [← hparts, List.findSome?_append, hrest, Option.or_none]

end SchemaMarkup.Vocabulary
