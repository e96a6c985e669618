import Mathlib.Data.List.Induction
import SchemaMarkup.Expander.Command

set_option autoImplicit false

/-!
# Histories of suffixes

The suffixes that are registered are told by the history of their additions and removals: which
names are in the list by the last step about each of them, and in which order by the addition that
began the present membership of each.

## Main definitions

* `SchemaMarkup.Suffix.Step` — an addition or a removal, and `SchemaMarkup.Suffix.replay` what is
  registered after a history.
* `SchemaMarkup.Suffix.LastAdded` — the last step about a name is an addition.
* `SchemaMarkup.Suffix.BeganAt` — the addition that began the present membership of a name.
* `SchemaMarkup.Suffix.IsRegistry` — a list is the ordered set that a history makes.
* `SchemaMarkup.Expander.Command.steps` — the additions and removals of a command.

## Main results

* `SchemaMarkup.Suffix.mem_replay_iff` — which names are registered.
* `SchemaMarkup.Suffix.pairwise_replay` — in which order.
* `SchemaMarkup.Expander.suffixes_run` — the suffixes of an expander are those of its history.
-/

namespace SchemaMarkup

namespace Suffix

/-- Registering an empty suffix, or one that is registered, changes nothing. -/
lemma add_of_known {registered : List String} {s : Option String}
    (h : normal s = "" ∨ normal s ∈ registered) : add registered s = registered := by
  simp only [add]
  rw [if_pos (by simpa using h)]

/-- Any other suffix is put at the end. -/
lemma add_of_new {registered : List String} {s : Option String}
    (h : ¬(normal s = "" ∨ normal s ∈ registered)) :
    add registered s = registered ++ [normal s] := by
  simp only [add]
  rw [if_neg (by simpa using h)]

/-- One suffix is registered or unregistered. -/
inductive Step where
  | add (s : Option String)
  | remove (s : Option String)
  deriving DecidableEq, Repr

namespace Step

/-- The name that a step is about. -/
def name : Step → String
  | add s => normal s
  | remove s => normal s

/-- The step is an addition. -/
def isAdd : Step → Bool
  | add _ => true
  | remove _ => false

/-- What is registered after a step. -/
def apply (registered : List String) : Step → List String
  | add s => Suffix.add registered s
  | remove s => Suffix.remove registered s

variable {registered : List String} {x : Step} {n : String}

lemma eq_add_of_isAdd (h : x.isAdd = true) : ∃ s, x = add s ∧ normal s = x.name := by
  cases x with
  | add s => exact ⟨s, rfl, rfl⟩
  | remove s => simp [isAdd] at h

/-- **What a step does to the list**: it puts a new name at its end, or takes names out at most. -/
lemma apply_cases (registered : List String) (x : Step) :
    (x.apply registered).Sublist registered ∨
      x.isAdd = true ∧ x.name ∉ registered ∧ x.apply registered = registered ++ [x.name] := by
  cases x with
  | add s =>
    by_cases h : normal s = "" ∨ normal s ∈ registered
    · rw [apply, add_of_known h]
      exact .inl (List.Sublist.refl _)
    · rw [apply, add_of_new h]
      exact .inr ⟨rfl, fun hmem => h (.inr hmem), rfl⟩
  | remove s =>
    rw [apply, Suffix.remove]
    exact .inl List.erase_sublist

lemma nodup_apply (x : Step) (h : registered.Nodup) : (x.apply registered).Nodup := by
  cases x with
  | add s =>
    rw [apply]
    exact nodup_add s h
  | remove s =>
    rw [apply]
    exact nodup_remove s h

/-- A step decides about the name it is about and about no other. -/
lemma mem_apply_iff (h : registered.Nodup) (hn : n ≠ "") :
    n ∈ x.apply registered ↔ x.name = n ∧ x.isAdd = true ∨ x.name ≠ n ∧ n ∈ registered := by
  cases x with
  | add s =>
    rw [apply, mem_add_iff]
    by_cases heq : normal s = n
    · simp [name, isAdd, heq, hn]
    · simp [name, isAdd, heq, Ne.symm heq]
  | remove s =>
    rw [apply, mem_remove_iff h]
    simp [name, isAdd, and_comm, eq_comm]

/-- No step registers the empty name. -/
lemma empty_notMem_apply (h : "" ∉ registered) : "" ∉ x.apply registered := by
  cases x with
  | add s => simpa [apply, mem_add_iff] using h
  | remove s => exact fun hmem => h (List.mem_of_mem_erase hmem)

end Step

/-! ## Membership -/

/-- What is registered after a history. -/
def replay (steps : List Step) : List String := steps.foldl Step.apply []

variable {registered : List String} {steps : List Step} {x : Step} {n : String} {i j : Nat}

lemma foldl_add (registered : List String) (ss : List (Option String)) :
    (ss.map Step.add).foldl Step.apply registered = addAll registered ss := by
  rw [List.foldl_map]
  rfl

lemma foldl_remove (registered : List String) (ss : List (Option String)) :
    (ss.map Step.remove).foldl Step.apply registered = removeAll registered ss := by
  rw [List.foldl_map]
  rfl

lemma replay_append_singleton (steps : List Step) (x : Step) :
    replay (steps ++ [x]) = x.apply (replay steps) := by
  rw [replay, List.foldl_append]
  rfl

lemma nodup_replay (steps : List Step) : (replay steps).Nodup := by
  induction steps using List.reverseRecOn with
  | nil => exact List.nodup_nil
  | append_singleton steps x ih =>
    rw [replay_append_singleton]
    exact x.nodup_apply ih

lemma empty_notMem_replay (steps : List Step) : "" ∉ replay steps := by
  induction steps using List.reverseRecOn with
  | nil => exact List.not_mem_nil
  | append_singleton steps x ih =>
    rw [replay_append_singleton]
    exact Step.empty_notMem_apply ih

/-- Of the steps about a name, the last one is an addition. -/
def LastAdded (steps : List Step) (n : String) : Prop :=
  (steps.filter (·.name == n)).getLast?.any Step.isAdd = true

instance (steps : List Step) (n : String) : Decidable (LastAdded steps n) :=
  inferInstanceAs (Decidable (_ = true))

lemma lastAdded_append_singleton :
    LastAdded (steps ++ [x]) n ↔
      x.name = n ∧ x.isAdd = true ∨ x.name ≠ n ∧ LastAdded steps n := by
  rw [LastAdded, LastAdded, List.filter_append]
  by_cases h : x.name = n <;> simp [h]

/-- **A name is registered** if it is not empty and the last step about it is an addition. -/
theorem mem_replay_iff : n ∈ replay steps ↔ n ≠ "" ∧ LastAdded steps n := by
  by_cases hn : n = ""
  · subst hn
    simp [empty_notMem_replay]
  · simp only [ne_eq, hn, not_false_eq_true, true_and]
    induction steps using List.reverseRecOn with
    | nil => simp [replay, LastAdded]
    | append_singleton steps x ih =>
      rw [replay_append_singleton, Step.mem_apply_iff (nodup_replay steps) hn, ih,
        lastAdded_append_singleton]

/-! ## Order -/

/-- The step at the index `i` is the addition that began the present membership of a name: before it
the name was not registered, and it has been ever since. -/
structure BeganAt (steps : List Step) (n : String) (i : Nat) : Prop where
  added : ∃ s, steps[i]? = some (.add s) ∧ normal s = n
  absent : ¬LastAdded (steps.take i) n
  since : ∀ k ≤ steps.length, i < k → LastAdded (steps.take k) n

lemma BeganAt.lt_length (h : BeganAt steps n i) : i < steps.length := by
  obtain ⟨s, hs, -⟩ := h.added
  exact (List.getElem?_eq_some_iff.1 hs).1

lemma BeganAt.le (h : BeganAt steps n i) (h' : BeganAt steps n j) : j ≤ i :=
  Nat.le_of_not_lt fun hlt => h'.absent (h.since j (Nat.le_of_lt h'.lt_length) hlt)

/-- A membership has one beginning. -/
lemma BeganAt.unique (h : BeganAt steps n i) (h' : BeganAt steps n j) : i = j :=
  Nat.le_antisymm (h'.le h) (h.le h')

/-- A step that keeps a name registered leaves the beginning of its membership where it was. -/
lemma beganAt_append_singleton (h : LastAdded steps n) (h' : LastAdded (steps ++ [x]) n) :
    BeganAt (steps ++ [x]) n i ↔ BeganAt steps n i := by
  have htake : ∀ k ≤ steps.length, (steps ++ [x]).take k = steps.take k :=
    fun k hk => List.take_append_of_le_length hk
  constructor
  · intro hi
    have hlt : i < steps.length := by
      have hle : i ≤ steps.length := by simpa using Nat.lt_succ_iff.1 (by simpa using hi.lt_length)
      refine Nat.lt_of_le_of_ne hle ?_
      rintro rfl
      exact hi.absent (by rwa [List.take_left])
    obtain ⟨s, hs, hname⟩ := hi.added
    refine ⟨⟨s, by rwa [List.getElem?_append_left hlt] at hs, hname⟩, ?_, fun k hk hik => ?_⟩
    · rw [← htake i (Nat.le_of_lt hlt)]
      exact hi.absent
    · rw [← htake k hk]
      exact hi.since k (by simpa using Nat.le_succ_of_le hk) hik
  · intro hi
    have hlt := hi.lt_length
    obtain ⟨s, hs, hname⟩ := hi.added
    refine ⟨⟨s, by rwa [List.getElem?_append_left hlt], hname⟩, ?_, fun k hk hik => ?_⟩
    · rw [htake i (Nat.le_of_lt hlt)]
      exact hi.absent
    · by_cases hle : k ≤ steps.length
      · rw [htake k hle]
        exact hi.since k hle hik
      · rwa [List.take_of_length_le (by simpa using Nat.succ_le_of_lt (Nat.lt_of_not_le hle))]

/-- A step that registers a name is the beginning of its membership. -/
lemma beganAt_length (h : ¬LastAdded steps n) (h' : LastAdded (steps ++ [x]) n) :
    BeganAt (steps ++ [x]) n steps.length := by
  obtain ⟨hname, hadd⟩ : x.name = n ∧ x.isAdd = true :=
    (lastAdded_append_singleton.1 h').resolve_right fun hold => h hold.2
  obtain ⟨s, rfl, hs⟩ := Step.eq_add_of_isAdd hadd
  refine ⟨⟨s, by simp, hs.trans hname⟩, by rwa [List.take_left], fun k _ hk => ?_⟩
  rwa [List.take_of_length_le (by simpa using Nat.succ_le_of_lt hk)]

/-- The membership of a registered name has a beginning. -/
lemma exists_beganAt (h : LastAdded steps n) : ∃ i, BeganAt steps n i := by
  induction steps using List.reverseRecOn with
  | nil => simp [LastAdded] at h
  | append_singleton steps x ih =>
    by_cases hbefore : LastAdded steps n
    · obtain ⟨i, hi⟩ := ih hbefore
      exact ⟨i, (beganAt_append_singleton hbefore h).2 hi⟩
    · exact ⟨steps.length, beganAt_length hbefore h⟩

/-- **Names are in the order** in which their present memberships began.

**Proof sketch.** Induction on the history from its end. Names that were registered before the last
step and still are have begun where they had (`beganAt_append_singleton`), and a step takes names out
or puts one behind the others (`Step.apply_cases`), whose membership begins with it. -/
theorem pairwise_replay (steps : List Step) :
    (replay steps).Pairwise fun m n => ∀ i j, BeganAt steps m i → BeganAt steps n j → i < j := by
  induction steps using List.reverseRecOn with
  | nil => exact List.Pairwise.nil
  | append_singleton steps x ih =>
    have hstay : ∀ {m i}, m ∈ replay steps → BeganAt (steps ++ [x]) m i → BeganAt steps m i := by
      intro m i hm hi
      have hlast := hi.since _ (Nat.le_refl _) hi.lt_length
      rw [List.take_length] at hlast
      exact (beganAt_append_singleton (mem_replay_iff.1 hm).2 hlast).1 hi
    have hbefore : (replay steps).Pairwise fun m n =>
        ∀ i j, BeganAt (steps ++ [x]) m i → BeganAt (steps ++ [x]) n j → i < j :=
      ih.imp_of_mem fun hm hn hlt i j hi hj => hlt i j (hstay hm hi) (hstay hn hj)
    rw [replay_append_singleton]
    rcases x.apply_cases (replay steps) with hsub | ⟨-, hnew, happly⟩
    · exact hbefore.sublist hsub
    · rw [happly, List.pairwise_append]
      refine ⟨hbefore, List.pairwise_singleton _ _, fun m hm n hn i j hi hj => ?_⟩
      obtain rfl := List.mem_singleton.1 hn
      have hmem : x.name ∈ replay (steps ++ [x]) := by
        rw [replay_append_singleton, happly]
        simp
      obtain ⟨hne, hadded⟩ := mem_replay_iff.1 hmem
      have hlength := beganAt_length (fun h => hnew (mem_replay_iff.2 ⟨hne, h⟩)) hadded
      rw [hj.unique hlength]
      exact (hstay hm hi).lt_length

/-- The list is the set of names that a history leaves, in the order in which their present
memberships began. -/
structure IsRegistry (steps : List Step) (registered : List String) : Prop where
  nodup : registered.Nodup
  nonempty : "" ∉ registered
  mem_iff : ∀ n, n ≠ "" → (n ∈ registered ↔ LastAdded steps n)
  began : ∀ n ∈ registered, ∃! i, BeganAt steps n i
  ordered : registered.Pairwise fun m n =>
    ∀ i j, BeganAt steps m i → BeganAt steps n j → i < j

/-- What is registered after a history is the ordered set that it leaves. -/
lemma isRegistry_replay (steps : List Step) : IsRegistry steps (replay steps) where
  nodup := nodup_replay steps
  nonempty := empty_notMem_replay steps
  mem_iff n hn := by rw [mem_replay_iff, and_iff_right hn]
  began n hn := by
    obtain ⟨i, hi⟩ := exists_beganAt (mem_replay_iff.1 hn).2
    exact ⟨i, hi, fun j hj => hj.unique hi⟩
  ordered := pairwise_replay steps

end Suffix

namespace Expander

open Suffix (Step)

/-! ## Histories of expanders -/

/-- The suffixes that a command registers or unregisters, one after another. -/
def Command.steps : Command → List Step
  | .addSuffixes ss => ss.map .add
  | .removeSuffixes ss => ss.map .remove
  | _ => []

/-- Only registering and unregistering change the suffixes, and nothing changes the settings. -/
lemma next_suffixes (r : Expander) (c : Command) :
    (r.next c).settings = r.settings ∧
      (r.next c).suffixes = c.steps.foldl Step.apply r.suffixes := by
  cases c with
  | setSemantic s =>
    rw [next, setSemantic]
    cases engineFor r.settings r.vocabulary r.enabled s with
    | error u => exact ⟨rfl, rfl⟩
    | ok e => exact ⟨rfl, rfl⟩
  | addSuffixes ss =>
    rw [Command.steps, Suffix.foldl_add]
    exact ⟨rfl, rfl⟩
  | removeSuffixes ss =>
    rw [Command.steps, Suffix.foldl_remove]
    exact ⟨rfl, rfl⟩
  | fragment d => simp only [next, fragment, Command.steps, List.foldl_nil, and_self]
  | expandTag html start names =>
    rw [next]
    split <;> exact ⟨rfl, rfl⟩
  | _ => exact ⟨rfl, rfl⟩

/-- A session goes on with the history of its commands. -/
theorem suffixes_run (r : Expander) (cs : List Command) :
    (r.run cs).settings = r.settings ∧
      (r.run cs).suffixes = (cs.flatMap Command.steps).foldl Step.apply r.suffixes := by
  induction cs generalizing r with
  | nil => exact ⟨rfl, rfl⟩
  | cons c cs ih =>
    obtain ⟨hsettings, hsuffixes⟩ := r.next_suffixes c
    obtain ⟨hsettings', hsuffixes'⟩ := ih (r.next c)
    refine ⟨hsettings'.trans hsettings, ?_⟩
    rw [List.flatMap_cons, List.foldl_append, ← hsuffixes]
    exact hsuffixes'

end Expander

end SchemaMarkup
