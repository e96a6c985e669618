import SchemaMarkup.Proofs.Engine.Fragment
import SchemaMarkup.Proofs.Table

set_option autoImplicit false

/-!
# The meaning of a directive

What a directive comes to, told by its tokens in the order of their source and without the tables of
a plan. The last type that stands alone becomes current. Among the tokens of the current type, and
then among those of no type, the property that comes first and that the current type has is written,
with the type that the last token of that property expects.

## Main definitions

* `SchemaMarkup.Token.lastType?` — the type that tokens make current.
* `SchemaMarkup.Token.candidate?` — the property that tokens ask for.
* `SchemaMarkup.Engine.meaning` — what tokens come to.

## Main results

* `SchemaMarkup.Plan.candidate?_ofTokens` — the tables of a plan agree with the tokens.
* `SchemaMarkup.Engine.fragment_meaning` — what a directive comes to.
-/

namespace SchemaMarkup

namespace Token

/-! ## Reading tokens in order -/

/-- The token is a type and nothing else. -/
def isTypeOnly (t : Token) : Bool := t.type.isSome && t.property.isNone

/-- The type of the last token that is a type and nothing else. -/
def lastType? (ts : List Token) : Option String := (ts.reverse.find? isTypeOnly).bind (·.type)

/-- The tokens that give a property for the given type, or for no type. -/
def ofType (type : Option String) (ts : List Token) : List Token :=
  ts.filter fun t => t.type == type && t.property.isSome

/-- The valid property that comes first, with the type that its last token expects. -/
def firstValid? (valid : String → Bool) (ts : List Token) : Option (String × Option String) :=
  ((ts.filterMap (·.property)).find? valid).map fun p =>
    (p, (ts.reverse.find? fun t => t.property == some p).bind (·.expected))

/-- The property that tokens ask for: one that they give for the current type comes before one that
they give for no type. -/
def candidate? (v : Vocabulary) (current : String) (ts : List Token) :
    Option (String × Option String) :=
  (firstValid? (v.hasProperty current) (ofType (some current) ts)).or
    (firstValid? (v.hasProperty current) (ofType none ts))

/-- What a token offers to a table of candidates. -/
def offer? (t : Token) : Option (String × Option String) := t.property.map fun p => (p, t.expected)

/-- The candidates of tokens, each property at its first place with its last expected type. -/
def candidates (ts : List Token) : Candidates := Table.ofList (ts.filterMap offer?)

lemma lookup_filterMap_offer? (ts : List Token) (p : String) :
    (ts.filterMap offer?).lookup p =
      (ts.find? fun t => t.property == some p).map (·.expected) := by
  induction ts with
  | nil => rfl
  | cons t ts ih =>
    cases hp : t.property with
    | none => simp [offer?, hp, ih]
    | some q =>
      by_cases hq : p = q
      · subst hq
        simp [offer?, hp]
      · have hpq : (p == q) = false := by simpa using hq
        have hqp : (some q == some p) = false := by simpa using fun h => hq h.symm
        rw [List.filterMap_cons_some (b := (q, t.expected)) (by simp [offer?, hp]),
          List.lookup_cons, hpq, List.find?_cons, hp, hqp]
        exact ih

/-- Searching the candidates of tokens finds the valid property that comes first. -/
lemma find?_candidates (valid : String → Bool) (ts : List Token) :
    (candidates ts).find? (fun c => valid c.1) = firstValid? valid ts := by
  have hproperties : ts.filterMap (·.property) = (ts.filterMap offer?).map Prod.fst := by
    rw [List.map_filterMap]
    congr 1
    funext t
    cases hp : t.property <;> simp [offer?, hp]
  rw [candidates, Table.find?_ofList, firstValid?, hproperties, List.find?_map, Option.map_map]
  refine Option.map_congr fun c hc => ?_
  -- the property has a last token because it has one at all
  obtain ⟨t, ht, hoffer⟩ := List.mem_filterMap.1 (List.mem_of_find?_eq_some hc)
  obtain ⟨p, hp, rfl⟩ := Option.map_eq_some_iff.1 hoffer
  have hlast : (ts.reverse.find? fun t => t.property == some p).isSome = true := by
    rw [List.find?_isSome]
    exact ⟨t, List.mem_reverse.2 ht, by simp [hp]⟩
  obtain ⟨u, hu⟩ := Option.isSome_iff_exists.1 hlast
  rw [← List.filterMap_reverse, lookup_filterMap_offer?]
  simp [hu]

-- a property that comes again keeps its place and takes the type that is expected last
example : firstValid? (· != "a") [⟨none, some "a", none⟩, ⟨none, some "b", some "X"⟩,
    ⟨none, some "c", none⟩, ⟨none, some "b", some "Y"⟩] = some ("b", some "Y") := by decide

lemma lastType?_concat (ts : List Token) (t : Token) :
    lastType? (ts ++ [t]) = if t.isTypeOnly then t.type else lastType? ts := by
  rw [lastType?, List.reverse_append, List.reverse_singleton, List.singleton_append,
    List.find?_cons]
  cases t.isTypeOnly <;> rfl

lemma ofType_concat (type : Option String) (ts : List Token) (t : Token) :
    ofType type (ts ++ [t]) =
      if t.type = type ∧ t.property.isSome = true then ofType type ts ++ [t]
      else ofType type ts := by
  rw [ofType, List.filter_append, ← ofType]
  split
  · rename_i h
    simp [h.1, h.2]
  · rename_i h
    rw [List.filter_cons_of_neg (by simpa using h)]
    simp

lemma candidates_concat (ts : List Token) {t : Token} {p : String} (h : t.property = some p) :
    candidates (ts ++ [t]) = Table.put p t.expected (candidates ts) := by
  have hoffer : [t].filterMap offer? = [(p, t.expected)] := by simp [offer?, h]
  rw [candidates, List.filterMap_append, hoffer, Table.ofList_concat, ← candidates]

/-! ## Tokens of a directive -/

/-- What the token gives is not empty. -/
def IsSpelled (t : Token) : Prop :=
  Text.given t.type = t.type ∧ Text.given t.property = t.property ∧
    Text.given t.expected = t.expected

lemma isSpelled_blank : blank.IsSpelled := ⟨rfl, rfl, rfl⟩

lemma isSpelled_ofSegments (v : Vocabulary) {segs : List String} (h : ∀ a ∈ segs, a ≠ "") :
    (ofSegments v segs).IsSpelled := by
  have hgiven : ∀ a ∈ segs, Text.given (some a) = some a := by
    intro a ha
    simpa [Text.given] using h a ha
  have hnone : Text.given none = none := rfl
  unfold ofSegments
  split
  · split <;> simp [IsSpelled, hgiven, hnone]
  · split <;> simp [IsSpelled, hgiven, hnone]
  · simp [IsSpelled, hgiven]
  · exact isSpelled_blank

/-- A type that stands alone is a type of the vocabulary. -/
lemma has_of_isTypeOnly_ofSegments {v : Vocabulary} {segs : List String} {ty : String}
    (h : (ofSegments v segs).isTypeOnly = true) (hty : (ofSegments v segs).type = some ty) :
    v.has ty = true := by
  revert h hty
  unfold ofSegments
  split
  · split
    · rename_i ha
      intro _ hty
      obtain rfl := Option.some.inj hty
      exact ha
    · simp
  · split <;> simp [isTypeOnly]
  · simp [isTypeOnly]
  · simp [blank]

variable {v : Vocabulary} {d : String} {t : Token}

/-- What the tokens of a directive give is not empty. -/
lemma isSpelled_of_mem (h : t ∈ ofDirective v d) : t.IsSpelled := by
  obtain ⟨piece, -, rfl⟩ := List.mem_map.1 h
  rw [classify]
  split
  · exact isSpelled_blank
  · rename_i hempty
    apply isSpelled_ofSegments
    rintro a ha rfl
    obtain ⟨seg, hseg, hofList⟩ := List.mem_map.1 ha
    obtain rfl : seg = [] := by simpa using hofList
    exact hempty hseg

/-- The last type that stands alone is a type of the vocabulary. -/
lemma has_lastType? {ty : String} (h : lastType? (ofDirective v d) = some ty) :
    v.has ty = true := by
  obtain ⟨t, ht, hty⟩ := Option.bind_eq_some_iff.1 h
  have honly := List.find?_some ht
  have hmem := List.mem_reverse.1 (List.mem_of_find?_eq_some ht)
  obtain ⟨piece, -, rfl⟩ := List.mem_map.1 hmem
  rw [classify] at honly hty
  split at hty
  · simp [blank] at hty
  · rename_i hempty
    rw [if_neg hempty] at honly
    exact has_of_isTypeOnly_ofSegments honly hty

lemma given_lastType? {ts : List Token} (h : ∀ t ∈ ts, t.IsSpelled) :
    Text.given (lastType? ts) = lastType? ts := by
  rw [lastType?]
  cases ht : ts.reverse.find? isTypeOnly with
  | none => rfl
  | some t => exact (h t (List.mem_reverse.1 (List.mem_of_find?_eq_some ht))).1

/-- There is a last type that stands alone if there is any. -/
lemma isSome_lastType? (ts : List Token) : (lastType? ts).isSome = ts.any isTypeOnly := by
  rw [lastType?]
  cases ht : ts.reverse.find? isTypeOnly with
  | none =>
    rw [List.find?_eq_none] at ht
    symm
    rw [Option.bind_none, Option.isSome_none, List.any_eq_false]
    exact fun t hmem => ht t (List.mem_reverse.2 hmem)
  | some t =>
    have honly := List.find?_some ht
    have hmem := List.mem_reverse.1 (List.mem_of_find?_eq_some ht)
    have hany : ts.any isTypeOnly = true := List.any_eq_true.2 ⟨t, hmem, honly⟩
    rw [isTypeOnly, Bool.and_eq_true] at honly
    rw [hany]
    exact honly.1

lemma given_of_firstValid? {valid : String → Bool} {ts : List Token}
    {c : String × Option String} (h : ∀ t ∈ ts, t.IsSpelled) (hc : firstValid? valid ts = some c) :
    Text.given c.2 = c.2 := by
  obtain ⟨p, -, rfl⟩ := Option.map_eq_some_iff.1 hc
  simp only
  cases ht : ts.reverse.find? (fun t => t.property == some p) with
  | none => rfl
  | some t => exact (h t (List.mem_reverse.1 (List.mem_of_find?_eq_some ht))).2.2

/-- A type that is expected of what tokens ask for is not empty. -/
lemma given_of_candidate? {v : Vocabulary} {current : String} {ts : List Token}
    {c : String × Option String} (h : ∀ t ∈ ts, t.IsSpelled)
    (hc : candidate? v current ts = some c) : Text.given c.2 = c.2 := by
  have htype : ∀ type, ∀ t ∈ ofType type ts, t.IsSpelled :=
    fun type t ht => h t (List.mem_filter.1 ht).1
  rcases Option.or_eq_some_iff.1 hc with hc | ⟨-, hc⟩
  · exact given_of_firstValid? (htype _) hc
  · exact given_of_firstValid? (htype _) hc

end Token

namespace Plan

open Token (IsSpelled lastType? ofType candidates)

/-! ## The tables of a plan -/

lemma ofTokens_concat (ts : List Token) (t : Token) :
    ofTokens (ts ++ [t]) = (ofTokens ts).add t := by
  simp [ofTokens]

/-- **The tables of a plan** hold what the tokens say: the last type that stands alone, the
candidates of each type, and those of no type. -/
lemma tables_ofTokens {ts : List Token} (h : ∀ t ∈ ts, t.IsSpelled) :
    (ofTokens ts).setType = lastType? ts ∧
      (∀ ty, ((ofTokens ts).specialized.lookup ty).getD [] = candidates (ofType (some ty) ts)) ∧
      (ofTokens ts).shared = candidates (ofType none ts) := by
  induction ts using List.reverseRecOn with
  | nil => exact ⟨rfl, fun ty => rfl, rfl⟩
  | append_singleton ts t ih =>
    obtain ⟨htype, hproperty, -⟩ := h t (by simp)
    obtain ⟨hset, hspecialized, hshared⟩ := ih fun u hu => h u (by simp [hu])
    rw [ofTokens_concat, add, htype, hproperty, Token.lastType?_concat]
    simp only [Token.ofType_concat]
    cases hty : t.type with
    | none =>
      cases hpr : t.property with
      | none => simp [Token.isTypeOnly, hty, hset, hspecialized, hshared]
      | some pr => simp [Token.isTypeOnly, hty, hset, hspecialized, hshared,
          Token.candidates_concat _ hpr]
    | some ty =>
      cases hpr : t.property with
      | none => simp [Token.isTypeOnly, hty, hpr, hspecialized, hshared]
      | some pr =>
        refine ⟨by simpa [Token.isTypeOnly, hpr] using hset, fun ty' => ?_, by simpa using hshared⟩
        simp only [Table.lookup_put]
        by_cases hty' : ty = ty'
        · subst hty'
          simp [Token.candidates_concat _ hpr, hspecialized]
        · have hbeq : (ty' == ty) = false := by simpa using fun h => hty' h.symm
          simp [hbeq, hty', hspecialized]

/-- **The candidate of a plan** is the property that the tokens ask for. -/
theorem candidate?_ofTokens {ts : List Token} (h : ∀ t ∈ ts, t.IsSpelled) (v : Vocabulary)
    (current : String) :
    (ofTokens ts).candidate? v current = Token.candidate? v current ts := by
  obtain ⟨-, hspecialized, hshared⟩ := tables_ofTokens h
  rw [candidate?, candidatesFor, hspecialized, hshared, List.find?_append,
    Token.find?_candidates, Token.find?_candidates, Token.candidate?]

end Plan

namespace Engine

/-- What tokens come to when the engine writes markup: the property that they ask for, followed by
an item of the type that it expects if one is named. With no such property, the last type that
stands alone makes an item, and other tokens come to nothing. -/
def meaning (e : Engine) (ts : List Token) : String :=
  let current := (Token.lastType? ts).getD e.current
  match Token.candidate? e.vocabulary current ts with
  | some (p, some t) =>
    e.renderer.property p ++ " " ++ e.renderer.scope (e.vocabulary.resolve (some t))
  | some (p, none) => e.renderer.property p
  | none => if ts.any Token.isTypeOnly then e.renderer.scope current else ""

/-- The type that a directive makes current. -/
lemma afterType_ofDirective_current (e : Engine) (d : String) :
    (e.afterType (.ofDirective e.vocabulary d)).current =
      (Token.lastType? (Token.ofDirective e.vocabulary d)).getD e.current := by
  have hspelled : ∀ t ∈ Token.ofDirective e.vocabulary d, t.IsSpelled :=
    fun t => Token.isSpelled_of_mem
  obtain ⟨hset, -, -⟩ := Plan.tables_ofTokens hspelled
  rw [afterType_current, Plan.ofDirective, hset, Token.given_lastType? hspelled]
  cases htype : Token.lastType? (Token.ofDirective e.vocabulary d) with
  | none => rfl
  | some ty => simp [Vocabulary.resolve_of_has (Token.has_lastType? htype)]

/-- The fragment of a directive whose candidate can be told. -/
lemma fragment_eq_meaning {e : Engine} {d : String} (h : e.fragmentObstacle? d = none) :
    (e.fragment d).1 =
      if e.enabled then e.meaning (Token.ofDirective e.vocabulary d) else "" := by
  have hspelled : ∀ t ∈ Token.ofDirective e.vocabulary d, t.IsSpelled :=
    fun t => Token.isSpelled_of_mem
  obtain ⟨hset, -, -⟩ := Plan.tables_ofTokens hspelled
  rw [fragment, planFragment_eq h, afterType_ofDirective_current, afterType_vocabulary,
    Plan.ofDirective, Plan.candidate?_ofTokens hspelled, meaning]
  cases hc : Token.candidate? e.vocabulary
      ((Token.lastType? (Token.ofDirective e.vocabulary d)).getD e.current)
      (Token.ofDirective e.vocabulary d) with
  | some c =>
    have hgiven := Token.given_of_candidate? hspelled hc
    obtain ⟨p, expected⟩ := c
    simp only [candidateText, hgiven, afterType_enabled, afterType_renderer, afterType_vocabulary]
    cases expected <;> rfl
  | none =>
    have hcurrent := afterType_ofDirective_current e d
    have hnone : Text.given none = none := rfl
    rw [Plan.ofDirective] at hcurrent
    simp only [hset, Token.given_lastType? hspelled, Token.isSome_lastType?, scope, hnone,
      hcurrent, afterType_enabled, afterType_renderer]
    cases e.enabled <;> simp

end Engine

end SchemaMarkup
