import SchemaMarkup.Proofs.Markup.Scan
import SchemaMarkup.Renderer.Basic

set_option autoImplicit false

/-!
# Written attributes

What a renderer writes, read as attributes of a start tag. A property is one attribute, an item is
two, and their values stand between apostrophes as they are. Values that hold no apostrophe make
attributes that fit before any text, so that the reader of start tags finds them again.

## Main definitions

* `SchemaMarkup.Attribute.row` — attributes with one space between them.
* `SchemaMarkup.Renderer.propertyAttribute`, `SchemaMarkup.Renderer.scopeAttributes` — the
  attributes that are written.
* `SchemaMarkup.Renderer.Marks` — attributes as a renderer writes them.

## Main results

* `SchemaMarkup.Renderer.marks_property`, `SchemaMarkup.Renderer.marks_scope` — the attributes of
  properties and items.
* `SchemaMarkup.Renderer.Marks.readAttributes` — what is written is read as those attributes.
-/

namespace SchemaMarkup

namespace Attribute

/-- An attribute with no value. -/
def bare (name : String) : Attribute := ⟨name.toList, none⟩

/-- An attribute with its value between apostrophes. -/
def quoted (name value : String) : Attribute :=
  ⟨name.toList, some ⟨[], [], some '\'', value.toList⟩⟩

/-- Attributes with the gap before the first one and one space before each other one. -/
def row (gap : List Char) : List Attribute → List (List Char × Attribute)
  | [] => []
  | a :: as => (gap, a) :: row [' '] as

lemma map_entry_row (gap : List Char) (as : List Attribute) :
    (row gap as).map (fun e => e.2.entry) = as.map entry := by
  induction as generalizing gap with
  | nil => rfl
  | cons a as ih => rw [row, List.map_cons, List.map_cons, ih]

@[simp] lemma source_bare (name : String) : (bare name).source = name.toList := by
  simp [bare, source]

@[simp] lemma source_quoted (name value : String) :
    (quoted name value).source = name.toList ++ '=' :: '\'' :: (value.toList ++ ['\'']) := by
  simp [quoted, source, Assignment.source]

/-- An attribute with a value between apostrophes fits before every text. -/
lemma fits_quoted {name value : String} (hname : ∀ c ∈ name.toList, isNameChar c = true)
    (hvalue : '\'' ∉ value.toList) (s : List Char) : (quoted name value).Fits s := by
  have hafter : Text.IsRun Text.isBlank [] ('\'' :: (value.toList ++ ['\''] ++ s)) :=
    Text.isRun_cons (by simp) (by decide)
  exact ⟨hname, by simp, by simpa using hafter, by decide, hvalue⟩

/-- An attribute with no value fits before a space and another attribute. -/
lemma fits_bare {name : String} (hname : ∀ c ∈ name.toList, isNameChar c = true) {c : Char}
    (hc : isNameChar c = true) (s : List Char) : (bare name).Fits (' ' :: c :: s) := by
  refine ⟨Text.isRun_cons hname (by decide), ?_⟩
  have hblank : ¬Text.isBlank c = true := fun h => by simp [isNameChar_of_isBlank h] at hc
  rw [List.dropWhile_cons_of_pos (by decide), List.dropWhile_cons_of_neg hblank,
    List.head?_cons, ne_eq, Option.some.injEq]
  rintro rfl
  exact absurd hc (by decide)

end Attribute

namespace Renderer

open Attribute (bare quoted row)

/-- The names of the attributes that are written. -/
def markNames : List String :=
  ["itemprop", "itemscope", "itemtype", "property", "typeof", "vocab"]

/-- The attribute that declares a property. -/
def propertyAttribute (r : Renderer) (p : String) : Attribute :=
  match r.flavour with
  | .microdata => quoted "itemprop" p
  | .rdfa => quoted "property" p

/-- The attributes that declare an item of a type. -/
def scopeAttributes (r : Renderer) (t : String) : List Attribute :=
  match r.flavour with
  | .microdata => [bare "itemscope", quoted "itemtype" (r.baseUrl ++ "/" ++ t)]
  | .rdfa => [quoted "vocab" r.baseUrl, quoted "typeof" t]

variable {r : Renderer} {p t : String} {as bs : List Attribute}

/-! ## Attributes that are given -/

lemma property_ne_empty (r : Renderer) (p : String) : r.property p ≠ "" := by
  intro h
  have hlist := congrArg String.toList h
  obtain ⟨flavour, url⟩ := r
  cases flavour <;> simp [property, toString] at hlist

lemma scope_ne_empty (r : Renderer) (t : String) : r.scope t ≠ "" := by
  intro h
  have hlist := congrArg String.toList h
  obtain ⟨flavour, url⟩ := r
  cases flavour <;> simp [scope, toString] at hlist

/-- The attributes of a property alone. -/
lemma attributes_property (r : Renderer) (hp : p ≠ "") (propertyFirst : Bool) :
    r.attributes (some p) none propertyFirst = r.property p := by
  rw [attributes, Text.given_some hp]
  cases propertyFirst <;> rfl

/-- The attributes of an item alone. -/
lemma attributes_scope (r : Renderer) (ht : t ≠ "") (propertyFirst : Bool) :
    r.attributes none (some t) propertyFirst = r.scope t := by
  rw [attributes, Text.given_some ht]
  cases propertyFirst <;> rfl

/-- The attributes of a property and an item, in the order that is asked for. -/
lemma attributes_both (r : Renderer) (hp : p ≠ "") (ht : t ≠ "") (propertyFirst : Bool) :
    r.attributes (some p) (some t) propertyFirst =
      if propertyFirst then r.property p ++ " " ++ r.scope t
      else r.scope t ++ " " ++ r.property p := by
  rw [attributes, Text.given_some hp, Text.given_some ht]
  cases propertyFirst <;> rfl

/-! ## Written attributes -/

/-- The text of a property is that of its attribute. -/
lemma toList_property (r : Renderer) (p : String) :
    (r.property p).toList = Tag.attributesSource (row [] [r.propertyAttribute p]) := by
  obtain ⟨flavour, url⟩ := r
  cases flavour <;> simp [property, propertyAttribute, row, toString]

/-- The text of an item is that of its attributes. -/
lemma toList_scope (r : Renderer) (t : String) :
    (r.scope t).toList = Tag.attributesSource (row [] (r.scopeAttributes t)) := by
  obtain ⟨flavour, url⟩ := r
  cases flavour <;> simp [scope, scopeAttributes, row, toString]

/-- The text of a property with an item is that of their attributes. -/
lemma toList_property_scope (r : Renderer) (p t : String) :
    (r.property p ++ " " ++ r.scope t).toList =
      Tag.attributesSource (row [] (r.propertyAttribute p :: r.scopeAttributes t)) := by
  rw [String.toList_append, String.toList_append, toList_property, toList_scope, scopeAttributes]
  split <;> simp [row]

/-- A property is written without brackets if its name holds none. -/
lemma not_mem_property {c : Char} (hc : c = '<' ∨ c = '>') (hp : c ∉ p.toList) :
    c ∉ (r.property p).toList := by
  obtain ⟨flavour, url⟩ := r
  rcases hc with rfl | rfl <;> cases flavour <;> simpa [property, toString] using hp

/-- An item is written without brackets if its type and the address hold none. -/
lemma not_mem_scope {c : Char} (hc : c = '<' ∨ c = '>') (hurl : c ∉ r.baseUrl.toList)
    (ht : c ∉ t.toList) : c ∉ (r.scope t).toList := by
  obtain ⟨flavour, url⟩ := r
  rcases hc with rfl | rfl <;> cases flavour <;> simpa [scope, toString] using ⟨hurl, ht⟩

/-- Attributes as a renderer writes them: under the names that it uses, with values that hold no
apostrophe between two of them. They fit before every text. -/
structure Marks (as : List Attribute) : Prop where
  names : ∀ a ∈ as, String.ofList a.name ∈ markNames
  values : ∀ a ∈ as, ∀ m ∈ a.assignment, m = ⟨[], [], some '\'', m.value⟩ ∧ '\'' ∉ m.value
  fits : ∀ gap s, (∀ c ∈ gap, Tag.isGapChar c = true) → Tag.AttributesFit (row gap as) s

/-- The names that are written are made of letters that belong to names of attributes. -/
lemma isNameChar_of_mem_markNames {name : String} (h : name ∈ markNames) :
    ∀ c ∈ name.toList, Attribute.isNameChar c = true := by
  have hall : (markNames.all fun n => n.toList.all Attribute.isNameChar) = true := by decide
  exact List.all_eq_true.1 (List.all_eq_true.1 hall name h)

lemma begins_of_mem_markNames {a : Attribute} (h : String.ofList a.name ∈ markNames) :
    ∃ c, a.source.head? = some c ∧ Attribute.isNameChar c = true := by
  have hname := isNameChar_of_mem_markNames h
  have hne : ∀ n ∈ markNames, n.toList ≠ [] := by decide
  have hne := hne _ h
  rw [String.toList_ofList] at hname hne
  obtain ⟨c, cs, hc⟩ := List.exists_cons_of_ne_nil hne
  refine ⟨c, by simp [Attribute.source, hc], hname c ?_⟩
  rw [hc]
  exact List.mem_cons_self

lemma isGapChar_of_mem_space {c : Char} (h : c ∈ [' ']) : Tag.isGapChar c = true := by
  obtain rfl : c = ' ' := by simpa using h
  decide

/-- No attribute at all is written where nothing is. -/
lemma marks_nil : Marks [] := ⟨by simp, by simp, fun _ _ _ => trivial⟩

/-- An attribute with a value that holds no apostrophe. -/
lemma marks_quoted {name value : String} (hname : name ∈ markNames)
    (hvalue : '\'' ∉ value.toList) : Marks [quoted name value] := by
  refine ⟨by simpa [quoted] using hname, by simpa [quoted] using hvalue, fun gap s hgap => ?_⟩
  obtain ⟨c, hc, hchar⟩ := begins_of_mem_markNames (a := quoted name value)
    (by simpa [quoted] using hname)
  exact ⟨hgap, ⟨c, hc, .inl hchar⟩,
    Attribute.fits_quoted (isNameChar_of_mem_markNames hname) hvalue s, trivial⟩

/-- An attribute with no value before another attribute. -/
lemma Marks.cons_bare {name : String} {a : Attribute} (h : Marks (a :: as))
    (hname : name ∈ markNames) : Marks (bare name :: a :: as) := by
  refine ⟨?_, ?_, fun gap s hgap => ?_⟩
  · simpa [bare, hname] using h.names
  · simpa [bare] using h.values
  · have hchars := isNameChar_of_mem_markNames hname
    obtain ⟨c, hc, hchar⟩ := begins_of_mem_markNames (a := bare name) (by simpa [bare] using hname)
    obtain ⟨d, hd, hdchar⟩ := begins_of_mem_markNames (h.names a List.mem_cons_self)
    obtain ⟨u, hu⟩ := List.head?_eq_some_iff.1 hd
    have hsource : Tag.attributesSource (row [' '] (a :: as)) ++ s =
        ' ' :: d :: (u ++ Tag.attributesSource (row [' '] as) ++ s) := by
      simp [row, hu]
    refine ⟨hgap, ⟨c, hc, .inl hchar⟩, ?_, h.fits [' '] s fun x => isGapChar_of_mem_space⟩
    rw [hsource]
    exact Attribute.fits_bare hchars hdchar _

/-- The gap before the second part of a row. -/
lemma row_append (gap : List Char) (as bs : List Attribute) :
    row gap (as ++ bs) = row gap as ++ row (if as = [] then gap else [' ']) bs := by
  induction as generalizing gap with
  | nil => simp [row]
  | cons a as ih =>
    rw [List.cons_append, row, row, ih [' ']]
    simp

/-- What is written one after another is written together. -/
lemma Marks.append (ha : Marks as) (hb : Marks bs) : Marks (as ++ bs) := by
  refine ⟨fun a h => ?_, fun a h => ?_, fun gap s hgap => ?_⟩
  · exact (List.mem_append.1 h).elim (ha.names a) (hb.names a)
  · exact (List.mem_append.1 h).elim (ha.values a) (hb.values a)
  · rw [row_append, Tag.attributesFit_append]
    refine ⟨ha.fits gap _ hgap, hb.fits _ s fun c hc => ?_⟩
    split at hc
    · exact hgap c hc
    · exact isGapChar_of_mem_space hc

/-- **The attribute of a property** whose name holds no apostrophe. -/
theorem marks_property (hp : '\'' ∉ p.toList) : Marks [r.propertyAttribute p] := by
  rw [propertyAttribute]
  split
  · exact marks_quoted (by decide) hp
  · exact marks_quoted (by decide) hp

/-- **The attributes of an item** whose type and address hold no apostrophe. -/
theorem marks_scope (hurl : '\'' ∉ r.baseUrl.toList) (ht : '\'' ∉ t.toList) :
    Marks (r.scopeAttributes t) := by
  rw [scopeAttributes]
  split
  · have hvalue : '\'' ∉ (r.baseUrl ++ "/" ++ t).toList := by simp [hurl, ht]
    exact (marks_quoted (by decide) hvalue).cons_bare (by decide)
  · exact (marks_quoted (by decide) hurl).append
      (marks_quoted (by decide) ht)

/-- **What is written is read again**: the reader of start tags finds the attributes and nothing
else before a closing bracket. -/
theorem Marks.readAttributes (h : Marks as) (s : List Char) :
    Tag.readAttributes (Tag.attributesSource (row [] as) ++ '>' :: s) =
      some ((row [] as, []), s) := by
  rw [Tag.readAttributes_eq_some_iff]
  exact ⟨by simp, h.fits [] _ (by simp), by simp⟩

end Renderer

end SchemaMarkup
