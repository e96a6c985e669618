import SchemaMarkup.Proofs.Markup.Moved
import SchemaMarkup.Proofs.Renderer.Attributes

set_option autoImplicit false

/-!
# Written elements

What a renderer writes as an element is read back by the scan for start tags: the name of the
element, and the attributes of the property and of the item with their values. A span and a div are
read whatever content they hold, because their start tags end before it. The content of an empty
element is the value of an attribute, which ends at the first apostrophe: it is read back exactly if
it holds none.

## Main definitions

* `SchemaMarkup.Renderer.written` — the attributes that are written.
* `SchemaMarkup.Tag.Opens` — a text begins with a start tag of the given name and attributes.

## Main results

* `SchemaMarkup.Renderer.marks_written` — the attributes fit before every text.
* `SchemaMarkup.Renderer.opens_element`, `SchemaMarkup.Renderer.opens_metaTag_iff` — what is read of
  an element and of an empty element.
* `SchemaMarkup.Renderer.scan_reads_back` — what is written is read back.
-/

namespace SchemaMarkup

open Attribute (quoted row)

namespace Tag

variable {name : String} {text rest s : List Char} {as : List (List Char × Attribute)}
  {entries : List (List Char × Option (List Char))}

/-- The text begins with a start tag that ends where `rest` begins. Its name is `name`, and `entries`
are the names and values of its attributes. -/
def Opens (text : List Char) (name : String) (entries : List (List Char × Option (List Char)))
    (rest : List Char) : Prop :=
  ∃ p head, Tag.at? text 0 = some p ∧ text = head ++ rest ∧ p.stop = head.length ∧
    p.tag.name = name.toList ∧ p.spans.map Span.entry = entries

/-- A tag whose parts fit together opens every text that begins with it. -/
lemma Fits.opens {t : Tag} (h : t.Fits) (hname : t.name = name.toList) (rest : List Char) :
    Opens (t.source ++ rest) name (t.attributes.map fun e => e.2.entry) rest := by
  have hat : Tag.at? (t.source ++ rest) 0 = some ⟨t, 0, 0 + 1 + t.body.length⟩ :=
    at?_eq_some_iff.2 ⟨rfl, rfl, h, [], '<', rest, rfl, rfl⟩
  refine ⟨_, t.source, hat, rfl, ?_, hname, map_entry_spansFrom _ _⟩
  rw [source, List.length_cons, Nat.zero_add, Nat.add_comm]

/-- Attributes that fit before what follows are the first ones of the tag that opens the text. -/
lemma prefix_of_opens {name' : String}
    (hname : Text.IsRun isNameChar name.toList (attributesSource as ++ s))
    (has : AttributesFit as s)
    (h : Opens ('<' :: (name.toList ++ (attributesSource as ++ s))) name' entries rest) :
    (as.map fun e => e.2.entry) <+: entries := by
  obtain ⟨p, head, hp, -, -, -, rfl⟩ := h
  obtain ⟨⟨t, tail⟩, hread, rfl⟩ := Option.map_eq_some_iff.1 hp
  rw [List.drop_succ_cons, List.drop_zero, readAfter_append hname has,
    Option.map_eq_some_iff] at hread
  obtain ⟨r, -, hr⟩ := hread
  obtain ⟨rfl, -⟩ := Prod.mk.inj hr
  rw [PlacedTag.spans, spans, map_entry_spansFrom, List.map_append]
  exact List.prefix_append _ _

end Tag

namespace Renderer

variable {r : Renderer} {property scope : Option String} (propertyFirst : Bool)

/-! ## Attributes in their order -/

/-- The attributes of an item and of a property, where those are given. The item comes first unless
the property is to. -/
def written (r : Renderer) (property scope : Option String) (propertyFirst : Bool) :
    List Attribute :=
  let items := scope.toList.flatMap r.scopeAttributes
  let properties := property.toList.map r.propertyAttribute
  if propertyFirst then properties ++ items else items ++ properties

/-- A name that can be written between apostrophes. -/
def Quotable (name : String) : Prop := name ≠ "" ∧ '\'' ∉ name.toList

lemma row_ne_nil (as : List Attribute) : as ≠ [] → Tag.attributesSource (row [' '] as) =
    ' ' :: Tag.attributesSource (row [] as) := by
  intro h
  cases as with
  | nil => exact absurd rfl h
  | cons a as => simp [row]

/-- Texts of attributes with a space between them are the text of all of them. -/
lemma toList_join {s t : String} {as bs : List Attribute}
    (hs : s.toList = Tag.attributesSource (row [] as))
    (ht : t.toList = Tag.attributesSource (row [] bs)) (has : as ≠ []) (hbs : bs ≠ []) :
    (s ++ " " ++ t).toList = Tag.attributesSource (row [] (as ++ bs)) := by
  rw [row_append, if_neg has, Tag.attributesSource_append, row_ne_nil bs hbs, ← hs, ← ht]
  simp

/-- The text of the attributes is that of the attributes in their order. -/
lemma toList_attributes (hproperty : ∀ p ∈ property, Quotable p)
    (hscope : ∀ t ∈ scope, Quotable t) :
    (r.attributes property scope propertyFirst).toList =
      Tag.attributesSource (row [] (r.written property scope propertyFirst)) := by
  have hne : ∀ t, r.scopeAttributes t ≠ [] := by
    intro t
    rw [scopeAttributes]
    split <;> simp
  cases property with
  | none =>
    cases scope with
    | none => cases propertyFirst <;> rfl
    | some t =>
      have hwritten : r.written none (some t) propertyFirst = r.scopeAttributes t := by
        cases propertyFirst <;> simp [written]
      rw [r.attributes_scope (hscope t rfl).1, toList_scope, hwritten]
  | some p =>
    have hp := (hproperty p rfl).1
    cases scope with
    | none =>
      have hwritten : r.written (some p) none propertyFirst = [r.propertyAttribute p] := by
        cases propertyFirst <;> rfl
      rw [r.attributes_property hp, toList_property, hwritten]
    | some t =>
      rw [r.attributes_both hp (hscope t rfl).1]
      cases propertyFirst with
      | true =>
        have hwritten : r.written (some p) (some t) true =
            [r.propertyAttribute p] ++ r.scopeAttributes t := by simp [written]
        rw [if_pos rfl, hwritten,
          toList_join (toList_property r p) (toList_scope r t) (by simp) (hne t)]
      | false =>
        have hwritten : r.written (some p) (some t) false =
            r.scopeAttributes t ++ [r.propertyAttribute p] := by simp [written]
        rw [if_neg (by simp), hwritten,
          toList_join (toList_scope r t) (toList_property r p) (hne t) (by simp)]

/-- **The attributes fit before every text** if no name and the address hold an apostrophe. -/
theorem marks_written (hurl : '\'' ∉ r.baseUrl.toList) (hproperty : ∀ p ∈ property, Quotable p)
    (hscope : ∀ t ∈ scope, Quotable t) : Marks (r.written property scope propertyFirst) := by
  have hproperties : Marks (property.toList.map r.propertyAttribute) := by
    cases property with
    | none => exact marks_nil
    | some p => exact marks_property (hproperty p rfl).2
  have hitems : Marks (scope.toList.flatMap r.scopeAttributes) := by
    cases scope with
    | none => exact marks_nil
    | some t => simpa using marks_scope hurl (hscope t rfl).2
  rw [written]
  cases propertyFirst with
  | true => exact hproperties.append hitems
  | false => exact hitems.append hproperties

/-! ## Texts of elements -/

/-- The attribute of an empty element that carries its content. -/
def contentAttribute (content : String) : Attribute := quoted "content" content

/-- The text of attributes with a space before each, as it is written with a space before them if
there are any, and with a space behind them if there are any. -/
lemma toList_separated {attrs : String} {as : List Attribute} (hmarks : Marks as)
    (h : attrs.toList = Tag.attributesSource (row [] as)) :
    let sep := if attrs = "" then "" else " "
    sep.toList ++ attrs.toList = Tag.attributesSource (row [' '] as) ∧
      ' ' :: (attrs.toList ++ sep.toList) = Tag.attributesSource (row [' '] as) ++ [' '] := by
  intro sep
  cases as with
  | nil =>
    obtain rfl : attrs = "" := String.toList_inj.1 h
    exact ⟨rfl, rfl⟩
  | cons a as =>
    obtain ⟨c, hc, -⟩ := begins_of_mem_markNames (hmarks.names a List.mem_cons_self)
    obtain ⟨u, hu⟩ := List.head?_eq_some_iff.1 hc
    have hne : attrs ≠ "" := by
      rintro rfl
      simp [row, hu] at h
    have hsep : sep = " " := if_neg hne
    rw [hsep, h, row_ne_nil _ (by simp)]
    exact ⟨rfl, rfl⟩

/-- The attributes of an empty element and its content up to an apostrophe fit before every text. -/
lemma fits_content {as : List Attribute} (hmarks : Marks as) {content : String}
    (hcontent : '\'' ∉ content.toList) (s : List Char) :
    Tag.AttributesFit (row [' '] (as ++ [contentAttribute content])) s := by
  rw [row_append, ite_self, Tag.attributesFit_append]
  refine ⟨hmarks.fits _ _ fun c => isGapChar_of_mem_space, fun c => isGapChar_of_mem_space,
    ⟨'c', rfl, .inl (by decide)⟩, Attribute.fits_quoted (List.all_eq_true.1 (by decide)) hcontent _,
    trivial⟩

/-- The name of an empty element is followed by an attribute. -/
lemma isRun_meta (as : List Attribute) (content : String) (s : List Char) :
    Text.IsRun Tag.isNameChar "meta".toList
      (Tag.attributesSource (row [' '] (as ++ [contentAttribute content])) ++ s) := by
  cases as <;> exact Text.isRun_cons (List.all_eq_true.1 (by decide)) (by decide)

section Quotable

variable (hurl : '\'' ∉ r.baseUrl.toList) (hproperty : ∀ p ∈ property, Quotable p)
  (hscope : ∀ t ∈ scope, Quotable t)

include hurl hproperty hscope

/-- An element is its start tag, with a space before each attribute, and its content. -/
lemma toList_element (name : String) (content : Option String) :
    (r.element name content property scope propertyFirst).toList =
      Tag.source ⟨name.toList, row [' '] (r.written property scope propertyFirst), []⟩ ++
        (content.getD "" ++ "</" ++ name ++ ">").toList := by
  obtain ⟨hattributes, -⟩ := toList_separated (marks_written propertyFirst hurl hproperty hscope)
    (toList_attributes (r := r) propertyFirst hproperty hscope)
  simp [element, toString, Tag.source, Tag.body, ← hattributes]

/-- An empty element is a start tag, with the content as its last attribute. -/
lemma toList_metaTag (content : Option String) :
    (r.metaTag content property scope propertyFirst).toList =
      Tag.source ⟨"meta".toList, row [' '] (r.written property scope propertyFirst ++
        [contentAttribute (content.getD "")]), ['/']⟩ := by
  obtain ⟨-, hattributes⟩ := toList_separated (marks_written propertyFirst hurl hproperty hscope)
    (toList_attributes (r := r) propertyFirst hproperty hscope)
  have hrow := row_append [' '] (r.written property scope propertyFirst)
    [contentAttribute (content.getD "")]
  rw [ite_self] at hrow
  calc (r.metaTag content property scope propertyFirst).toList
      = "<meta".toList ++ ' ' :: ((r.attributes property scope propertyFirst).toList ++
          (if r.attributes property scope propertyFirst = "" then "" else " ").toList) ++
            ((contentAttribute (content.getD "")).source ++ ['/', '>']) := by
        simp [metaTag, toString, contentAttribute]
    _ = _ := by
      rw [hattributes]
      simp [Tag.source, Tag.body, hrow, row]

/-! ## What is read of elements -/

/-- **An element is opened by its start tag**, whatever content it holds. -/
theorem opens_element (name : String) (hname : ∀ c ∈ name.toList, Tag.isNameChar c = true)
    (content : Option String) :
    Tag.Opens (r.element name content property scope propertyFirst).toList name
      ((r.written property scope propertyFirst).map Attribute.entry)
      (content.getD "" ++ "</" ++ name ++ ">").toList := by
  have hmarks := marks_written propertyFirst hurl hproperty hscope
  have hfits : Tag.Fits ⟨name.toList, row [' '] (r.written property scope propertyFirst), []⟩ := by
    refine ⟨?_, hmarks.fits _ _ fun c => isGapChar_of_mem_space, by simp⟩
    cases r.written property scope propertyFirst with
    | nil => exact Text.isRun_cons hname (by decide)
    | cons a as => exact Text.isRun_cons hname (by decide)
  rw [toList_element propertyFirst hurl hproperty hscope, ← Attribute.map_entry_row [' ']]
  exact hfits.opens rfl _

/-- **An empty element is read back exactly if its content holds no apostrophe.** If it holds one, the
value that is read ends there. -/
theorem opens_metaTag_iff (content : Option String) :
    Tag.Opens (r.metaTag content property scope propertyFirst).toList "meta"
        ((r.written property scope propertyFirst ++ [contentAttribute (content.getD "")]).map
          Attribute.entry) [] ↔
      '\'' ∉ (content.getD "").toList := by
  have hmarks := marks_written propertyFirst hurl hproperty hscope
  rw [toList_metaTag propertyFirst hurl hproperty hscope]
  generalize r.written property scope propertyFirst = as at hmarks ⊢
  generalize content.getD "" = value
  constructor
  · intro h hmem
    obtain ⟨first, rest, hvalue, hfirst⟩ := List.eq_append_cons_of_mem hmem
    have hsource : Tag.source ⟨"meta".toList, row [' '] (as ++ [contentAttribute value]), ['/']⟩ =
        '<' :: ("meta".toList ++ (Tag.attributesSource (row [' ']
          (as ++ [contentAttribute (String.ofList first)])) ++ (rest ++ ['\'', '/', '>']))) := by
      simp [Tag.source, Tag.body, row_append, row, contentAttribute, hvalue]
    have hfirst : '\'' ∉ (String.ofList first).toList := by rwa [String.toList_ofList]
    rw [hsource] at h
    have hprefix := Tag.prefix_of_opens (isRun_meta as _ _) (fits_content hmarks hfirst _) h
    rw [Attribute.map_entry_row] at hprefix
    have heq := hprefix.eq_of_length (by simp)
    -- the value that is read is the one that was written, and only the second holds the apostrophe
    have hentry : first = value.toList := by
      simpa [contentAttribute, Attribute.entry, Attribute.value?, quoted] using heq
    rw [String.toList_ofList, hentry] at hfirst
    exact hfirst hmem
  · intro hvalue
    have hfits : Tag.Fits
        ⟨"meta".toList, row [' '] (as ++ [contentAttribute value]), ['/']⟩ := by
      refine ⟨?_, fits_content hmarks hvalue _, by simp [Tag.isGapChar]⟩
      rw [List.append_assoc]
      exact isRun_meta as value _
    rw [← Attribute.map_entry_row [' '], ← List.append_nil (Tag.source _)]
    exact hfits.opens rfl []

end Quotable

/-- **What a renderer writes is read back**, if the address, the property and the type hold no
apostrophe. The scan at the beginning of a span or a div finds its start tag whatever the content is:
the tag ends where the content begins, and its attributes are those of the property and of the item,
in the order that was asked for. The scan at the beginning of an empty element takes all of it, and
finds these attributes and the content behind them, exactly if the content holds no apostrophe.

**Proof sketch.** The attributes fit before every text (`marks_written`), so that they are read as
they were written and reading goes on behind them (`Tag.readAttributes_append`). The content of an
empty element up to its first apostrophe makes an attribute that fits as well, which is read in place
of the whole content (`Tag.prefix_of_opens`). -/
theorem scan_reads_back (r : Renderer) (hurl : '\'' ∉ r.baseUrl.toList)
    (hproperty : ∀ p ∈ property, Quotable p) (hscope : ∀ t ∈ scope, Quotable t)
    (propertyFirst : Bool) (content : Option String) :
    let entries := (r.written property scope propertyFirst).map Attribute.entry
    let value := content.getD ""
    Tag.Opens (r.span content property scope propertyFirst).toList "span" entries
        (value ++ "</span>").toList ∧
      Tag.Opens (r.div content property scope propertyFirst).toList "div" entries
        (value ++ "</div>").toList ∧
      (Tag.Opens (r.metaTag content property scope propertyFirst).toList "meta"
          (entries ++ [("content".toList, some value.toList)]) [] ↔ '\'' ∉ value.toList) := by
  intro entries value
  have hspan := opens_element propertyFirst hurl hproperty hscope "span"
    (List.all_eq_true.1 (by decide)) content
  have hdiv := opens_element propertyFirst hurl hproperty hscope "div"
    (List.all_eq_true.1 (by decide)) content
  have hmeta := opens_metaTag_iff propertyFirst hurl hproperty hscope content
  rw [String.append_assoc, String.append_assoc] at hspan hdiv
  rw [List.map_append] at hmeta
  exact ⟨hspan, hdiv, hmeta⟩

/-- Content with a tag and an apostrophe in it: a span is read back, an empty element is not. -/
theorem scan_reads_back_rdfa :
    let r : Renderer := ⟨.rdfa, "https://schema.org"⟩
    let entries := [("vocab".toList, some "https://schema.org".toList),
      ("typeof".toList, some "Person".toList), ("property".toList, some "name".toList)]
    '\'' ∉ r.baseUrl.toList ∧ (∀ p ∈ some "name", Quotable p) ∧ (∀ t ∈ some "Person", Quotable t) ∧
      (r.written (some "name") (some "Person") false).map Attribute.entry = entries ∧
      Tag.Opens (r.span (some "<b>it's</b>") (some "name") (some "Person") false).toList "span"
        entries ("<b>it's</b>" ++ "</span>").toList ∧
      ¬Tag.Opens (r.metaTag (some "<b>it's</b>") (some "name") (some "Person") false).toList "meta"
        (entries ++ [("content".toList, some "<b>it's</b>".toList)]) [] := by
  intro r entries
  have hurl : '\'' ∉ r.baseUrl.toList := by decide
  have hproperty : ∀ p ∈ some "name", Quotable p := by
    rintro p ⟨rfl⟩
    exact ⟨by decide, by decide⟩
  have hscope : ∀ t ∈ some "Person", Quotable t := by
    rintro t ⟨rfl⟩
    exact ⟨by decide, by decide⟩
  have hentries : (r.written (some "name") (some "Person") false).map Attribute.entry = entries := by
    decide +kernel
  obtain ⟨hspan, -, hmeta⟩ := scan_reads_back r hurl hproperty hscope false (some "<b>it's</b>")
  rw [hentries] at hspan hmeta
  exact ⟨hurl, hproperty, hscope, hentries, hspan, fun h => hmeta.1 h (by decide)⟩

end Renderer

end SchemaMarkup
