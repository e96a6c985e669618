import SchemaMarkup.Vocabulary.Basic

set_option autoImplicit false

/-!
# The bundled vocabulary

The subset of the schema.org vocabulary that is used unless another vocabulary is configured.

## Main definitions

* `SchemaMarkup.Vocabulary.bundledTypes` — its types.
* `SchemaMarkup.Vocabulary.bundled` — the vocabulary.
-/

namespace SchemaMarkup.Vocabulary

/-- A type with its parent and its properties, each with the types that it expects. -/
def declare (name : String) (parent : Option String) (properties : List (String × List String)) :
    Key × TypeDef :=
  (.text name,
    { name := .text name
      parent := (parent.map Value.text).getD .null
      properties := properties.map fun p => (.text p.1, ⟨.text p.1, .list (p.2.map .text)⟩) })

/-- The types of the bundled vocabulary. -/
def bundledTypes : List (Key × TypeDef) := [
  declare "Thing" none [
    ("additionalType", ["URL"]), ("alternateName", ["Text"]), ("description", ["Text"]),
    ("identifier", ["Text", "URL"]), ("image", ["URL", "ImageObject"]), ("name", ["Text"]),
    ("sameAs", ["URL"]), ("url", ["URL"])],
  declare "CreativeWork" (some "Thing") [
    ("about", ["Thing"]), ("aggregateRating", ["AggregateRating"]),
    ("author", ["Organization", "Person"]), ("award", ["Text"]), ("comment", ["Comment"]),
    ("contributor", ["Organization", "Person"]), ("copyrightHolder", ["Organization", "Person"]),
    ("copyrightYear", ["Number"]), ("creator", ["Organization", "Person"]),
    ("dateCreated", ["Date"]), ("dateModified", ["Date"]), ("datePublished", ["Date"]),
    ("editor", ["Person"]), ("genre", ["Text"]), ("headline", ["Text"]),
    ("inLanguage", ["Language", "Text"]), ("interactionCount", ["Text"]),
    ("isFamilyFriendly", ["Boolean"]), ("keywords", ["Text"]),
    ("publisher", ["Organization", "Person"]), ("review", ["Review"]), ("text", ["Text"]),
    ("thumbnailUrl", ["URL"]), ("version", ["Number"])],
  declare "Article" (some "CreativeWork") [
    ("articleBody", ["Text"]), ("articleSection", ["Text"]), ("pageEnd", ["Integer", "Text"]),
    ("pageStart", ["Integer", "Text"]), ("wordCount", ["Integer"])],
  declare "NewsArticle" (some "Article") [
    ("dateline", ["Text"]), ("printColumn", ["Text"]), ("printEdition", ["Text"]),
    ("printPage", ["Text"]), ("printSection", ["Text"])],
  declare "SocialMediaPosting" (some "Article") [
    ("sharedContent", ["CreativeWork"])],
  declare "BlogPosting" (some "SocialMediaPosting") [],
  declare "WebPage" (some "CreativeWork") [
    ("breadcrumb", ["Text"]), ("lastReviewed", ["Date"]), ("primaryImageOfPage", ["ImageObject"]),
    ("relatedLink", ["URL"]), ("significantLink", ["URL"])],
  declare "Blog" (some "CreativeWork") [
    ("blogPost", ["BlogPosting"])],
  declare "MediaObject" (some "CreativeWork") [
    ("contentUrl", ["URL"]), ("duration", ["Duration"]), ("embedUrl", ["URL"]),
    ("encodingFormat", ["Text"]), ("uploadDate", ["Date"])],
  declare "ImageObject" (some "MediaObject") [
    ("caption", ["Text"]), ("exifData", ["Text"]), ("representativeOfPage", ["Boolean"])],
  declare "Review" (some "CreativeWork") [
    ("itemReviewed", ["Thing"]), ("reviewBody", ["Text"]), ("reviewRating", ["Rating"])],
  declare "Comment" (some "CreativeWork") [
    ("downvoteCount", ["Integer"]), ("parentItem", ["Comment", "CreativeWork"]),
    ("upvoteCount", ["Integer"])],
  declare "Person" (some "Thing") [
    ("additionalName", ["Text"]), ("address", ["PostalAddress", "Text"]),
    ("affiliation", ["Organization"]), ("award", ["Text"]), ("birthDate", ["Date"]),
    ("deathDate", ["Date"]), ("email", ["Text"]), ("familyName", ["Text"]), ("gender", ["Text"]),
    ("givenName", ["Text"]), ("homeLocation", ["Place", "ContactPoint"]), ("jobTitle", ["Text"]),
    ("knows", ["Person"]), ("nationality", ["Country"]), ("telephone", ["Text"]),
    ("worksFor", ["Organization"])],
  declare "Organization" (some "Thing") [
    ("address", ["PostalAddress", "Text"]), ("award", ["Text"]), ("email", ["Text"]),
    ("employee", ["Person"]), ("founder", ["Person"]), ("foundingDate", ["Date"]),
    ("legalName", ["Text"]), ("location", ["Place", "PostalAddress", "Text"]),
    ("logo", ["ImageObject", "URL"]), ("member", ["Organization", "Person"]),
    ("telephone", ["Text"])],
  declare "Place" (some "Thing") [
    ("address", ["PostalAddress", "Text"]), ("containedInPlace", ["Place"]),
    ("geo", ["GeoCoordinates"]), ("telephone", ["Text"])],
  declare "AdministrativeArea" (some "Place") [],
  declare "Country" (some "AdministrativeArea") [],
  declare "Event" (some "Thing") [
    ("attendee", ["Organization", "Person"]), ("doorTime", ["DateTime"]),
    ("duration", ["Duration"]), ("endDate", ["Date", "DateTime"]), ("eventStatus", ["Text"]),
    ("location", ["Place", "PostalAddress", "Text"]), ("offers", ["Offer"]),
    ("organizer", ["Organization", "Person"]), ("performer", ["Organization", "Person"]),
    ("startDate", ["Date", "DateTime"]), ("subEvent", ["Event"]), ("superEvent", ["Event"])],
  declare "Product" (some "Thing") [
    ("aggregateRating", ["AggregateRating"]), ("brand", ["Brand", "Organization"]),
    ("color", ["Text"]), ("gtin13", ["Text"]), ("logo", ["ImageObject", "URL"]),
    ("manufacturer", ["Organization"]), ("model", ["Text"]), ("offers", ["Offer"]),
    ("productID", ["Text"]), ("releaseDate", ["Date"]), ("review", ["Review"]), ("sku", ["Text"])],
  declare "Intangible" (some "Thing") [],
  declare "Language" (some "Intangible") [],
  declare "Brand" (some "Intangible") [
    ("logo", ["ImageObject", "URL"])],
  declare "Offer" (some "Intangible") [
    ("availability", ["Text"]), ("itemOffered", ["Product"]), ("price", ["Number", "Text"]),
    ("priceCurrency", ["Text"]), ("priceValidUntil", ["Date"]),
    ("seller", ["Organization", "Person"])],
  declare "Rating" (some "Intangible") [
    ("author", ["Organization", "Person"]), ("bestRating", ["Number", "Text"]),
    ("ratingValue", ["Number", "Text"]), ("worstRating", ["Number", "Text"])],
  declare "AggregateRating" (some "Rating") [
    ("itemReviewed", ["Thing"]), ("ratingCount", ["Number"]), ("reviewCount", ["Number"])],
  declare "Quantity" (some "Intangible") [],
  declare "Duration" (some "Quantity") [],
  declare "Distance" (some "Quantity") [],
  declare "StructuredValue" (some "Intangible") [],
  declare "ContactPoint" (some "StructuredValue") [
    ("contactType", ["Text"]), ("email", ["Text"]), ("telephone", ["Text"])],
  declare "PostalAddress" (some "ContactPoint") [
    ("addressCountry", ["Country", "Text"]), ("addressLocality", ["Text"]),
    ("addressRegion", ["Text"]), ("postOfficeBoxNumber", ["Text"]), ("postalCode", ["Text"]),
    ("streetAddress", ["Text"])],
  declare "GeoCoordinates" (some "StructuredValue") [
    ("elevation", ["Number", "Text"]), ("latitude", ["Number", "Text"]),
    ("longitude", ["Number", "Text"])],
  declare "QuantitativeValue" (some "StructuredValue") [
    ("maxValue", ["Number"]), ("minValue", ["Number"]), ("unitCode", ["Text", "URL"]),
    ("unitText", ["Text"]), ("value", ["Number", "Text"])]]

/-- The bundled vocabulary. -/
def bundled : Vocabulary where
  root := defaultRoot
  types := bundledTypes
  nodup_keys := by decide +kernel
  root_mem := by decide +kernel
  parent_mem := by decide +kernel

end SchemaMarkup.Vocabulary
