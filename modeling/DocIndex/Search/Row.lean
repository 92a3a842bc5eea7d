/-
  ROWS: results as they are shown.

  A row has a badge with the letter of the category, a label and a context.  The label is the name,
  or the signature of a method that has one.  The context is the package of a type, and for a member
  the package and the owner, with the return type behind a colon.

  `resultMarkup` is the whole dropdown: a section for every category that has results, and in it a
  row for every entry, in the order in which the rows are walked through.
-/
import DocIndex.Markup.Highlight
import DocIndex.Search.Buckets

namespace DocIndex

/-- A result as it is shown. -/
structure Row where
  category : Category
  label : String
  context : String
  deriving Repr, DecidableEq

namespace Row

/-- The label of an entry. -/
def labelOf (e : Entry) : String :=
  match e.category, e.signature with
  | .method, some signature => signature
  | _, _ => e.name

/-- The context of a member of some owner. -/
def memberContext (e : Entry) (owner : String) : String :=
  e.packageName ++ "." ++ owner ++
    (match e.returnType with
      | some type => " : " ++ type
      | none => "")

/-- The context of an entry.  A member that does not name its owner is shown without one. -/
def contextOf (e : Entry) : String :=
  if e.category.isType then e.packageName else memberContext e (e.typeName.getD "")

/-- The row of an entry. -/
def ofEntry (e : Entry) : Row := ⟨e.category, labelOf e, contextOf e⟩

/-- The style class of the badge. -/
def badgeClass (r : Row) : String := "badge-" ++ r.category.name

/-- The label with the query marked. -/
def labelMarkup (r : Row) (query : String) : List Markup := Markup.highlight r.label query

/-- A division of a style class. -/
def division (style : String) (children : List Markup) : Markup :=
  .element "div" [("class", style)] children

/-- The row as markup. -/
def markup (r : Row) (query : String) : Markup :=
  .element "div" [("class", "search-result-item"), ("role", "option"), ("aria-selected", "false")]
    [.element "span" [("class", "search-result-badge " ++ r.badgeClass)] [.text r.category.badge],
      division "search-result-content"
        [division "search-result-name" (r.labelMarkup query),
          division "search-result-context" [.text r.context]]]

end Row

/-- The rows of one category under their heading. -/
def sectionMarkup (query : String) : Category × List Entry → Markup
  | (c, es) =>
    Row.division "search-facet-section"
      (Row.division "search-facet-header" [.text c.heading] ::
        es.map fun e => (Row.ofEntry e).markup query)

/-- The dropdown that shows the results of a query. -/
def resultMarkup (b : Buckets) (query : String) : List Markup :=
  if b.isEmpty then [Row.division "search-empty-state" [.text "No results found"]]
  else b.sections.map (sectionMarkup query)

end DocIndex
