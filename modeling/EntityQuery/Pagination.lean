import EntityQuery.Text.Integer

/-!
# Pagination

The place of a page among the pages of a number of rows.
-/

namespace EntityQuery

/-- A page of so many rows, out of all rows. -/
structure Pagination where
  page : Int
  limit : Int
  total : Int

namespace Pagination

/-- A number brought within a signed word of 64 bits. -/
def saturate (n : Int) : Int := max signedMin (min signedMax n)

/-- There are rows after the page. -/
def hasNext (p : Pagination) : Bool := saturate (p.limit * p.page) < p.total

/-- There are pages before the page. -/
def hasPrevious (p : Pagination) : Bool := 1 < p.page

/-- The page after this one, as a signed word of 64 bits. -/
def next? (p : Pagination) : Option Int :=
  if p.hasNext then some (wrapSigned (p.page + 1)) else none

/-- The page before this one. -/
def previous? (p : Pagination) : Option Int := if p.hasPrevious then some (p.page - 1) else none

end Pagination

end EntityQuery
