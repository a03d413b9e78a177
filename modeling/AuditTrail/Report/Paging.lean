import AuditTrail.Number.Arith
import AuditTrail.Validation.Scalar

/-!
# Pagination

The page count is `total / pageSize` as a double, rounded up, so it is exact only while the
quotient is; a previous page exists past the first, a next one before the last.
-/

namespace AuditTrail

/-- Where a page stands in a listing. -/
structure Pagination where
  total : Int
  page : Int
  pageSize : Int
  totalPages : Int
  hasNext : Bool
  hasPrevious : Bool
  deriving DecidableEq, Repr

namespace Pagination

/-- The number of pages: the quotient as a double, rounded up; zero without events. -/
def pageCount (total pageSize : Numeric) : Except Failure Int :=
  if total.isZero then .ok 0 else total.ceilDiv pageSize

/-- The pagination of page `page` of a listing. -/
def build (total page pageSize : Int) : Except Failure Pagination := do
  let totalPages ← pageCount (.int total) (.int pageSize)
  pure { total, page, pageSize, totalPages,
         hasNext := decide (page < totalPages), hasPrevious := decide (page > 1) }

def intField (name : String) (v : Value) : Except Failure Int :=
  (Lax.int v).mapError (fun k => .unfit ⟨[name], k⟩)

/-- The pagination from raw numbers: the page count and the two flags are computed first,
then each count must be an integer. -/
def ofValues (total page pageSize : Value) : Except Failure Pagination := do
  let totalPages ← if total.truthy then do Numeric.ceil (← Numeric.divValues total pageSize)
    else pure 0
  let p ← Numeric.comparable "<" page
  let hasNext := p.toExact.cmp (.finite totalPages 1) == .lt
  let p ← Numeric.comparable ">" page
  let hasPrevious := p.toExact.gtInt 1
  let total ← intField "total" total
  let page ← intField "page" page
  let pageSize ← intField "page_size" pageSize
  pure { total, page, pageSize, totalPages, hasNext, hasPrevious }

def toValue (p : Pagination) : Value :=
  .record [("total", .int p.total), ("page", .int p.page), ("pageSize", .int p.pageSize),
    ("totalPages", .int p.totalPages), ("hasNext", .bool p.hasNext),
    ("hasPrevious", .bool p.hasPrevious)]

end Pagination

end AuditTrail
