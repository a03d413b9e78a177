import AuditTrail.Request.Basic
import AuditTrail.Store.Cond
import AuditTrail.Text.Blank

/-!
# Selecting and ordering events

`Filters.cond` is one clause per set filter, in a fixed order; the text search and the exclusion
of access records give way to an action filter. `Listing.sortKeys` ends newest first, then by id.
-/

namespace AuditTrail

def searchPaths : List String :=
  ["message", "details.error", "details.reason", "context.userAgent", "userId", "resourceId"]

def selfAuditPath : String := "context.selfAudit"

namespace Filters

def actionClause : ActionFilter → Clause
  | .one a => .field "action" [.eq (.str a.text)]
  | .reservations => .field "action" [.isIn (Action.reservations.map (.str ·.text))]

def windowClause (f : Filters) : Option Clause :=
  match f.startDate, f.endDate with
  | none, none => none
  | s, e => some (.field "createdAt"
      ((s.map (Test.atLeast ∘ .stamp)).toList ++ (e.map (Test.atMost ∘ .stamp)).toList))

/-- The clause for a text search, unless an action filter is set. -/
def searchClause (f : Filters) : Option Clause :=
  match f.search, f.action with
  | some s, none => some (.either (searchPaths.map (.field · [.contains (Blank.strip s)])))
  | _, _ => none

/-- The store condition that selects the events matching the filters; `excludeSelfAudit`
also leaves out the log's own access records when no action filter is set. -/
def cond (f : Filters) (excludeSelfAudit : Bool) : Cond :=
  let eqText (path : String) (v : Option String) : Option Clause :=
    v.map (fun s => .field path [.eq (.str s)])
  ([(f.level.map (fun l => .field "level" [.eq (.str l.text)])),
    f.action.map actionClause,
    eqText "userId" f.userId,
    eqText "resource" f.resource,
    eqText "resourceId" f.resourceId,
    eqText "context.ip" f.ip,
    f.windowClause,
    f.searchClause,
    if excludeSelfAudit && f.action.isNone then
      some (.field selfAuditPath [.notEq (.bool true)]) else none]).filterMap id

end Filters

/-- A sort key: a field path and a direction. -/
structure SortKey where
  path : String
  order : SortOrder
  deriving DecidableEq, Repr

/-- The sort keys of a listing; every order ends on the id, so it is total. -/
def Listing.sortKeys (q : Listing) : List SortKey :=
  match q.sortBy with
  | .createdAt => [⟨"createdAt", q.sortOrder⟩, ⟨"_id", q.sortOrder⟩]
  | field => [⟨field.text, q.sortOrder⟩, ⟨"createdAt", .desc⟩, ⟨"_id", .desc⟩]

end AuditTrail
