import AuditTrail.Value.Hash
import AuditTrail.Value.Compare
import AuditTrail.Sorting

/-!
# Changes between snapshots

`Value.changes old new` gathers the keys of both snapshots as the runtime's set does, sorts them
by `<`, and compares the two as records.
-/

namespace AuditTrail

namespace Value

/-- The keys a snapshot gives: none when it is not true; a record's keys, a text's characters,
a list's or a tuple's items, the first item that cannot be hashed refused; any other value
gives none and is refused. -/
def keysOf (v : Value) : Except Failure (List Value) :=
  if !v.truthy then .ok []
  else match v with
    | .record fs => .ok (fs.map (fun p => .str p.1))
    | .str s | .member _ s => .ok (s.toList.map (fun c => .str c.toString))
    | .list xs | .tuple xs => match unhashableItem? xs with
      | some t => .error (.typeMismatch ("unhashable type: '" ++ t ++ "'"))
      | none => .ok xs
    | v => .error (.typeMismatch ("'" ++ v.typeName ++ "' object is not iterable"))

def snapshot (v : Value) : Except Failure Record :=
  match v with
  | .record fs => .ok fs
  | v => if v.truthy then .error (.noAttribute v.typeName "get") else .ok []

/-- The changed fields between two snapshots of a resource. -/
def changes (old new : Value) : Except Failure Record := do
  let a ← old.keysOf
  let b ← new.keysOf
  let keys ← Sorting.sortByM (pyCompare .less) false (KeyTable.unionOrder a b)
  if keys.isEmpty then return []
  let o ← old.snapshot
  let n ← new.snapshot
  pure (Record.changes o n)

end Value

end AuditTrail
