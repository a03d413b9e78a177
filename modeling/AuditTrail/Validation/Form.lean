import AuditTrail.Validation.Scalar
import AuditTrail.Text.Blank

/-!
# Reading records of fields

A field is looked up under its wire name, else its second spelling; an issue is placed at the key
where the value was found, and `Form.rest` gives the entries no field took.
-/

namespace AuditTrail

namespace Form

/-- A field under its wire name, else under its second spelling: the key found and the
value. -/
def lookup (r : Record) (wire other : String) : Option (String × Value) :=
  match r.get? wire with
  | some v => some (wire, v)
  | none => (r.get? other).map (other, ·)

/-- Reads an optional field; an absent or null field is unset, and an issue is placed at the
key where the value was found. -/
def optional {α : Type} (r : Record) (wire other : String) (read : Value → Except Issue.Kind α) :
    Except Issue (Option α) :=
  match lookup r wire other with
  | none => .ok none
  | some (_, .null) => .ok none
  | some (k, v) => match read v with
    | .ok a => .ok (some a)
    | .error e => .error ⟨[k], e⟩

def withDefault {α : Type} (r : Record) (wire other : String) (dflt : α)
    (read : Value → Except Issue.Kind α) : Except Issue α :=
  match lookup r wire other with
  | none => .ok dflt
  | some (k, v) => match read v with
    | .ok a => .ok a
    | .error e => .error ⟨[k], e⟩

/-- Whether a raw entry counts as no value: null, or a text with only blanks. -/
def isEmptyEntry : Value → Bool
  | .null => true
  | .str s => Blank.isBlankText s
  | _ => false

def dropEmpty (r : Record) : Record := r.filter (fun p => !isEmptyEntry p.2)

def intAtLeast (lo : Int) (v : Value) : Except Issue.Kind Int := do
  let n ← Lax.int v
  if n < lo then throw (.greaterEqual lo)
  pure n

/-- The entries of a record that none of the fields took: a field takes its wire name when
present, else its second spelling. -/
def rest (r : Record) (fields : List (String × String)) : Record :=
  let taken := fields.filterMap (fun f => (lookup r f.1 f.2).map (·.1))
  r.filter (fun p => !taken.contains p.1)

/-- The entries no field took, kept as they came; their keys are read as Unicode first, and
the first with a lone surrogate is refused at the record itself. -/
def extras (r : Record) (fields : List (String × String)) : Except Issue Record :=
  let kept := rest r fields
  if kept.any (fun p => Surrogate.occursIn p.1) then .error ⟨[], .stringUnicode⟩ else .ok kept

def required {α : Type} (r : Record) (wire other : String) (read : Value → Except Issue.Kind α) :
    Except Issue α :=
  match lookup r wire other with
  | none => .error ⟨[wire], .missing⟩
  | some (k, v) => match read v with
    | .ok a => .ok a
    | .error e => .error ⟨[k], e⟩

end Form

end AuditTrail
