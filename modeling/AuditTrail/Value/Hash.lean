import AuditTrail.Value.Equality

/-!
# Hashes and the order of key sets

`Value.hash?` is the runtime's hash where it depends on the value alone, and `KeyTable` the
runtime's open-addressing set, whose slot order is the order `unionOrder` lists keys in.
-/

namespace AuditTrail

namespace Hash

def modulus : Nat := 2305843009213693951

def word (h : Int) : UInt64 := UInt64.ofNat (h % 18446744073709551616).toNat

def signed (w : UInt64) : Int :=
  if w.toNat < 9223372036854775808 then w.toNat else (w.toNat : Int) - 18446744073709551616

/-- The hash of the number `num / den`, `den` a power of two: `num` times the inverse of
`den` modulo `2^61 - 1`, with the sign of `num`, `-1` becoming `-2`. -/
def ofRatio (num : Int) (den : Nat) : Int :=
  let k := den.log2 % 61
  let x := num.natAbs % modulus * Nat.pow 2 ((61 - k) % 61) % modulus
  let h : Int := if num < 0 then -(x : Int) else x
  if h = -1 then -2 else h

/-- The hash of the NaN double, which is hashed by its address; only the low bits, fixed within
a run of the service, matter to a small table. -/
def nanHash : Int := 0x7f8e4c3b2a3

def prime1 : UInt64 := 11400714785074694791
def prime2 : UInt64 := 14029467366897019727
def prime5 : UInt64 := 2870177450012600261

def rotate (x : UInt64) : UInt64 := (x <<< 31) ||| (x >>> 33)

end Hash

namespace Value

mutual
/-- The runtime's hash of a value, when it depends on the value alone. -/
def hash? : Value → Option Int
  | .int n => some (Hash.ofRatio n 1)
  | .bool b => some (if b then 1 else 0)
  | .float x => match Exact.ofFloat x with
    | .finite n d => some (Hash.ofRatio n d)
    | .posInf => some 314159
    | .negInf => some (-314159)
    | .nan => some Hash.nanHash
  | .tuple xs => (itemsHash? xs Hash.prime5).map (fun acc =>
      let acc := acc + (UInt64.ofNat xs.length ^^^ (Hash.prime5 ^^^ 3527539))
      if acc = UInt64.ofNat 18446744073709551615 then 1546275796 else Hash.signed acc)
  | _ => none
def itemsHash? : List Value → UInt64 → Option UInt64
  | [], acc => some acc
  | x :: xs, acc => (hash? x).bind (fun h =>
      itemsHash? xs (Hash.rotate (acc + Hash.word h * Hash.prime2) * Hash.prime1))
end

end Value

/-- A set of distinct keys in the runtime's table: each slot empty or a key with its hash. -/
structure KeyTable where
  slots : Array (Option (Value × UInt64))
  /-- The number of keys. -/
  fill : Nat

namespace KeyTable

def empty : KeyTable := ⟨Array.replicate 8 none, 0⟩

/-- Where a key lands: the slot of an equal key (`.inl`), or the first empty slot on its probe
path (`.inr`); every slot is visited, so a table with an empty slot has an answer. -/
def locate (slots : Array (Option (Value × UInt64))) (key : Option Value) (h : UInt64) :
    Option (Nat ⊕ Nat) :=
  let size := slots.size
  let rec go (fuel i : Nat) (perturb : UInt64) : Option (Nat ⊕ Nat) :=
    match fuel with
    | 0 => none
    | fuel + 1 =>
      let window := if i + 9 ≤ size - 1 then List.range 10 else [0]
      let hit := window.findSome? (fun j => match slots.getD (i + j) none with
        | none => some (Sum.inr (i + j))
        | some (k, hk) => match key with
          | some key => if hk == h && Value.sameEq k key then some (Sum.inl (i + j)) else none
          | none => none)
      match hit with
      | some r => some r
      | none =>
        let perturb := perturb >>> 5
        go fuel ((i * 5 + 1 + perturb.toNat) % size) perturb
  go (2 * size + 16) (h.toNat % size) h

def placeFresh (slots : Array (Option (Value × UInt64))) (key : Value) (h : UInt64) :
    Array (Option (Value × UInt64)) :=
  match locate slots none h with
  | some (.inr i) => slots.set! i (some (key, h))
  | _ => slots

def entries (t : KeyTable) : List (Value × UInt64) := t.slots.toList.filterMap id

def resize (t : KeyTable) (least : Nat) : KeyTable :=
  let size := (List.range 64).foldl (fun s _ => if s ≤ least then 2 * s else s) 8
  ⟨t.entries.foldl (fun slots (k, h) => placeFresh slots k h) (Array.replicate size none), t.fill⟩

/-- Adds a key with its hash, unless an equal key is there; a table three-fifths full
grows. -/
def add (t : KeyTable) (key : Value) (h : UInt64) : KeyTable :=
  match locate t.slots (some key) h with
  | some (.inr i) =>
    let t : KeyTable := ⟨t.slots.set! i (some (key, h)), t.fill + 1⟩
    if t.fill * 5 < (t.slots.size - 1) * 3 then t
    else t.resize (if t.fill > 50000 then t.fill * 2 else t.fill * 4)
  | _ => t

def ofList (keys : List (Value × UInt64)) : KeyTable :=
  keys.foldl (fun t (k, h) => t.add k h) empty

/-- Merges the keys of `other` into a table: one resize first when the two together would
fill three-fifths of it; into an empty table of the same size, slot for slot; into another
empty table, each key in the first empty slot of its path; otherwise each key added. -/
def merge (t other : KeyTable) : KeyTable :=
  if other.fill = 0 then t
  else
    let t := if (t.fill + other.fill) * 5 ≥ (t.slots.size - 1) * 3
      then t.resize ((t.fill + other.fill) * 2) else t
    if t.fill = 0 ∧ t.slots.size = other.slots.size then ⟨other.slots, other.fill⟩
    else if t.fill = 0 then
      ⟨other.entries.foldl (fun slots (k, h) => placeFresh slots k h) t.slots, other.fill⟩
    else other.entries.foldl (fun acc (k, h) => acc.add k h) t

/-- The keys of the union of the sets of two lists, in the order the union lists them; when
a key has no fixed hash, the keys in the order they are first met. -/
def unionOrder (a b : List Value) : List Value :=
  match a.mapM (fun k => k.hash?.map (fun h => (k, Hash.word h))),
      b.mapM (fun k => k.hash?.map (fun h => (k, Hash.word h))) with
  | some ka, some kb => ((empty.merge (ofList ka)).merge (ofList kb)).entries.map (·.1)
  | _, _ => (a ++ b).foldl (fun acc k => if acc.any (Value.sameEq · k) then acc else acc ++ [k]) []

end KeyTable

end AuditTrail
