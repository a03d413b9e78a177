import AuditTrail.Proofs.ListingRequests
import AuditTrail.Value.Plain

/-!
# Payloads made plain

`Value.plain` gives plain JSON with the value's outline and its scalars, each rich scalar
replaced by its text, and leaves plain JSON as it is (`Value.plain_normalizes`).
-/

namespace AuditTrail

namespace Value

mutual
/-- The outline of a value: its lists (a tuple counting as a list) and records with their keys in
order, every other value standing as null. -/
def outline : Value → Value
  | .list xs | .tuple xs => .list (outlineItems xs)
  | .record fs => .record (outlineFields fs)
  | _ => .null
def outlineItems : List Value → List Value
  | [] => []
  | x :: xs => outline x :: outlineItems xs
def outlineFields : List (String × Value) → List (String × Value)
  | [] => []
  | (k, x) :: fs => (k, outline x) :: outlineFields fs
end

mutual
def scalars : Value → List Value
  | .list xs | .tuple xs => itemsScalars xs
  | .record fs => fieldsScalars fs
  | v => [v]
def itemsScalars : List Value → List Value
  | [] => []
  | x :: xs => scalars x ++ itemsScalars xs
def fieldsScalars : List (String × Value) → List Value
  | [] => []
  | (_, x) :: fs => scalars x ++ fieldsScalars fs
end

/-- A scalar as plain JSON: an object id or a decimal as its text, a stamp as its ISO text and a
member of an enumeration as its value; null, booleans, numbers and texts as they are. -/
def plainScalar : Value → Value
  | .objectId n => .str (ObjectId.hex n)
  | .decimal d => .str (Decimal.text d)
  | .stamp t => .str t.iso
  | .member _ v => .str v
  | v => v

-- each statement is one induction over the value and its items and fields, following `plain`
mutual
theorem isJson_plain : ∀ v : Value, (plain v).isJson = true
  | .list xs | .tuple xs => itemsJson_plainItems xs
  | .record fs => fieldsJson_plainFields fs
  | .null | .bool _ | .int _ | .float _ | .str _ | .stamp _ | .objectId _ | .decimal _
  | .member _ _ => rfl
theorem itemsJson_plainItems : ∀ xs : List Value, itemsJson (plainItems xs) = true
  | [] => rfl
  | x :: xs => by
    simp only [plainItems, itemsJson, isJson_plain x, itemsJson_plainItems xs, Bool.and_self]
theorem fieldsJson_plainFields : ∀ fs : List (String × Value), fieldsJson (plainFields fs) = true
  | [] => rfl
  | (_, x) :: fs => by
    simp only [plainFields, fieldsJson, isJson_plain x, fieldsJson_plainFields fs, Bool.and_self]
end

mutual
theorem outline_plain : ∀ v : Value, (plain v).outline = v.outline
  | .list xs | .tuple xs => by simp only [plain, outline, outlineItems_plainItems xs]
  | .record fs => by simp only [plain, outline, outlineFields_plainFields fs]
  | .null | .bool _ | .int _ | .float _ | .str _ | .stamp _ | .objectId _ | .decimal _
  | .member _ _ => rfl
theorem outlineItems_plainItems : ∀ xs : List Value, outlineItems (plainItems xs) = outlineItems xs
  | [] => rfl
  | x :: xs => by simp only [plainItems, outlineItems, outline_plain x, outlineItems_plainItems xs]
theorem outlineFields_plainFields :
    ∀ fs : List (String × Value), outlineFields (plainFields fs) = outlineFields fs
  | [] => rfl
  | (k, x) :: fs => by
    simp only [plainFields, outlineFields, outline_plain x, outlineFields_plainFields fs]
end

mutual
theorem scalars_plain : ∀ v : Value, (plain v).scalars = v.scalars.map plainScalar
  | .list xs | .tuple xs => itemsScalars_plainItems xs
  | .record fs => fieldsScalars_plainFields fs
  | .null | .bool _ | .int _ | .float _ | .str _ | .stamp _ | .objectId _ | .decimal _
  | .member _ _ => rfl
theorem itemsScalars_plainItems :
    ∀ xs : List Value, itemsScalars (plainItems xs) = (itemsScalars xs).map plainScalar
  | [] => rfl
  | x :: xs => by
    simp only [plainItems, itemsScalars, List.map_append, scalars_plain x, itemsScalars_plainItems xs]
theorem fieldsScalars_plainFields :
    ∀ fs : List (String × Value), fieldsScalars (plainFields fs) = (fieldsScalars fs).map plainScalar
  | [] => rfl
  | (_, x) :: fs => by
    simp only [plainFields, fieldsScalars, List.map_append, scalars_plain x,
      fieldsScalars_plainFields fs]
end

mutual
theorem plain_of_isJson : ∀ v : Value, v.isJson = true → plain v = v
  | .list xs, h => by rw [plain, plainItems_of_itemsJson xs h]
  | .record fs, h => by rw [plain, plainFields_of_fieldsJson fs h]
  | .null, _ | .bool _, _ | .int _, _ | .float _, _ | .str _, _ => rfl
  | .tuple _, h | .stamp _, h | .objectId _, h | .decimal _, h | .member _ _, h => by
    simp [isJson] at h
theorem plainItems_of_itemsJson : ∀ xs : List Value, itemsJson xs = true → plainItems xs = xs
  | [], _ => rfl
  | x :: xs, h => by
    simp only [itemsJson, Bool.and_eq_true] at h
    rw [plainItems, plain_of_isJson x h.1, plainItems_of_itemsJson xs h.2]
theorem plainFields_of_fieldsJson :
    ∀ fs : List (String × Value), fieldsJson fs = true → plainFields fs = fs
  | [], _ => rfl
  | (_, x) :: fs, h => by
    simp only [fieldsJson, Bool.and_eq_true] at h
    rw [plainFields, plain_of_isJson x h.1, plainFields_of_fieldsJson fs h.2]
end

theorem plain_plain (v : Value) : plain (plain v) = plain v :=
  plain_of_isJson _ (isJson_plain v)

/-- Making a value plain gives plain JSON with the value's outline, whose scalars are the value's
made plain one by one; plain JSON is left as it is, so a second pass changes nothing. -/
theorem plain_normalizes (v : Value) :
    (plain v).isJson = true ∧ (plain v).outline = v.outline ∧
      (plain v).scalars = v.scalars.map plainScalar ∧
      (v.isJson = true → plain v = v) ∧ plain (plain v) = plain v :=
  ⟨isJson_plain v, outline_plain v, scalars_plain v, plain_of_isJson v, plain_plain v⟩

end Value

end AuditTrail
