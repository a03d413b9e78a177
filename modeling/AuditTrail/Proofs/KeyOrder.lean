import AuditTrail.Proofs.SortRuns
import AuditTrail.Proofs.ValueOrder
import AuditTrail.Store.Collection

/-!
# Documents ordered by sort keys

`Collection.order` sorts by each key, last first, with the stable sort, and so orders the
documents lexicographically by the keys (`order_spec`).
-/

namespace AuditTrail

open Sorting

namespace Record

def keyValue (d : Record) (path : String) : Value := ((Value.record d).atPath path).getD .null

theorem sortValue_eq {d : Record} {path : String} (h : (d.keyValue path).Sortable) :
    Collection.sortValue d path = (1, d.keyValue path) := by
  unfold Collection.sortValue
  unfold keyValue at h ⊢
  cases hv : (Value.record d).atPath path with
  | none => rfl
  | some v =>
    rw [hv] at h
    cases v <;> simp_all [Value.Sortable]

end Record

namespace SortKey

def before (k : SortKey) (a b : Record) : Bool :=
  if k.order == .desc then Value.storeBefore (b.keyValue k.path) (a.keyValue k.path)
  else Value.storeBefore (a.keyValue k.path) (b.keyValue k.path)

def Fits (k : SortKey) (d : Record) : Prop := (d.keyValue k.path).Sortable

theorem strictWeakOn_before (k : SortKey) : StrictWeakOn k.before k.Fits := by
  have h := Value.strictWeakOn_storeBefore.comap (fun d : Record => d.keyValue k.path)
  unfold before
  cases k.order with
  | asc => exact h
  | desc => exact h.flip

theorem keyLt_eq_ok (k : SortKey) {a b : Record} (ha : k.Fits a) (hb : k.Fits b) :
    Collection.keyLt k a b = .ok (Value.storeBefore (a.keyValue k.path) (b.keyValue k.path)) := by
  unfold Collection.keyLt
  rw [Record.sortValue_eq ha, Record.sortValue_eq hb]
  exact Value.sortLt_eq_ok ha hb

end SortKey

/-! ### Several keys -/

/-- No key puts `b` before `a` unless an earlier key puts `a` before `b`. -/
def NotAfterByKeys : List SortKey → Record → Record → Prop
  | [], _, _ => True
  | k :: ks, a, b => k.before b a = false ∧ (k.before a b = false → NotAfterByKeys ks a b)

/-- Whether a document comes before another by the first key that tells them apart. -/
def keysBefore : List SortKey → Record → Record → Bool
  | [], _, _ => false
  | k :: ks, a, b => k.before a b || (!k.before b a && keysBefore ks a b)

/-- Ordering by keys sorts, with the stable sort, by the last key first and by each earlier key
after it: it answers with the documents in lexicographic order. -/
theorem order_spec (keys : List SortKey) (docs : List Record)
    (hfit : ∀ d ∈ docs, ∀ k ∈ keys, k.Fits d) :
    ∃ ys, Collection.order keys docs = .ok ys ∧ ys.Perm docs ∧ ys.Pairwise (NotAfterByKeys keys) := by
  induction keys with
  | nil => exact ⟨docs, rfl, List.Perm.refl _, List.pairwise_of_forall fun _ _ => trivial⟩
  | cons k ks ih =>
    obtain ⟨acc, hacc, hperm, hsorted⟩ := ih fun d hd k' hk' => hfit d hd k' (by simp [hk'])
    have hS : ∀ d ∈ acc, k.Fits d := fun d hd => hfit d (hperm.mem_iff.1 hd) k (by simp)
    obtain ⟨ys, hys, hstable⟩ := sortByM_spec
      (Value.strictWeakOn_storeBefore.comap (fun d : Record => d.keyValue k.path))
      (fun a b ha hb => k.keyLt_eq_ok ha hb) (k.order == .desc) acc hS
    refine ⟨ys, ?_, hstable.perm.trans hperm, ?_⟩
    · unfold Collection.order
      rw [List.foldrM_cons]
      unfold Collection.order at hacc
      rw [hacc]
      exact hys
    · exact hstable.pairwise_lex (k.strictWeakOn_before) hS hsorted

theorem keysBefore_of_notAfter {a b : Record} :
    ∀ {ks : List SortKey}, NotAfterByKeys ks a b →
      (∃ k ∈ ks, k.before a b = true ∨ k.before b a = true) → keysBefore ks a b = true
  | [], _, ⟨_, hk, _⟩ => absurd hk (List.not_mem_nil)
  | k :: ks, ⟨hba, hrest⟩, ⟨k', hk', hsep⟩ => by
    unfold keysBefore
    cases hab : k.before a b with
    | true => rfl
    | false =>
      -- the first key ties them, so a later key tells them apart
      have hk'' : k' ∈ ks := by
        rcases List.mem_cons.1 hk' with rfl | hk'
        · simp [hab, hba] at hsep
        · exact hk'
      simp [hba, keysBefore_of_notAfter (hrest hab) ⟨k', hk'', hsep⟩]

theorem keysBefore_asymm {a b : Record} :
    ∀ {ks : List SortKey}, (∀ k ∈ ks, k.Fits a) → (∀ k ∈ ks, k.Fits b) →
      keysBefore ks a b = true → keysBefore ks b a = false
  | [], _, _, h => by simp [keysBefore] at h
  | k :: ks, ha, hb, h => by
    have hka : k.Fits a := ha k (by simp)
    have hkb : k.Fits b := hb k (by simp)
    unfold keysBefore at h ⊢
    cases hab : k.before a b with
    | true => simp [(k.strictWeakOn_before).asymm a b hka hkb hab]
    | false =>
      rw [hab, Bool.false_or, Bool.and_eq_true] at h
      have hba : k.before b a = false := by simpa using h.1
      have hrest := keysBefore_asymm (fun k' hk' => ha k' (by simp [hk']))
        (fun k' hk' => hb k' (by simp [hk'])) h.2
      simp [hba, hrest]

end AuditTrail
