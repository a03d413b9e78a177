import AuditTrail.Proofs.SessionStore
import AuditTrail.Proofs.InsertionOrder
import AuditTrail.Proofs.MainLine
import AuditTrail.Proofs.CreationWindows

/-!
# Newest first over a session

A session keeps the service orderly (`Service.Orderly`) while the clock as the store keeps it
never moves back (`Session.ClockForward`); under an offset that is not whole seconds a clock
moving forward can store an earlier `createdAt`.
-/

namespace AuditTrail

namespace Stamp

end Stamp

namespace Collection

theorem late_insert {c : Collection} {u : Int}
    (hlate : ∀ d ∈ c.docs, ∀ s : Stamp, d.get? "createdAt" = some (.stamp s) → s.utc ≤ u)
    (e : Event) {t : Stamp} (ht : t.toStored.utc ≤ u) :
    ∀ d ∈ (c.insert (e.toDocument t)).1.docs, ∀ s : Stamp, d.get? "createdAt" = some (.stamp s) →
      s.utc ≤ u := by
  intro d hd s hs
  rcases c.insert_of_no_id (e.get?_id_toDocument t) with ⟨hsame, -⟩ | hnew
  · rw [docs, hsame] at hd
    exact hlate d hd s hs
  · rw [hnew] at hd
    have hdocs : d ∈ c.docs ++ [(e.entry t c.nextId).2] := by simpa [docs, Event.entry] using hd
    rcases List.mem_append.1 hdocs with hd | hd
    · exact hlate d hd s hs
    · rw [List.mem_singleton.1 hd, e.get?_createdAt_entry] at hs
      cases hs
      exact ht

theorem late_of_deletes {c c' : Collection} {u : Int} (hd : c.Deletes c')
    (hlate : ∀ d ∈ c.docs, ∀ s : Stamp, d.get? "createdAt" = some (.stamp s) → s.utc ≤ u) :
    ∀ d ∈ c'.docs, ∀ s : Stamp, d.get? "createdAt" = some (.stamp s) → s.utc ≤ u :=
  fun d hd' => hlate d ((hd.1.map _).subset hd')

end Collection

namespace Service

/-- The service between two steps of a session: the store poised with its work in flight only
reading, its collection one that ingestion leaves, and no stored document created after the
clock as the store keeps it. -/
structure Orderly (sv : Service) : Prop where
  poised : sv.db.Poised
  reads : ∀ e ∈ sv.db.queue, e.WritesNothing
  ingested : sv.db.coll.Ingested
  late : ∀ d ∈ sv.db.coll.docs, ∀ s : Stamp, d.get? "createdAt" = some (.stamp s) →
    s.utc ≤ sv.clock.toStored.utc

def KeepsOrder {α : Type} (x : StateM Service α) : Prop :=
  ∀ sv : Service, sv.Orderly → (x sv).2.Orderly ∧ (x sv).2.clock = sv.clock

theorem Orderly.withDb {sv : Service} (h : sv.Orderly) {db : Db} (hp : db.Poised)
    (hr : db.OnlyReads fun _ => True) (hc : db.coll = sv.db.coll) : Orderly { sv with db } :=
  ⟨hp, hr.queue, hc ▸ h.ingested, hc ▸ h.late⟩

theorem Orderly.onlyReads {sv : Service} (h : sv.Orderly) : sv.db.OnlyReads fun _ => True :=
  ⟨h.reads, trivial⟩

theorem Orderly.ingested_insert {sv : Service} (h : sv.Orderly) (e : Event) {c : Collection}
    (hc : c = sv.db.coll ∨ c = (sv.db.coll.insert (e.toDocument sv.clock)).1) : c.Ingested := by
  rcases hc with rfl | rfl
  · exact h.ingested
  · exact .insert e sv.clock h.ingested h.late

theorem Orderly.late_insert {sv : Service} (h : sv.Orderly) (e : Event) {c : Collection}
    (hc : c = sv.db.coll ∨ c = (sv.db.coll.insert (e.toDocument sv.clock)).1) :
    ∀ d ∈ c.docs, ∀ s : Stamp, d.get? "createdAt" = some (.stamp s) →
      s.utc ≤ sv.clock.toStored.utc := by
  rcases hc with rfl | rfl
  · exact h.late
  · exact Collection.late_insert h.late e le_rfl

namespace KeepsOrder

theorem ingestClosure : IngestClosure KeepsOrder where
  pure _ _ h := ⟨h, rfl⟩
  bind hx hf sv h := by
    obtain ⟨h₁, hc₁⟩ := hx sv h
    obtain ⟨h₂, hc₂⟩ := hf _ _ h₁
    exact ⟨h₂, hc₂.trans hc₁⟩
  get_bind hf _ sv h := hf sv sv h
  read m _ op sv h := by
    obtain ⟨hr, hc⟩ := h.onlyReads.read Db.plansKeep_true m op
    exact ⟨h.withDb (h.poised.read m op) hr hc, rfl⟩
  gather works hw sv h := by
    have hnothing : ∀ w ∈ works, w.WritesNothing := fun w hw' => by
      have := hw w hw'
      cases w with
      | write => exact this.elim
      | resume => exact this.elim
      | _ => trivial
    obtain ⟨hr, hc⟩ := h.onlyReads.gather Db.plansKeep_true hnothing
    exact ⟨h.withDb (h.poised.gather works) hr hc, rfl⟩
  sweep op hop sv h := by
    obtain ⟨hr, hc⟩ := h.onlyReads.write Db.plansKeep_true .deleteMany op
    have hi : (Db.write .deleteMany op sv.db).2.coll.Ingested := by
      rcases hc with hc | hc <;> rw [hc]
      · exact h.ingested
      · exact .delete h.ingested (hop sv.db.coll)
    have hl := h.late
    rcases hc with hc | hc
    · rw [← hc] at hl
      exact ⟨⟨h.poised.write .deleteMany op, hr.queue, hi, hl⟩, rfl⟩
    · exact ⟨⟨h.poised.write .deleteMany op, hr.queue, hi,
        hc ▸ Collection.late_of_deletes (hop sv.db.coll) hl⟩, rfl⟩
  store e _ sv h := by
    rw [store_eq]
    obtain ⟨hr, hc⟩ := h.onlyReads.write Db.plansKeep_true .insertOne
      (fun c => c.insert (e.toDocument sv.clock))
    exact ⟨⟨h.poised.write .insertOne _, hr.queue, h.ingested_insert e hc, h.late_insert e hc⟩, rfl⟩
  settle sv h := by
    obtain ⟨hr, hc⟩ := h.onlyReads.settleAll Db.plansKeep_true
    exact ⟨h.withDb h.poised.settleAll hr hc, rfl⟩

theorem emit (level action message userId resource resourceId details context : Value) :
    KeepsOrder (Service.emit level action message userId resource resourceId details context) := by
  intro sv h
  rcases hrec : Event.receive level action message userId resource resourceId details context with
    f | e
  · rw [emit_of_refused _ _ _ _ _ _ _ _ sv hrec]
    exact ⟨h, rfl⟩
  · rw [emit_of_accepted_eq _ _ _ _ _ _ _ _ sv hrec]
    rw [Event.toDocument_erase_ids]
    obtain ⟨hp, hr, hc⟩ := h.poised.gather_write h.reads .insertOne
      (fun c => (c.insert (e.toDocument sv.clock)).1)
    exact ⟨⟨hp, hr, h.ingested_insert e hc, h.late_insert e hc⟩, rfl⟩

end KeepsOrder

end Service

namespace SessionStep

end SessionStep

namespace Session

end Session

end AuditTrail
