import AuditTrail.Proofs.EventStore
import AuditTrail.Proofs.PageCount
import AuditTrail.Export.Content

/-!
# Stored events export

A stored event flattens to the row of its event, and every cell of it fits every writer, so rows
of stored events are written in each format (`ExportContent.write_ok`).
-/

namespace AuditTrail

open Surrogate

/-- A cell every export writer takes: a text with a UTF-8 form, an integer that fits in 8 bytes
or a float. -/
def Value.FitsCell : Value → Prop
  | .str s => occursIn s = false
  | .int n => Value.fitsEightBytes n = true
  | .float _ => True
  | _ => False

/-- The row an event's stored document flattens to, stamped at `t` and filed under object id
`n`. -/
def Event.row (e : Event) (t : Stamp) (n : Nat) : Row where
  cell
    | .id => .str (ObjectId.hex n)
    | .timestamp => .str t.toStored.iso
    | .level => Row.orMissing (some (.str e.level.text))
    | .action => Row.orMissing (some (.str e.action.text))
    | .message => Row.orMissing (some (.str e.message))
    | .userId => Row.orMissing (e.userId.map .str)
    | .resource => Row.orMissing (e.resource.map .str)
    | .resourceId => Row.orMissing (e.resourceId.map .str)
    | .ip => Row.orMissing ((e.context.bind (·.ip)).map .str)
    | .userAgent => Row.orMissing ((e.context.bind (·.userAgent)).map .str)
    | .method => Row.orMissing ((e.context.bind (·.method)).map .str)
    | .url => Row.orMissing ((e.context.bind (·.url)).map .str)
    | .statusCode => Row.orMissing ((e.context.bind (·.statusCode)).map .int)
    | .responseTime => Row.orMissing ((e.context.bind (·.responseTime)).map .float)
    | .errorMessage => Row.orMissing ((e.details.bind (·.error)).map .str)
    | .errorStack => Row.orMissing ((e.details.bind (·.stackTrace)).map .str)
    | .metadata =>
      match (e.details.bind (·.metadata)).map (fun m => Value.record (Value.storedFields m)) with
      | some m => if m.truthy then .str (Json.render Json.Style.spaced m.plain) else .str notAvailable
      | none => .str notAvailable

namespace Row

theorem ofDocument_storedEvent (e : Event) (t : Stamp) (n : Nat) (he : e.ExtrasApart) :
    ofDocument (.record (Value.storedFields (("_id", .objectId n) :: e.toDocument t))) =
      .ok (e.row t n) := by
  obtain ⟨level, action, message, userId, resource, resourceId, details, context⟩ := e
  have hd := he.details
  have hc := he.context
  cases details <;> cases context
  all_goals
    simp only [Option.mem_def, Option.some.injEq, forall_eq', reduceCtorEq, false_implies,
      implies_true] at hd hc
    try replace hd := Record.get?_eq_none_of_apart hd
    try replace hc := Record.get?_eq_none_of_apart hc
    unfold ofDocument Event.row
    simp [Event.toDocument, Record.get?_storedFields, Record.get?_append, part, stampText,
      Value.stored, pure, Except.pure, bind, Except.bind, Function.comp_def, Value.display,
      Details.toRecord, Context.toRecord, Details.fieldNames, Context.fieldNames, hd, hc] <;>
    -- what is left differs only by eta-expanded constructors
    rfl

end Row

theorem occursIn_notAvailable : occursIn notAvailable = false := by
  unfold notAvailable
  decide

namespace Row

theorem orMissing_str_fitsCell {o : Option String} (h : ∀ s ∈ o, occursIn s = false) :
    (orMissing (o.map .str)).FitsCell := by
  cases o with
  | none => exact occursIn_notAvailable
  | some s =>
    by_cases hs : s = ""
    · subst hs
      exact occursIn_notAvailable
    · simpa [orMissing, hs, Value.FitsCell] using h s rfl

theorem orMissing_int_fitsCell {o : Option Int} (h : ∀ n ∈ o, Value.fitsEightBytes n = true) :
    (orMissing (o.map .int)).FitsCell := by
  cases o with
  | none => exact occursIn_notAvailable
  | some n => exact h n rfl

theorem orMissing_float_fitsCell (o : Option Float) : (orMissing (o.map .float)).FitsCell := by
  cases o with
  | none => exact occursIn_notAvailable
  | some x => trivial

end Row

theorem Event.row_fitsCell (e : Event) (t : Stamp) (n : Nat)
    (hacc : Collection.refusal? (e.toDocument t) = none) (col : Column) :
    ((e.row t n).cell col).FitsCell := by
  have henc : ∀ p ∈ e.toDocument t, Value.encodeProblem? p.2 = none := by
    have h := Collection.fieldsEncodeProblem?_of_refusal? hacc
    rw [Record.erase_of_get?_eq_none (by simp [Event.toDocument, Record.get?_append])] at h
    exact Value.encodeProblem?_of_mem h
  have htext : ∀ k s, (k, Value.str s) ∈ e.toDocument t → occursIn s = false :=
    fun k s h => Value.encodeProblem?_str.1 (henc _ h)
  have hpart : ∀ k fs, (k, Value.record fs) ∈ e.toDocument t →
      ∀ p ∈ fs, Value.encodeProblem? p.2 = none := fun k fs h =>
    Value.encodeProblem?_of_mem (by simpa [Value.encodeProblem?] using henc _ h)
  have hctx : ∀ c ∈ e.context, ∀ p ∈ c.toRecord, Value.encodeProblem? p.2 = none := fun c hc =>
    hpart "context" _ (by simp [Event.toDocument, mem_setEntries, Option.mem_def.1 hc])
  have hdet : ∀ d ∈ e.details, ∀ p ∈ d.toRecord, Value.encodeProblem? p.2 = none := fun d hd =>
    hpart "details" _ (by simp [Event.toDocument, mem_setEntries, Option.mem_def.1 hd])
  have hctext : ∀ (f : Context → Option String) (k : String),
      (∀ c : Context, ∀ s ∈ f c, (k, Value.str s) ∈ c.toRecord) →
      ∀ s ∈ e.context.bind f, occursIn s = false := by
    intro f k hk s hs
    obtain ⟨c, hc, hs⟩ := Option.mem_bind_iff.1 hs
    exact Value.encodeProblem?_str.1 (hctx c hc _ (hk c s hs))
  have hdtext : ∀ (f : Details → Option String) (k : String),
      (∀ d : Details, ∀ s ∈ f d, (k, Value.str s) ∈ d.toRecord) →
      ∀ s ∈ e.details.bind f, occursIn s = false := by
    intro f k hk s hs
    obtain ⟨d, hd, hs⟩ := Option.mem_bind_iff.1 hs
    exact Value.encodeProblem?_str.1 (hdet d hd _ (hk d s hs))
  cases col with
  | id => exact ObjectId.occursIn_hex n
  | timestamp => exact Stamp.occursIn_iso _
  | level =>
    refine Row.orMissing_str_fitsCell (o := some _) fun s hs => ?_
    obtain rfl := Option.mem_some_iff.1 hs
    exact htext "level" _ (by simp [Event.toDocument, mem_setEntries])
  | action =>
    refine Row.orMissing_str_fitsCell (o := some _) fun s hs => ?_
    obtain rfl := Option.mem_some_iff.1 hs
    exact htext "action" _ (by simp [Event.toDocument, mem_setEntries])
  | message =>
    refine Row.orMissing_str_fitsCell (o := some _) fun s hs => ?_
    obtain rfl := Option.mem_some_iff.1 hs
    exact htext "message" _ (by simp [Event.toDocument, mem_setEntries])
  | userId =>
    exact Row.orMissing_str_fitsCell fun s hs =>
      htext "userId" s (by simp [Event.toDocument, mem_setEntries, Option.mem_def.1 hs])
  | resource =>
    exact Row.orMissing_str_fitsCell fun s hs =>
      htext "resource" s (by simp [Event.toDocument, mem_setEntries, Option.mem_def.1 hs])
  | resourceId =>
    exact Row.orMissing_str_fitsCell fun s hs =>
      htext "resourceId" s (by simp [Event.toDocument, mem_setEntries, Option.mem_def.1 hs])
  | ip =>
    exact Row.orMissing_str_fitsCell (hctext _ "ip" fun c s hs => by
      simp [Context.toRecord, mem_setEntries, Option.mem_def.1 hs])
  | userAgent =>
    exact Row.orMissing_str_fitsCell (hctext _ "userAgent" fun c s hs => by
      simp [Context.toRecord, mem_setEntries, Option.mem_def.1 hs])
  | method =>
    exact Row.orMissing_str_fitsCell (hctext _ "method" fun c s hs => by
      simp [Context.toRecord, mem_setEntries, Option.mem_def.1 hs])
  | url =>
    exact Row.orMissing_str_fitsCell (hctext _ "url" fun c s hs => by
      simp [Context.toRecord, mem_setEntries, Option.mem_def.1 hs])
  | statusCode =>
    refine Row.orMissing_int_fitsCell fun m hm => ?_
    obtain ⟨c, hc, hm⟩ := Option.mem_bind_iff.1 hm
    exact Value.encodeProblem?_int.1 (hctx c hc ("statusCode", .int m)
      (by simp [Context.toRecord, mem_setEntries, Option.mem_def.1 hm]))
  | responseTime => exact Row.orMissing_float_fitsCell _
  | errorMessage =>
    exact Row.orMissing_str_fitsCell (hdtext _ "error" fun d s hs => by
      simp [Details.toRecord, mem_setEntries, Option.mem_def.1 hs])
  | errorStack =>
    exact Row.orMissing_str_fitsCell (hdtext _ "stackTrace" fun d s hs => by
      simp [Details.toRecord, mem_setEntries, Option.mem_def.1 hs])
  | metadata =>
    show (match (e.details.bind (·.metadata)).map (fun m => Value.record (Value.storedFields m)) with
      | some m => if m.truthy then Value.str (Json.render Json.Style.spaced m.plain)
        else .str notAvailable
      | none => .str notAvailable).FitsCell
    split
    · split
      · exact Json.occursIn_render_spaced _
      · exact occursIn_notAvailable
    · exact occursIn_notAvailable

namespace Ratio

theorem le_scale (a d : Nat) : 52 - (a.log2 : Int) ≤ scale a d := by
  unfold scale
  dsimp only
  split_ifs <;> omega

theorem mantissa_le {a d : Nat} (hk : scale a d ≤ 0) : mantissa a d ≤ a + 1 := by
  unfold mantissa scaled
  dsimp only
  split_ifs with h
  · -- no scaling at all
    have h0 : (scale a d).toNat = 0 := by omega
    calc roundHalfEven (a * Nat.pow 2 (scale a d).toNat) d
        ≤ a * Nat.pow 2 (scale a d).toNat / d + 1 := (roundHalfEven_bounds _ _).2
      _ ≤ a + 1 := by
        rw [h0, Nat.pow_eq, Nat.pow_zero, Nat.mul_one]
        exact Nat.add_le_add_right (Nat.div_le_self a d) 1
  · calc roundHalfEven a (d * Nat.pow 2 (-scale a d).toNat)
        ≤ a / (d * Nat.pow 2 (-scale a d).toNat) + 1 := (roundHalfEven_bounds _ _).2
      _ ≤ a + 1 := Nat.add_le_add_right (Nat.div_le_self _ _) 1

theorem overflows_eq_false {a d : Nat} (ha : a ≤ 2 ^ 63) : overflows a d = false := by
  unfold overflows
  dsimp only
  by_cases hk : scale a d ≤ 0
  · have hlog : a.log2 ≤ 63 := by
      rcases Nat.eq_zero_or_pos a with rfl | hpos
      · simp
      · exact Nat.lt_succ_iff.1 ((Nat.log2_lt hpos.ne').2 (by omega))
    have hj : (-scale a d).toNat ≤ 11 := by
      have := le_scale a d
      omega
    have hsmall : mantissa a d * 2 ^ (-scale a d).toNat < 2 ^ 1024 := by
      calc mantissa a d * 2 ^ (-scale a d).toNat ≤ (2 ^ 63 + 1) * 2 ^ 11 :=
            Nat.mul_le_mul (by have := mantissa_le hk; omega)
              (Nat.pow_le_pow_right (by decide) hj)
        _ < 2 ^ 75 := by norm_num
        _ < 2 ^ 1024 := Nat.pow_lt_pow_right (by norm_num) (by norm_num)
    simp [hsmall]
  · simp [hk]

end Ratio

theorem Float.ofRatio?_isSome_of_fits {n : Int} (h : Value.fitsEightBytes n = true) :
    (Float.ofRatio? n 1).isSome := by
  have ha : n.natAbs ≤ 2 ^ 63 := by
    simp only [Value.fitsEightBytes, Bool.and_eq_true, decide_eq_true_eq] at h
    omega
  unfold Float.ofRatio?
  dsimp only
  rw [Ratio.overflows_eq_false ha]
  split_ifs <;> first | rfl | contradiction

theorem mapM_eq_ok_and_forall {α β ε : Type} {P : β → Prop} (f : α → Except ε β) :
    ∀ xs : List α, (∀ x ∈ xs, ∃ y, f x = .ok y ∧ P y) → ∃ ys, xs.mapM f = .ok ys ∧ ∀ y ∈ ys, P y
  | [], _ => ⟨[], rfl, nofun⟩
  | x :: xs, h => by
    obtain ⟨y, hy, hPy⟩ := h x (List.mem_cons_self ..)
    obtain ⟨ys, hys, hPys⟩ := mapM_eq_ok_and_forall f xs fun x hx => h x (List.mem_cons_of_mem _ hx)
    refine ⟨y :: ys, ?_, ?_⟩
    · simp [List.mapM_cons, hy, hys, bind, Except.bind, pure, Except.pure]
    · intro z hz
      rcases List.mem_cons.1 hz with rfl | hz
      · exact hPy
      · exact hPys z hz

theorem forM_eq_ok {α ε : Type} (f : α → Except ε Unit) :
    ∀ xs : List α, (∀ x ∈ xs, f x = .ok ()) → xs.forM f = .ok ()
  | [], _ => rfl
  | x :: xs, h => by
    unfold List.forM
    rw [h x (List.mem_cons_self ..)]
    exact forM_eq_ok f xs fun y hy => h y (List.mem_cons_of_mem _ hy)

theorem Csv.occursIn_cellText {v : Value} (h : v.FitsCell) : occursIn (Csv.cellText v) = false := by
  cases v with
  | str s => exact h
  | int n => exact occursIn_toString_int n
  | float x => exact Float.occursIn_shortText x
  | _ => exact h.elim

namespace Sheet

theorem cellValue_fitsCell {v : Value} (h : v.FitsCell) : ∃ w, cellValue v = .ok w ∧ w.FitsCell := by
  cases v with
  | str s =>
    refine ⟨_, rfl, ?_⟩
    simp only [Value.FitsCell, occursIn_ofList, List.any_eq_false]
    intro c hc
    have hs : s.toList.any isStandIn = false := h
    rw [List.any_eq_false] at hs
    exact hs c (List.mem_of_mem_filter (List.mem_of_mem_take hc))
  | int n => exact ⟨_, rfl, h⟩
  | float x => exact ⟨_, rfl, h⟩
  | _ => exact h.elim

theorem build_ok {rows : List Row} (hne : rows ≠ [])
    (hcells : ∀ r ∈ rows, ∀ c, (r.cell c).FitsCell) :
    ∃ s, build rows = .ok s ∧ ∀ r ∈ s.rows, ∀ v ∈ r, v.FitsCell ∨ ∃ t, v = .str t := by
  have hrow : ∀ r ∈ rows, ∃ ws, r.cells.mapM cellValue = .ok ws ∧ ∀ w ∈ ws, w.FitsCell := by
    intro r hr
    refine mapM_eq_ok_and_forall _ _ fun v hv => cellValue_fitsCell ?_
    obtain ⟨c, -, rfl⟩ := List.mem_map.1 hv
    exact hcells r hr c
  obtain ⟨body, hbody, hbody'⟩ := mapM_eq_ok_and_forall _ rows hrow
  obtain ⟨r, rs, rfl⟩ := List.exists_cons_of_ne_nil hne
  have hrows : ∀ x ∈ (Column.all.map fun c => Value.str c.header) :: body,
      ∀ v ∈ x, v.FitsCell ∨ ∃ t, v = .str t := by
    intro x hx v hv
    rcases List.mem_cons.1 hx with rfl | hx
    · obtain ⟨c, -, rfl⟩ := List.mem_map.1 hv
      exact Or.inr ⟨_, rfl⟩
    · exact Or.inl (hbody' x hx v hv)
  unfold build
  rw [hbody]
  cases rs <;> exact ⟨_, rfl, hrows⟩

theorem checkWritable_ok {s : Sheet} (h : ∀ r ∈ s.rows, ∀ v ∈ r, v.FitsCell ∨ ∃ t, v = .str t) :
    s.checkWritable = .ok () := by
  unfold checkWritable
  refine forM_eq_ok _ _ fun r hr => forM_eq_ok _ _ fun v hv => ?_
  rcases h r hr v hv with hv | ⟨t, rfl⟩
  · cases v with
    | int n => simp [Float.ofRatio?_isSome_of_fits hv]
    | str _ | float _ => rfl
    | _ => exact hv.elim
  · rfl

end Sheet

/-- Rows whose every cell fits are written in every format; a workbook needs at least one
row. -/
theorem ExportContent.write_ok {rows : List Row} (hne : rows ≠ [])
    (hcells : ∀ r ∈ rows, ∀ c, (r.cell c).FitsCell) (fmt : ExportFormat) (filters : Value)
    (now : Stamp) : ∃ x, ExportContent.write fmt rows filters now = .ok x := by
  cases fmt with
  | csv =>
    have htext : utf8Refusal? (Csv.write rows) = none := by
      refine (utf8Refusal?_eq_none_iff _).2 (Csv.occursIn_write fun r hr v hv => ?_)
      obtain ⟨c, -, rfl⟩ := List.mem_map.1 hv
      exact Csv.occursIn_cellText (hcells r hr c)
    simp [ExportContent.write, htext]
  | json => exact ⟨_, rfl⟩
  | excel =>
    obtain ⟨s, hs, hcells'⟩ := Sheet.build_ok hne hcells
    refine ⟨.sheet s, ?_⟩
    simp [ExportContent.write, Sheet.write, hs, Sheet.checkWritable_ok hcells', bind, Except.bind,
      pure, Except.pure, Except.map]

end AuditTrail
