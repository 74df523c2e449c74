import Mathlib.Data.List.Induction
import QueryClient.Connection
import QueryClient.Proofs.Load.Chunks

/-!
# Rejected loads

Which call on a load is rejected, and with which fault, can be told from the calls before it: a row
that does not have the width then in force or has no field, and a change of dialect once a row was
sent (`Rejects`). Up to that call a load takes every call (`Follows.calls`); from then on none
changes what the load holds or what it answers (`SpoiledBy.calls`).
-/

namespace QueryClient.Load

/-! ## Calls that are rejected -/

def Call.isSend : Call → Bool
  | .send _ => true
  | .columns _ | .dialect _ => false

/-- The width that rows must have after a call, which is the last one that was set. The first row
sets it where nothing else does. -/
def Call.width? (before : Option Nat) : Call → Option Nat
  | .columns n => some n
  | .dialect _ => before
  | .send row => before.or (some row.length)

def width? (cs : List Call) : Option Nat :=
  cs.foldl Call.width? none

/-- How many rows are sent. -/
def sends (cs : List Call) : Nat :=
  cs.countP Call.isSend

/-- A call that cannot be taken after those that were, and the fault it has. -/
inductive Rejects (taken : List Call) : Call → BatchFault → Prop
  | width {row : List String} {expected : Nat} (he : (width? taken).getD row.length = expected)
      (h : row.length ≠ expected ∨ row.length = 0) :
      Rejects taken (.send row) (.width (sends taken) expected row.length)
  | lateDialect {row : List String} (h : Call.send row ∈ taken) (d : Dialect) :
      Rejects taken (.dialect d) .lateDialect

/-- Calls of which none is rejected. -/
inductive Takes : List Call → Prop
  | nil : Takes []
  | concat {cs : List Call} {c : Call} (h : Takes cs) (hc : ∀ f, ¬ Rejects cs c f) :
      Takes (cs ++ [c])

/-- Unless all calls are taken, there is a first one that is rejected. -/
theorem takes_or_rejects (cs : List Call) :
    Takes cs ∨ ∃ taken c f after, cs = taken ++ c :: after ∧ Takes taken ∧ Rejects taken c f := by
  -- On the last call, since whether a call is rejected depends on those before it.
  induction cs using List.reverseRecOn with
  | nil => exact .inl .nil
  | append_singleton cs c ih =>
    rcases ih with h | ⟨taken, c', f, after, rfl, h, hf⟩
    · by_cases hc : ∃ f, Rejects cs c f
      · obtain ⟨f, hf⟩ := hc
        exact .inr ⟨cs, c, f, [], rfl, h, hf⟩
      · exact .inl (h.concat (not_exists.1 hc))
    · exact .inr ⟨taken, c', f, after ++ [c], by simp, h, hf⟩

theorem width?_concat (cs : List Call) (c : Call) : width? (cs ++ [c]) = c.width? (width? cs) := by
  simp [width?]

theorem sends_concat (cs : List Call) (c : Call) :
    sends (cs ++ [c]) = sends cs + if c.isSend then 1 else 0 := by
  simp [sends, List.countP_cons]

theorem sends_ne_zero_iff {cs : List Call} : sends cs ≠ 0 ↔ ∃ row, Call.send row ∈ cs := by
  rw [sends, ← Nat.pos_iff_ne_zero, List.countP_pos_iff]
  constructor
  · rintro ⟨c, hc, hs⟩
    cases c with
    | columns n => cases hs
    | dialect d => cases hs
    | send row => exact ⟨row, hc⟩
  · rintro ⟨row, hrow⟩
    exact ⟨_, hrow, rfl⟩

namespace Batch

theorem calls_append (b : Batch) (cs ds : List Call) : b.calls (cs ++ ds) = (b.calls cs).calls ds :=
  List.foldl_append

/-! ## Before the first fault -/

/-- A load after calls of which it took each. -/
structure Follows (cs : List Call) (b : Batch) : Prop where
  fault : b.fault = none
  rows : b.rows = sends cs
  columns : b.columns = width? cs

/-- A load that has a fault, and holds what it held before. -/
structure SpoiledBy (f : BatchFault) (b spoiled : Batch) : Prop where
  fault : spoiled.fault = some f
  rows : spoiled.rows = b.rows
  size : spoiled.size = b.size
  chunks : spoiled.chunks = b.chunks
  buffer : spoiled.buffer = b.buffer

variable {b spoiled : Batch} {taken : List (List String)} {cs : List Call} {c : Call}
  {f : BatchFault} {row : List String}

section Follows

theorem Follows.call (h : Follows cs b) (hc : ∀ f, ¬ Rejects cs c f) :
    Follows (cs ++ [c]) (b.call c) := by
  cases c with
  | columns n =>
    exact ⟨h.fault, h.rows.trans (sends_concat cs (.columns n)).symm,
      (width?_concat cs (.columns n)).symm⟩
  | dialect d =>
    have hrows : b.rows = 0 := by
      rw [h.rows]
      by_contra hne
      obtain ⟨row, hrow⟩ := sends_ne_zero_iff.1 hne
      exact hc _ (.lateDialect hrow d)
    simp only [Batch.call, withDialect, if_pos hrows]
    exact ⟨h.fault, h.rows.trans (sends_concat cs (.dialect d)).symm,
      h.columns.trans (width?_concat cs (.dialect d)).symm⟩
  | send row =>
    have hfits : ¬ (row.length ≠ b.columns.getD row.length ∨ row.length = 0) := fun hbad =>
      hc _ (.width (by rw [h.columns]) hbad)
    obtain ⟨hlen, hpos⟩ : row.length = b.columns.getD row.length ∧ row.length ≠ 0 := by omega
    obtain ⟨w, rfl, hs⟩ := send_of_fits h.fault hlen hpos
    obtain ⟨-, -, hcolumns, hrows, hfault⟩ :=
      append_frame { b with columns := some row.length } (b.dialect.record (fieldBytes row))
    simp only [Batch.call, hs]
    refine ⟨hfault.trans h.fault, ?_, ?_⟩
    · rw [hrows, sends_concat, h.rows]
      rfl
    · rw [hcolumns, width?_concat, ← h.columns]
      cases hn : b.columns with
      | none => rfl
      | some n =>
        rw [hn, Option.getD_some] at hlen
        rw [hlen]
        rfl

theorem Follows.spoils (h : Follows cs b) (hf : Rejects cs c f) :
    SpoiledBy f b (b.call c) ∧ ∀ row, c = .send row → (b.send row).2 = .error f := by
  cases hf with
  | width he hbad =>
    have hs := send_of_misfit h.fault (by rw [h.columns, he]) hbad
    rw [h.rows] at hs
    constructor
    · simp only [Batch.call, hs]
      exact ⟨rfl, h.rows.symm, rfl, rfl, rfl⟩
    · rintro row ⟨⟩
      rw [hs]
  | lateDialect hrow d =>
    have hrows : b.rows ≠ 0 := by
      rw [h.rows]
      exact sends_ne_zero_iff.2 ⟨_, hrow⟩
    constructor
    · simp only [Batch.call, withDialect, if_neg hrows, h.fault, Option.none_or]
      exact ⟨rfl, rfl, rfl, rfl, rfl⟩
    · rintro row ⟨⟩

theorem Follows.calls (sql : String) (d : Dialect) (h : Takes cs) :
    Follows cs (calls { sql, dialect := d } cs) := by
  induction h with
  | nil => exact ⟨rfl, rfl, rfl⟩
  | concat h hc ih =>
    rw [calls_append]
    exact ih.call hc

end Follows

/-! ## After the first fault -/

theorem SpoiledBy.call (h : SpoiledBy f b spoiled) (ht : Tallies b taken) (c : Call) :
    SpoiledBy f b (spoiled.call c) := by
  cases c with
  | columns n => exact ⟨h.fault, h.rows, h.size, h.chunks, h.buffer⟩
  | dialect d =>
    simp only [Batch.call, withDialect]
    split
    · next hrows =>
      -- A new dialect drops the buffer, which without a row is empty.
      obtain ⟨-, -, hbuffer⟩ := ht.of_rows_eq_zero (h.rows ▸ hrows)
      exact ⟨h.fault, h.rows, h.size, h.chunks, (Array.toList_eq_nil_iff.1 hbuffer).symm⟩
    · exact ⟨by rw [h.fault, Option.some_or], h.rows, h.size, h.chunks, h.buffer⟩
  | send row =>
    simp only [Batch.call, send_of_fault h.fault]
    exact h

theorem SpoiledBy.calls (h : SpoiledBy f b spoiled) (ht : Tallies b taken) (cs : List Call) :
    SpoiledBy f b (spoiled.calls cs) := by
  induction cs generalizing spoiled with
  | nil => exact h
  | cons c cs ih => exact ih (h.call ht c)

theorem SpoiledBy.content (h : SpoiledBy f b spoiled) : spoiled.content = b.content := by
  simp only [Batch.content, sealedContent, h.chunks, h.buffer]

theorem SpoiledBy.finalize (h : SpoiledBy f b spoiled) (s : Session) :
    s.finalize spoiled = (s, .error f.toError) := by
  simp only [Session.finalize, finish, h.fault]

theorem spoiledBy_calls (sql : String) (d : Dialect) {cs : List Call} (h : Takes cs)
    (hf : Rejects cs c f) (after : List Call) :
    let start : Batch := { sql, dialect := d }
    SpoiledBy f (start.calls cs) (start.calls (cs ++ c :: after)) := by
  intro start
  obtain ⟨hspoiled, -⟩ := (Follows.calls sql d h).spoils hf
  rw [calls_append]
  exact hspoiled.calls ((tallies_new sql d).calls cs) after

theorem fault_calls_eq_none_iff (sql : String) (d : Dialect) (cs : List Call) :
    (calls { sql, dialect := d } cs).fault = none ↔ Takes cs := by
  constructor
  · intro hnone
    rcases takes_or_rejects cs with h | ⟨taken, c, f, after, rfl, h, hf⟩
    · exact h
    · rw [(spoiledBy_calls sql d h hf after).fault] at hnone
      cases hnone
  · exact fun h => (Follows.calls sql d h).fault

theorem fault_send (b : Batch) (row : List String) :
    (b.send row).2 = .ok () ↔ (b.send row).1.fault = none := by
  rcases b.send_cases row with ⟨fault, columns, hs⟩ | ⟨hf, -, -, w, rfl, hs⟩
  · simp [hs]
  · simp [hs, (append_frame _ _).2.2.2.2, hf]

theorem send_adds {w : Batch} (h : b.send row = (w, .ok ())) :
    w.rows = b.rows + 1 ∧ w.content = b.content ++ b.dialect.record (fieldBytes row) := by
  rcases b.send_cases row with ⟨fault, columns, hs⟩ | ⟨-, -, -, w', rfl, hs⟩
  · rw [hs] at h
    cases h
  · rw [hs] at h
    cases h
    exact ⟨congrArg (· + 1) (append_frame _ _).2.2.2.1, content_append _ _⟩

/-- A load takes calls up to the first one that it rejects. From then on every row and the end of
the load are refused for what was wrong with that call, nothing that was gathered changes, and
nothing is sent. A row that is taken is the only thing that is added. -/
theorem spoiled_of_calls (sql : String) (d : Dialect) :
    let start : Batch := { sql, dialect := d }
    (∀ cs, (start.calls cs).fault = none ↔ Takes cs)
      ∧ (∀ cs row, ((start.calls cs).send row).2 = .ok () ↔ Takes (cs ++ [.send row]))
      ∧ (∀ cs row w, (start.calls cs).send row = (w, .ok ()) →
        w.rows = (start.calls cs).rows + 1
          ∧ w.content
            = (start.calls cs).content ++ (start.calls cs).dialect.record (fieldBytes row))
      ∧ ∀ taken c f, Takes taken → Rejects taken c f → ∀ after,
        let b := start.calls taken
        let spoiled := start.calls (taken ++ c :: after)
        (∀ row, c = .send row → (b.send row).2 = .error f)
          ∧ spoiled.fault = some f
          ∧ (∀ row, spoiled.send row = (spoiled, .error f))
          ∧ spoiled.rows = b.rows ∧ spoiled.size = b.size ∧ spoiled.content = b.content
          ∧ spoiled.chunks = b.chunks ∧ spoiled.buffer = b.buffer
          ∧ ∀ s : Session, s.finalize spoiled = (s, .error f.toError) := by
  intro start
  refine ⟨fault_calls_eq_none_iff sql d, fun cs row => ?_, fun cs row w => send_adds, ?_⟩
  · rw [← fault_calls_eq_none_iff sql d, calls_append]
    exact fault_send _ row
  · intro taken c f ht hf after b spoiled
    have h : SpoiledBy f b spoiled := spoiledBy_calls sql d ht hf after
    exact ⟨((Follows.calls sql d ht).spoils hf).2, h.fault, fun _ => send_of_fault h.fault, h.rows,
      h.size, h.content, h.chunks, h.buffer, h.finalize⟩

/-- The width changes between two rows, and so does the dialect after the fault. -/
theorem spoiled_of_calls_width_changed :
    let start : Batch := { sql := "INSERT INTO t VALUES" }
    let taken : List Call := [.columns 2, .send ["a", "b"], .columns 3]
    let after : List Call := [.columns 2, .dialect { recordEnd := .crlf }, .send ["e", "f"]]
    let spoiled := start.calls (taken ++ .send ["c", "d"] :: after)
    (∃ w, start.send ["a", "b"] = (w, .ok ()) ∧ w.rows = 1)
      ∧ Takes taken ∧ Rejects taken (.send ["c", "d"]) (.width 1 3 2)
      ∧ ((start.calls taken).send ["c", "d"]).2 = .error (.width 1 3 2)
      ∧ (∀ row, spoiled.send row = (spoiled, .error (.width 1 3 2)))
      ∧ spoiled.content = (start.calls taken).content
      ∧ ∀ s : Session, s.finalize spoiled = (s, .error (.schemaMismatch 1 3 2)) := by
  intro start taken after spoiled
  obtain ⟨-, -, hadds, hspoils⟩ := spoiled_of_calls "INSERT INTO t VALUES" {}
  have hset : Takes ([] ++ [.columns 2]) := Takes.nil.concat nofun
  have hsent : Takes ([.columns 2] ++ [.send ["a", "b"]]) := by
    refine hset.concat ?_
    rintro _ ⟨rfl, h⟩
    revert h
    decide
  have ht : Takes taken := hsent.concat nofun
  have hf : Rejects taken (.send ["c", "d"]) (.width 1 3 2) := .width rfl (by decide)
  obtain ⟨w, hs⟩ : ∃ w, start.send ["a", "b"] = (w, .ok ()) := ⟨_, rfl⟩
  obtain ⟨hsend, -, hsends, -, -, hcontent, -, -, hfinalize⟩ := hspoils taken _ _ ht hf after
  exact ⟨⟨w, hs, (hadds [] _ w hs).1⟩, ht, hf, hsend _ rfl, hsends, hcontent, hfinalize⟩

end Batch

end QueryClient.Load
