import QueryClient.Load.Batch
import QueryClient.Proofs.Load.Records

/-!
# Chunks of a load

Whatever a caller does with a load, its chunks and its buffer hold the records of the rows that were
accepted, one after the other, and its size is their length (`Tallies.calls`). One row is enough to
fill a buffer, so every chunk has at least the size from which on a buffer becomes one; only the last
chunk, which the end of the load makes of what is left, may be smaller.
-/

namespace QueryClient.Load

/-- What a caller does with a load before its end. -/
inductive Call where
  | columns (n : Nat)
  | dialect (d : Dialect)
  | send (row : List String)

namespace Batch

def call (b : Batch) : Call → Batch
  | .columns n => b.withColumns n
  | .dialect d => b.withDialect d
  | .send row => (b.send row).1

def calls (b : Batch) (cs : List Call) : Batch :=
  cs.foldl call b

/-- The row that a call adds to a load. -/
def accepted? (b : Batch) : Call → Option (List String)
  | .send row =>
    match (b.send row).2 with
    | .ok () => some row
    | .error _ => none
  | .columns _ | .dialect _ => none

/-- The rows that calls add to a load, in order. -/
def accepted (b : Batch) : List Call → List (List String)
  | [] => []
  | c :: cs => (b.accepted? c).toList ++ (b.call c).accepted cs

/-- A load counts the rows that it accepted and what it wrote of them. -/
structure Tallies (b : Batch) (taken : List (List String)) : Prop where
  rows : b.rows = taken.length
  content : b.content = b.dialect.records (taken.map fieldBytes)
  size : b.size = b.content.length
  buffered : b.buffered = b.buffer.size
  buffer : b.buffer.size < chunkSize
  chunks : ∀ c ∈ b.chunks, chunkSize ≤ c.size
  wide : ∀ row ∈ taken, row ≠ []

section Append

variable (b : Batch) (bytes : List UInt8)

theorem sealedContent_closeChunk : b.closeChunk.sealedContent = b.content := by
  unfold content sealedContent closeChunk
  split <;> simp_all

@[simp] theorem content_closeChunk : b.closeChunk.content = b.content := by
  rw [← sealedContent_closeChunk b]
  simp [content, closeChunk]

theorem mem_chunks_closeChunk {c : Array UInt8} (h : c ∈ b.closeChunk.chunks) :
    c ∈ b.chunks ∨ c = b.buffer ∧ c.size ≠ 0 := by
  unfold closeChunk at h
  split at h
  · exact .inl h
  · next hb =>
    rcases Array.mem_push.1 h with h | rfl
    · exact .inl h
    · exact .inr ⟨rfl, by simpa using hb⟩

theorem content_append : (b.append bytes).content = b.content ++ bytes := by
  unfold append
  dsimp only
  split
  · rw [content_closeChunk]
    simp [content, sealedContent]
  · simp [content, sealedContent]

theorem append_frame : (b.append bytes).sql = b.sql ∧ (b.append bytes).dialect = b.dialect
    ∧ (b.append bytes).columns = b.columns ∧ (b.append bytes).rows = b.rows
    ∧ (b.append bytes).fault = b.fault := by
  unfold append
  dsimp only
  split <;> exact ⟨rfl, rfl, rfl, rfl, rfl⟩

variable {b}

theorem size_append (h : b.buffered = b.buffer.size) :
    (b.append bytes).size = b.size + bytes.length := by
  have hgrown : (b.buffer ++ bytes).size - b.buffered = bytes.length := by
    rw [h, ← Array.length_toList, Array.toList_appendList, List.length_append, Array.length_toList]
    omega
  unfold append
  dsimp only
  split <;> simp [closeChunk, hgrown]

theorem buffered_append : (b.append bytes).buffered = (b.append bytes).buffer.size := by
  unfold append
  dsimp only
  split <;> simp [closeChunk]

theorem buffer_append_lt : (b.append bytes).buffer.size < chunkSize := by
  unfold append
  dsimp only
  split
  · simp [closeChunk, chunkSize]
  · next h => exact Nat.lt_of_not_le h

theorem chunks_append (h : ∀ c ∈ b.chunks, chunkSize ≤ c.size) :
    ∀ c ∈ (b.append bytes).chunks, chunkSize ≤ c.size := by
  unfold append
  dsimp only
  split
  · next hfull =>
    intro c hc
    rcases mem_chunks_closeChunk _ hc with hc | ⟨rfl, -⟩
    · exact h c hc
    · exact hfull
  · exact h

end Append

variable {b : Batch} {taken : List (List String)}

theorem tallies_new (sql : String) (d : Dialect) : Tallies { sql, dialect := d } [] where
  rows := rfl
  content := rfl
  size := rfl
  buffered := rfl
  buffer := by simp [chunkSize]
  chunks := by simp
  wide := by simp

section Send

variable {row : List String}

theorem send_of_fault {fault : BatchFault} (hf : b.fault = some fault) :
    b.send row = (b, .error fault) := by
  simp only [send, hf]

theorem send_of_misfit (hf : b.fault = none) {expected : Nat}
    (he : b.columns.getD row.length = expected) (h : row.length ≠ expected ∨ row.length = 0) :
    b.send row =
      ({ b with columns := some expected, fault := some (.width b.rows expected row.length) },
        .error (.width b.rows expected row.length)) := by
  have hbad : row.length ≠ expected ∨ expected = 0 := by omega
  simp only [send, hf, he, if_pos hbad]

theorem send_of_fits (hf : b.fault = none) (hlen : row.length = b.columns.getD row.length)
    (hpos : row.length ≠ 0) :
    ∃ w, w = { b with columns := some row.length }.append (b.dialect.record (fieldBytes row))
      ∧ b.send row = ({ w with rows := w.rows + 1 }, .ok ()) := by
  refine ⟨_, rfl, ?_⟩
  simp only [send, hf, ← hlen, ne_eq, not_true_eq_false, hpos, or_self, if_false]

/-- A row that is accepted is written to the load; one that is refused leaves a fault. -/
theorem send_cases (b : Batch) (row : List String) :
    (∃ fault columns, b.send row = ({ b with columns, fault := some fault }, .error fault))
      ∨ b.fault = none ∧ row ≠ [] ∧ row.length = b.columns.getD row.length
        ∧ ∃ w, w = { b with columns := some row.length }.append (b.dialect.record (fieldBytes row))
          ∧ b.send row = ({ w with rows := w.rows + 1 }, .ok ()) := by
  by_cases hf : b.fault = none
  · by_cases h : row.length ≠ b.columns.getD row.length ∨ row.length = 0
    · exact .inl ⟨_, _, send_of_misfit hf rfl h⟩
    · obtain ⟨hlen, hpos⟩ : row.length = b.columns.getD row.length ∧ row.length ≠ 0 := by omega
      have hrow : row ≠ [] := fun hnil => hpos (by rw [hnil, List.length_nil])
      exact .inr ⟨hf, hrow, hlen, send_of_fits hf hlen hpos⟩
  · obtain ⟨fault, hfault⟩ := Option.ne_none_iff_exists'.1 hf
    exact .inl ⟨fault, b.columns, by rw [send_of_fault hfault, ← hfault]⟩

end Send

theorem Tallies.refuse (h : Tallies b taken) (fault : Option BatchFault) (columns : Option Nat) :
    Tallies { b with columns, fault } taken :=
  ⟨h.rows, h.content, h.size, h.buffered, h.buffer, h.chunks, h.wide⟩

theorem Tallies.accept (h : Tallies b taken) {row : List String} (hrow : row ≠ []) :
    let w := b.append (b.dialect.record (fieldBytes row))
    Tallies { w with rows := w.rows + 1 } (taken ++ [row]) := by
  intro w
  obtain ⟨-, hd, -, hr, -⟩ := b.append_frame (b.dialect.record (fieldBytes row))
  have hcontent : w.content = b.content ++ b.dialect.record (fieldBytes row) :=
    b.content_append _
  refine ⟨?_, ?_, ?_, buffered_append _, buffer_append_lt _, chunks_append _ h.chunks, ?_⟩
  · simp [w, hr, h.rows]
  · change w.content = w.dialect.records _
    rw [hcontent, hd, h.content]
    simp [Dialect.records]
  · change w.size = w.content.length
    rw [hcontent, size_append _ h.buffered, h.size, List.length_append]
  · simpa [or_imp, forall_and, hrow] using h.wide

theorem Tallies.of_rows_eq_zero (h : Tallies b taken) (hr : b.rows = 0) :
    taken = [] ∧ b.sealedContent = [] ∧ b.buffer.toList = [] := by
  obtain rfl : taken = [] := List.eq_nil_of_length_eq_zero (h.rows ▸ hr)
  exact ⟨rfl, List.append_eq_nil_iff.1 h.content⟩

/-- The dialect may change while nothing is written. -/
theorem Tallies.withDialect (h : Tallies b taken) (d : Dialect) :
    Tallies (b.withDialect d) taken := by
  unfold Batch.withDialect
  split
  · next hr =>
    obtain ⟨rfl, hsealed, hbuffer⟩ := h.of_rows_eq_zero hr
    have hnil : (Batch.content { b with dialect := d, buffer := #[] }) = [] := by
      change b.sealedContent ++ [] = []
      rw [hsealed, List.append_nil]
    have hsize : b.size = 0 := by
      rw [h.size, h.content]
      rfl
    have hbuffered : b.buffered = 0 := by
      simpa [h.buffered] using hbuffer
    refine ⟨hr, hnil, ?_, hbuffered, by simp [chunkSize], h.chunks, h.wide⟩
    rw [hnil]
    exact hsize
  · exact h.refuse _ _

theorem Tallies.call (h : Tallies b taken) (c : Call) :
    Tallies (b.call c) (taken ++ (b.accepted? c).toList) := by
  cases c with
  | columns n =>
    rw [accepted?, Option.toList_none, List.append_nil]
    exact h.refuse _ _
  | dialect d =>
    rw [accepted?, Option.toList_none, List.append_nil]
    exact h.withDialect d
  | send row =>
    rcases b.send_cases row with ⟨fault, columns, hs⟩ | ⟨-, hrow, -, w, rfl, hs⟩
    · simp only [Batch.call, accepted?, hs, Option.toList_none, List.append_nil]
      exact h.refuse _ _
    · simp only [Batch.call, accepted?, hs, Option.toList_some]
      exact (h.refuse _ _).accept hrow

theorem Tallies.calls (h : Tallies b taken) (cs : List Call) :
    Tallies (b.calls cs) (taken ++ b.accepted cs) := by
  induction cs generalizing b taken with
  | nil => simpa [Batch.calls, accepted] using h
  | cons c cs ih =>
    rw [accepted, ← List.append_assoc]
    exact ih (h.call c)

theorem dialect_call {c : Call} (h : ∀ d, c ≠ .dialect d) : (b.call c).dialect = b.dialect := by
  cases c with
  | columns n => rfl
  | dialect d => exact absurd rfl (h d)
  | send row =>
    rcases b.send_cases row with ⟨fault, columns, hs⟩ | ⟨-, -, -, w, rfl, hs⟩
    · simp only [Batch.call, hs]
    · simp only [Batch.call, hs, (append_frame _ _).2.1]

theorem dialect_calls {cs : List Call} (h : ∀ d, Call.dialect d ∉ cs) :
    (b.calls cs).dialect = b.dialect := by
  induction cs generalizing b with
  | nil => rfl
  | cons c cs ih =>
    have hc : (b.call c).dialect = b.dialect :=
      dialect_call fun d hd => h d (hd ▸ List.mem_cons_self)
    exact (ih fun d hd => h d (List.mem_cons_of_mem _ hd)).trans hc

/-! ## Rows one after the other -/

section SendAll

variable {n : Nat} {row : List String}

theorem send_fitting (hf : b.fault = none) (hc : b.columns = some n) (hn : n ≠ 0)
    (hlen : row.length = n) :
    ∃ w, b.send row = (w, .ok ()) ∧ w.sql = b.sql ∧ w.dialect = b.dialect ∧ w.fault = none
      ∧ w.columns = some n ∧ w.rows = b.rows + 1
      ∧ ∀ taken, Tallies b taken → Tallies w (taken ++ [row]) := by
  have hrow : row ≠ [] := by
    rintro rfl
    exact hn hlen.symm
  have hsame : { b with columns := some row.length } = b := by rw [hlen, ← hc]
  obtain ⟨w, hw, hs⟩ := send_of_fits hf (by rw [hc, Option.getD_some, hlen]) (by rwa [hlen])
  rw [hsame] at hw
  obtain ⟨hsql, hd, hcols, hr, hfault⟩ := b.append_frame (b.dialect.record (fieldBytes row))
  rw [← hw] at hsql hd hcols hr hfault
  exact ⟨{ w with rows := w.rows + 1 }, hs, hsql, hd, hfault.trans hf, hcols.trans hc,
    congrArg (· + 1) hr, fun taken h => hw ▸ h.accept hrow⟩

theorem sendAll_fits {rows : List (List String)} (hf : b.fault = none) (hc : b.columns = some n)
    (hn : n ≠ 0) (hrows : ∀ row ∈ rows, row.length = n) (h : Tallies b taken) :
    ∃ w, b.sendAll rows = (w, .ok ()) ∧ w.sql = b.sql ∧ w.dialect = b.dialect ∧ w.fault = none
      ∧ Tallies w (taken ++ rows) := by
  induction rows generalizing b taken with
  | nil => exact ⟨b, rfl, rfl, rfl, hf, by rwa [List.append_nil]⟩
  | cons row rows ih =>
    obtain ⟨hrow, hrows⟩ := List.forall_mem_cons.1 hrows
    obtain ⟨w, hs, hsql, hd, hwf, hwc, -, hw⟩ := send_fitting hf hc hn hrow
    obtain ⟨w', hs', hsql', hd', hwf', hw'⟩ := ih hwf hwc hrows (hw taken h)
    refine ⟨w', ?_, hsql'.trans hsql, hd'.trans hd, hwf', by simpa using hw'⟩
    simp only [sendAll, hs, hs']

theorem sendAll_misfit {fitting : List (List String)} (hf : b.fault = none)
    (hc : b.columns = some n) (hfit : ∀ r ∈ fitting, ¬ (r.length ≠ n ∨ n = 0))
    (h : row.length ≠ n ∨ n = 0) (rest : List (List String)) :
    (b.sendAll (fitting ++ row :: rest)).2
      = .error (.width (b.rows + fitting.length) n row.length) := by
  induction fitting generalizing b with
  | nil =>
    have hwidth : b.columns.getD row.length = n := by rw [hc, Option.getD_some]
    have hs := send_of_misfit hf hwidth (by omega)
    simp only [List.nil_append, sendAll, hs, List.length_nil, Nat.add_zero]
  | cons r fitting ih =>
    obtain ⟨hr, hfit⟩ := List.forall_mem_cons.1 hfit
    obtain ⟨hlen, hn⟩ : r.length = n ∧ n ≠ 0 := by omega
    obtain ⟨w, hs, -, -, hwf, hwc, hwr, -⟩ := send_fitting hf hc hn hlen
    have hnext := ih hwf hwc hfit
    simp only [List.cons_append, sendAll, hs, hnext, hwr, List.length_cons, Nat.add_assoc,
      Nat.add_comm 1]

/-- The first row sets the width of a load. -/
theorem sendAll_withColumns (hf : b.fault = none) (hc : b.columns = none) (row : List String)
    (rows : List (List String)) :
    (b.withColumns row.length).sendAll (row :: rows) = b.sendAll (row :: rows) := by
  simp only [sendAll, send, withColumns, hf, hc, Option.getD_none, Option.getD_some]

end SendAll

section Finish

theorem Tallies.length_content (h : Tallies b taken) :
    b.content.length = (taken.map fun row => b.dialect.recordSize (fieldBytes row)).sum := by
  have hwide : ∀ row ∈ taken.map fieldBytes, row ≠ [] := by
    simpa [fieldBytes] using h.wide
  rw [h.content, b.dialect.length_records hwide, List.map_map]
  rfl

theorem Tallies.finish (h : Tallies b taken) (hf : b.fault = none) (ht : taken ≠ []) :
    b.finish
      = .ok (some ⟨b.sql, b.dialect.headers, b.content, b.content.length, "upload.csv"⟩) := by
  have hrows : b.rows ≠ 0 := by
    rw [h.rows]
    exact mt List.eq_nil_of_length_eq_zero ht
  simp [Batch.finish, hf, hrows, sealedContent_closeChunk, h.size]

/-- The end of a load leaves its complete chunks and adds at most one. -/
theorem Tallies.chunks_closeChunk (h : Tallies b taken) :
    (∀ c ∈ b.closeChunk.chunks, c.size ≠ 0)
      ∧ ∀ c ∈ b.closeChunk.chunks.toList.dropLast, chunkSize ≤ c.size := by
  have hpos : ∀ c ∈ b.chunks, c.size ≠ 0 := fun c hc hz => by
    have := h.chunks c hc
    simp [chunkSize, hz] at this
  refine ⟨fun c hc => ?_, fun c hc => ?_⟩
  · rcases mem_chunks_closeChunk b hc with hc | ⟨-, hc⟩
    · exact hpos c hc
    · exact hc
  · refine h.chunks c ?_
    unfold closeChunk at hc
    dsimp only at hc
    split at hc
    · exact Array.mem_toList_iff.1 (List.dropLast_subset _ hc)
    · simpa using hc

end Finish

end Batch

end QueryClient.Load
