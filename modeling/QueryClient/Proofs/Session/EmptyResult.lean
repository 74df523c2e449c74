import QueryClient.Proofs.Session.Verdicts
import QueryClient.Proofs.Stream.Reference
import QueryClient.Proofs.Value.Domain

/-!
# Failures are not empty results

Reading a query can fail in many ways, and none of them is the error that says that a result has no
rows: not a request (`Ask.run_ne_emptyResult`), not a schema and not a row.
-/

namespace QueryClient

open Http

section Results

variable {ε α β : Type} {e : ε}

theorem exists_of_mapM_error {f : α → Except ε β} {l : List α} (h : l.mapM f = .error e) :
    ∃ a ∈ l, f a = .error e := by
  induction l with
  | nil => cases h
  | cons a l ih =>
    rw [List.mapM_cons] at h
    rcases error_of_bind h with ha | ⟨b, -, h⟩
    · exact ⟨a, List.mem_cons_self, ha⟩
    · rcases error_of_bind h with hl | ⟨bs, -, h⟩
      · obtain ⟨a', ha', hfa⟩ := ih hl
        exact ⟨a', List.mem_cons_of_mem _ ha', hfa⟩
      · cases h

end Results

/-! ## Requests -/

theorem Http.insertHeaders_ne_emptyResult (h : Headers) (l : List (String × String)) :
    insertHeaders h l ≠ .error .emptyResult := by
  induction l generalizing h with
  | nil => simp [insertHeaders]
  | cons f l ih =>
    intro he
    unfold insertHeaders at he
    rcases error_of_bind he with he | ⟨h', -, he⟩
    · unfold insertHeader at he
      split at he
      · simp at he
      · split at he <;> simp at he
    · exact ih h' he

theorem Session.request_ne_emptyResult (s : Session) (method : Method) (uri : String)
    (further : Headers) (body : Body) (timeout : Duration) :
    s.request method uri further body timeout ≠ .error .emptyResult := by
  intro h
  unfold request at h
  split at h
  · simp at h
  · rcases error_of_bind h with h | ⟨headers, -, h⟩
    · exact insertHeaders_ne_emptyResult _ _ h
    · cases h

namespace Ask

open Session

theorem request_ne_emptyResult (s : Session) (a : Ask) : a.request s ≠ .error .emptyResult := by
  intro h
  cases a with
  | statement _ | page _ | kill _ =>
    unfold request at h
    exact Session.request_ne_emptyResult _ _ _ _ _ _ h
  | load u =>
    unfold request at h
    rcases error_of_bind h with h | ⟨headers, -, h⟩
    · exact insertHeaders_ne_emptyResult _ _ h
    · exact Session.request_ne_emptyResult _ _ _ _ _ _ h

theorem run_ne_emptyResult (s : Session) (a : Ask) : (a.run s).2 ≠ some .emptyResult := by
  cases hr : a.request s with
  | error e =>
    rw [run_of_request_error hr]
    rintro ⟨⟩
    exact a.request_ne_emptyResult s hr
  | ok r =>
    intro h
    have hv := (verdict_iff hr _).2 h
    generalize (s.network.send r).2 = x at hv
    cases hv

end Ask

namespace Session

theorem startQuery_ne_emptyResult (s : Session) (sql : String) :
    (s.startQuery sql).2 ≠ .error .emptyResult := by
  intro h
  refine Ask.run_ne_emptyResult s (.statement sql) ?_
  simp [Ask.run, h]

theorem queryPage_ne_emptyResult (s : Session) (uri : String) :
    (s.queryPage uri).2 ≠ .error .emptyResult := by
  intro h
  refine Ask.run_ne_emptyResult s (.page uri) ?_
  simp [Ask.run, h]

end Session

/-! ## Schemas and rows -/

theorem ColumnType.ofChars_ne_emptyResult (text : List Char) :
    ofChars text ≠ .error .emptyResult := by
  fun_induction ofChars text with
  | case1 text body h hlt ih => exact fun h => ih (error_of_map h)
  | case2 text h type ht => simp
  | case3 text h ht => simp

namespace Reading

theorem columns_ne_emptyResult (schema : List SchemaField) :
    schema.mapM Column.ofField ≠ .error .emptyResult := by
  intro h
  obtain ⟨field, -, hf⟩ := exists_of_mapM_error h
  exact ColumnType.ofChars_ne_emptyResult _ (error_of_map hf)

theorem readRow_ne_emptyResult (columns : List Column) (n : Nat) (raw : RawRow) :
    readRow columns n raw ≠ .error .emptyResult := by
  intro h
  unfold readRow at h
  split at h
  · obtain ⟨⟨⟨c, field⟩, i⟩, -, hv⟩ := exists_of_mapM_error (error_of_map h)
    cases Value.error_of_decode hv
  · simp at h

end Reading

end QueryClient
