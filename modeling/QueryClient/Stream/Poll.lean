import QueryClient.Stream.Basic
import QueryClient.Stream.Source

/-!
# Reading a stream

`RowStream.pollItem` advances a stream by one event. A buffered row is handed out without asking the
source for anything; an empty buffer makes it ask for the next page, unless that was done before.
`RowStream.poll` hands out rows alone, `ProgressStream.poll` the counters of every page as well.
-/

namespace QueryClient

/-- What a poll of a stream comes to. -/
inductive StreamEvent (α : Type) where
  | pending
  | item (a : α)
  | failure (e : Error)
  | over
  deriving DecidableEq, Repr

def StreamEvent.ofResult {α : Type} : Result α → StreamEvent α
  | .ok a => .item a
  | .error e => .failure e

namespace RowStream

variable {σ : Type} (src : PageSource σ)

/-- Polls the page that is on its way. -/
def pollPage (s : RowStream) (w : σ) (uri : String) : RowStream × σ × StreamEvent StreamItem :=
  match src.poll w uri with
  | (w, .pending) => (s, w, .pending)
  | (w, .ready page) =>
    let (s, r) := s.receive page
    (s, w, .ofResult r)

/-- Asks for the next page and polls it at once. Without a link the stream is over. -/
def pollNext (s : RowStream) (w : σ) : RowStream × σ × StreamEvent StreamItem :=
  match s.nextUri with
  | some uri =>
    pollPage src (s.asking uri) (src.fetch w uri) uri
  | none => ({ s with state := .exhausted }, w, .over)

def pollItem (s : RowStream) (w : σ) : RowStream × σ × StreamEvent StreamItem :=
  match s.state, s.buffer with
  | .hasRows, raw :: rest =>
    let (s, r) := s.deliver raw rest
    (s, w, .ofResult r)
  | .hasRows, [] => pollNext src s w
  | .idle, _ => pollNext src s w
  | .fetching uri, _ => pollPage src s w uri
  | .exhausted, _ | .failed, _ | .closed, _ => (s, w, .over)

theorem remaining_pollPage_lt (s : RowStream) (w : σ) (uri : String)
    (h : ∀ e, (pollPage src s w uri).2.2 ≠ .failure e) :
    src.remaining (pollPage src s w uri).2.1 < src.remaining w := by
  have hp := src.remaining_poll_lt w uri
  unfold pollPage at h ⊢
  split at h
  · next w' heq =>
    rw [heq] at hp
    exact hp rfl
  · next w' page heq =>
    rw [heq] at hp
    cases page with
    | ok page => exact hp rfl
    | error e => simp [receive, StreamEvent.ofResult] at h

/-- Every event but a row, a failure and the end uses up some of the source. -/
theorem remaining_pollItem_lt (s : RowStream) (w : σ)
    (h : (pollItem src s w).2.2 = .pending ∨ ∃ c, (pollItem src s w).2.2 = .item (.stats c)) :
    src.remaining (pollItem src s w).2.1 < src.remaining w := by
  have page (s : RowStream) (w : σ) (uri : String)
      (h : (pollPage src s w uri).2.2 = .pending ∨
        ∃ c, (pollPage src s w uri).2.2 = .item (.stats c)) :
      src.remaining (pollPage src s w uri).2.1 < src.remaining w := by
    refine remaining_pollPage_lt src s w uri fun e he => ?_
    rcases h with h | ⟨c, h⟩ <;> simp [he] at h
  have next (s : RowStream) (w : σ)
      (h : (pollNext src s w).2.2 = .pending ∨ ∃ c, (pollNext src s w).2.2 = .item (.stats c)) :
      src.remaining (pollNext src s w).2.1 < src.remaining w := by
    unfold pollNext at h ⊢
    split at h
    · exact Nat.lt_of_lt_of_le (page _ _ _ h) (src.remaining_fetch_le w _)
    · simp at h
  unfold pollItem at h ⊢
  split at h
  · simp only [deliver] at h
    split at h <;> simp [StreamEvent.ofResult] at h
  · exact next _ _ h
  · exact next _ _ h
  · exact page _ _ _ h
  all_goals simp at h

/-- Advances to the next row. -/
def poll (s : RowStream) (w : σ) : RowStream × σ × StreamEvent Row :=
  match h : pollItem src s w with
  | (s', w', .item (.stats _)) =>
    have : src.remaining w' < src.remaining w := by
      simpa [h] using remaining_pollItem_lt src s w (by simp [h])
    poll s' w'
  | (s', w', .item (.row r)) => (s', w', .item r)
  | (s', w', .failure e) => (s', w', .failure e)
  | (s', w', .pending) => (s', w', .pending)
  | (s', w', .over) => (s', w', .over)
termination_by src.remaining w

/-- Stops reading, and waits until the query is cancelled if it has to be. -/
def close (s : RowStream) (w : σ) : RowStream × σ × Result Unit :=
  match s.pendingKill? with
  | some uri =>
    let (w, r) := src.kill w uri
    (s.closed, w, r)
  | none => (s.closed, w, .ok ())

/-- Stops reading; whether the query could be cancelled does not matter. -/
def abandon (s : RowStream) (w : σ) : σ :=
  (close src s w).2.1

/-- Lets go of the stream; the query is cancelled in the background if it has to be. -/
def drop (s : RowStream) (w : σ) : σ :=
  match s.pendingKill? with
  | some uri => src.killDetached w uri
  | none => w

end RowStream

end QueryClient
