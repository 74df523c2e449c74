import QueryClient.Envelope.Basic
import QueryClient.Error

/-!
# Sources of pages

A page is first asked for and then polled until it is there. A source has a measure that every answer
but a failure lowers, so no reader can go on for ever: after finitely many polls a source fails, or
the reader stops asking.
-/

namespace QueryClient

/-- The answer to a poll. -/
inductive PageAnswer where
  | pending
  | ready (page : Result QueryPage)

def PageAnswer.isFailure : PageAnswer → Bool
  | .ready (.error _) => true
  | _ => false

structure PageSource (σ : Type) where
  /-- Asks for the page behind a link. -/
  fetch : σ → String → σ
  /-- Looks whether the page behind a link is there. -/
  poll : σ → String → σ × PageAnswer
  /-- Cancels a query and waits for the outcome. -/
  kill : σ → String → σ × Result Unit
  /-- Cancels a query in the background. -/
  killDetached : σ → String → σ
  /-- How much the source can still answer. -/
  remaining : σ → Nat
  remaining_fetch_le : ∀ w uri, remaining (fetch w uri) ≤ remaining w
  remaining_poll_lt : ∀ w uri, (poll w uri).2.isFailure = false →
    remaining (poll w uri).1 < remaining w

end QueryClient
