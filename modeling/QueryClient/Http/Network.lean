import QueryClient.Http.Message

/-!
# A network of one service

The network serves one origin and answers from a script, which every request that reaches the origin
takes the next outcome of. All other requests are refused, as are those after the script. Time passes
only in requests that are never answered: they take as long as they may.
-/

namespace QueryClient.Http

/-- What becomes of a request. -/
inductive Outcome where
  | answer (r : Response)
  /-- The connection is closed before the answer. -/
  | close
  /-- There is no answer. -/
  | silence
  deriving DecidableEq, Repr

/-- What the sender of a request is told of it. -/
def Outcome.result : Outcome → Except ExchangeFailure Response
  | .answer r => if isFinal r.status then .ok r else .error .closed
  | .close => .error .closed
  | .silence => .error .timedOut

/-- A service and what it does with the requests that reach it. Redirects are followed by the HTTP
library before it tells anything, so an outcome is the one that they lead to, and no request is kept
that the library makes by itself. -/
structure Network where
  /-- The scheme of the origin. -/
  scheme : String := "http"
  host : String
  port : Nat
  script : List Outcome
  /-- The requests that reached the origin, the last one first. -/
  sent : List Request := []
  /-- The time spent on requests without an answer. -/
  waited : Duration := ⟨0⟩

namespace Network

/-- Whether a URL leads to the origin. -/
def serves (n : Network) (u : Url) : Bool :=
  u.scheme = n.scheme && u.host? = some n.host && u.effectivePort? = some n.port

/-- Sends a request and waits for what becomes of it. Nothing follows an answer that only announces
another one. -/
def send (n : Network) (r : Request) : Network × Except ExchangeFailure Response :=
  if r.url.scheme ≠ "http" ∧ r.url.scheme ≠ "https" then (n, .error .unsupportedScheme)
  else if !n.serves r.url then (n, .error .refused)
  else
    match n.script with
    | [] => (n, .error .refused)
    | outcome :: rest =>
      let n := { n with script := rest, sent := r :: n.sent }
      match outcome with
      | .answer response =>
        if isFinal response.status then (n, .ok response) else (n, .error .closed)
      | .close => (n, .error .closed)
      | .silence =>
        ({ n with waited := ⟨n.waited.nanoseconds + r.timeout.nanoseconds⟩ }, .error .timedOut)

/-- A network refuses a request, or it takes the next outcome of the script with it. -/
theorem send_cases (n : Network) (r : Request) :
    (∃ failure, n.send r = (n, .error failure))
      ∨ ∃ outcome rest waited, n.script = outcome :: rest
        ∧ n.send r = ({ n with script := rest, sent := r :: n.sent, waited }, outcome.result) := by
  unfold send
  split
  · exact .inl ⟨_, rfl⟩
  · split
    · exact .inl ⟨_, rfl⟩
    · split
      · exact .inl ⟨_, rfl⟩
      · next outcome rest h =>
        refine .inr ⟨outcome, rest, ?_⟩
        cases outcome with
        | answer a =>
          refine ⟨n.waited, h, ?_⟩
          by_cases ha : isFinal a.status <;> simp [Outcome.result, ha]
        | close => exact ⟨n.waited, h, rfl⟩
        | silence => exact ⟨_, h, rfl⟩

/-- Every answer uses up the script. -/
theorem length_script_send_lt (n : Network) (r : Request) (a : Response)
    (h : (n.send r).2 = .ok a) : (n.send r).1.script.length < n.script.length := by
  rcases n.send_cases r with ⟨failure, hsend⟩ | ⟨outcome, rest, waited, hs, hsend⟩
  · rw [hsend] at h
    cases h
  · rw [hsend, hs, List.length_cons]
    exact Nat.lt_succ_self _

end Network

end QueryClient.Http
