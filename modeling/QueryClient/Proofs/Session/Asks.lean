import QueryClient.Proofs.Session.Upload

/-!
# What a session asks for

A session asks its service for four things: to run a statement, for a page, to cancel a query, and to
take an upload. Each of them is one request, and what the network makes of the request is judged by
what was asked (`Ask.run_of_request`). A request that cannot be made changes nothing
(`Ask.run_of_request_error`).
-/

namespace QueryClient

open Http

/-- The error of a result that has one. -/
def failure? {α : Type} : Result α → Option Error
  | .ok _ => none
  | .error e => some e

section Failure

variable {α β : Type}

@[simp] theorem failure?_ok (a : α) : failure? (.ok a : Result α) = none := rfl

@[simp] theorem failure?_error (e : Error) : failure? (.error e : Result α) = some e := rfl

@[simp] theorem failure?_map (f : α → β) (x : Result α) : failure? (x.map f) = failure? x := by
  cases x <;> rfl

end Failure

theorem Session.receivePage_snd (s : Session) (answer : Result Response) :
    (s.receivePage answer).2
      = (answer.bind (Session.readEnvelope QueryPage.ofBytes)).bind fun page =>
        match page.error with
        | some rejection => .error rejection.toError
        | none => .ok page := by
  unfold Session.receivePage
  split <;> next h =>
    rw [h]
    rfl

/-- What a session asks for. -/
inductive Ask where
  | statement (sql : String)
  | page (uri : String)
  | kill (uri : String)
  | load (u : Load.Upload)

namespace Ask

open Session

/-- The request that asks. -/
def request (s : Session) : Ask → Result Request
  | statement sql => s.request .post queryPath {} (.json (s.statement sql).body) s.pageTimeout
  | page uri => s.request .get uri {} .empty s.pageTimeout
  | kill uri => s.request .post uri {} .empty s.pageTimeout
  | load u => do
    let headers ← insertHeaders {} (("insert_sql", headerSql u.sql) :: u.headers)
    s.request .put loadPath headers (.form ⟨"upload", u.fileName, u.content, u.length⟩) s.loadTimeout

/-- The session after asking, and the error if that failed. -/
def run (s : Session) : Ask → Session × Option Error
  | statement sql => ((s.startQuery sql).1, failure? (s.startQuery sql).2)
  | page uri => ((s.queryPage uri).1, failure? (s.queryPage uri).2)
  | kill uri => ((s.kill uri).1, failure? (s.kill uri).2)
  | load u => ((s.load u).1, failure? (s.load u).2)

/-- The rejection that a success carries in its envelope. The success of a cancellation has none. -/
def rejectionIn : Ask → Option (List UInt8 → Result (Option Rejection))
  | statement _ | page _ => some fun body => (QueryPage.ofBytes body).map (·.error)
  | load _ => some fun body => (LoadReceipt.ofBytes body).map (·.error)
  | kill _ => none

/-- The error in the body of a success. -/
def refusal (rejection : List UInt8 → Result (Option Rejection)) (r : Response) : Option Error :=
  match (readBody r).bind rejection with
  | .error e => some e
  | .ok found => found.map Rejection.toError

/-- The error that comes of a request. -/
def judge (a : Ask) : Except ExchangeFailure Response → Option Error
  | .error failure => some (.transport (.exchange failure))
  | .ok r =>
    if isSuccess r.status then a.rejectionIn.bind (refusal · r) else some (remoteError r)

section Run

variable {s : Session} {a : Ask}

theorem failure?_readEnvelope {α : Type} (ofBytes : List UInt8 → Result α)
    (rejection : α → Option Rejection) (r : Response) :
    failure? ((readEnvelope ofBytes r).bind fun x =>
        match rejection x with
        | some rejection => .error rejection.toError
        | none => .ok x)
      = if isSuccess r.status then refusal (fun body => (ofBytes body).map rejection) r
        else some (remoteError r) := by
  unfold readEnvelope refusal
  by_cases hs : isSuccess r.status = true
  · simp only [hs, if_true]
    cases readBody r with
    | error e => rfl
    | ok body =>
      simp only [Except.bind]
      cases ofBytes body with
      | error e => rfl
      | ok x => cases hx : rejection x <;> simp [hx, Except.map]
  · simp [hs, Except.bind]

theorem run_of_request_error {e : Error} (h : a.request s = .error e) : a.run s = (s, some e) := by
  cases a with
  | statement sql | page uri | kill uri =>
    simp only [request] at h
    simp only [run, startQuery, queryPage, Session.kill, send, h]
    rfl
  | load u =>
    simp only [request] at h
    simp only [run, Session.load]
    cases hh : insertHeaders {} (("insert_sql", headerSql u.sql) :: u.headers) with
    | error e' =>
      rw [hh] at h
      obtain rfl := Except.error.inj h
      rfl
    | ok headers =>
      rw [hh] at h
      replace h : s.request .put loadPath headers
          (.form ⟨"upload", u.fileName, u.content, u.length⟩) s.loadTimeout = .error e := h
      simp only [h]
      rfl

theorem run_of_request {r : Request} (h : a.request s = .ok r) :
    (a.run s).2 = a.judge (s.network.send r).2 := by
  cases a with
  | statement sql | page uri =>
    simp only [request] at h
    simp only [run, startQuery, queryPage, send, h, receivePage_snd]
    cases (s.network.send r).2 with
    | error failure => rfl
    | ok answer => exact failure?_readEnvelope QueryPage.ofBytes (·.error) answer
  | kill uri =>
    simp only [request] at h
    simp only [run, Session.kill, send, h]
    cases (s.network.send r).2 with
    | error failure => rfl
    | ok answer =>
      simp only [judge, rejectionIn, mapError_ok, bind, Except.bind, Option.bind]
      split <;> rfl
  | load u =>
    obtain ⟨headers, hh, hr⟩ := exists_of_bind h
    simp only [run, load_of_fields hh hr]
    cases (s.network.send r).2 with
    | error failure => rfl
    | ok answer => exact failure?_readEnvelope LoadReceipt.ofBytes (·.error) answer

end Run

end Ask

end QueryClient
