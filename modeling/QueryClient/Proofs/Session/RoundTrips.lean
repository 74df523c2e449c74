import QueryClient.Proofs.Session.Requests

/-!
# What the service said

The log of a session pairs every request that reached the service with what became of it. The state
that a log leaves behind is read off the log alone: it is the last one that came with a page, and the
warehouse is the last one that such a state names (`Config.stateAfter`, `Config.warehouseAfter`). A
session that follows its log still does after it sent a request and adopted what came with the answer
(`Follows.exchange`).
-/

namespace QueryClient

namespace Http

/-- A request that reached the service, and what became of it. -/
structure RoundTrip where
  request : Request
  outcome : Outcome

/-- Whether a request asks for a page. A statement has a body, and a cancellation has none. -/
def asksForPage : Method → Body → Bool
  | .get, _ => true
  | .post, .json _ => true
  | _, _ => false

namespace RoundTrip

/-- The page that was asked for, if it arrived in a success. It may carry a rejection. -/
def page? (t : RoundTrip) : Option QueryPage :=
  match t.outcome with
  | .answer a =>
    if asksForPage t.request.method t.request.body && isSuccess a.status then
      a.read.toOption.bind fun body => (QueryPage.ofBytes body).toOption
    else none
  | .close | .silence => none

def session? (t : RoundTrip) : Option SessionState :=
  t.page?.bind (·.session)

end RoundTrip

/-- The states that the service sent, in order. -/
def sessions (log : List RoundTrip) : List SessionState :=
  log.filterMap RoundTrip.session?

end Http

def SessionState.warehouse? (s : SessionState) : Option String :=
  s.settings.bind (·.get? "warehouse")

open Http

namespace Config

variable (c : Config) (log : List RoundTrip) (t : RoundTrip)

def stateAfter : SessionState :=
  (sessions log).getLast?.getD (.starting c.database c.settings)

def warehouseAfter : Option String :=
  ((sessions log).filterMap SessionState.warehouse?).getLast?.or c.warehouse

theorem stateAfter_append_singleton :
    c.stateAfter (log ++ [t]) = t.session?.getD (c.stateAfter log) := by
  cases ht : t.session? <;> simp [stateAfter, sessions, ht]

theorem warehouseAfter_append_singleton :
    c.warehouseAfter (log ++ [t])
      = (t.session?.bind SessionState.warehouse?).or (c.warehouseAfter log) := by
  cases ht : t.session? with
  | none => simp [warehouseAfter, sessions, ht]
  | some state =>
    cases hw : state.warehouse? <;> simp [warehouseAfter, sessions, ht, hw]

end Config

namespace Session

section Answers

variable {s : Session}

/-- The state that comes with an answer to a request for a page. -/
def sessionIn (answer : Result Response) : Option SessionState :=
  (answer.bind (readEnvelope QueryPage.ofBytes)).toOption.bind (·.session)

theorem receivePage_fst (answer : Result Response) :
    (s.receivePage answer).1 = s.adopt (sessionIn answer) := by
  unfold receivePage sessionIn
  split <;> next h => simp [h, Except.toOption, adopt]

theorem sessionIn_answerOf {r : Request} (hr : asksForPage r.method r.body = true) (o : Outcome) :
    sessionIn (answerOf o) = (RoundTrip.mk r o).session? := by
  cases o with
  | close | silence => rfl
  | answer a =>
    by_cases hs : isSuccess a.status = true
    · have hf : answerOf (.answer a) = .ok a := by
        simp only [answerOf, Outcome.result, isFinal_of_isSuccess hs]
        rfl
      rw [hf]
      simp only [sessionIn, Except.bind, readEnvelope, hs, if_true, RoundTrip.session?,
        RoundTrip.page?, hr, Bool.and_self, readBody]
      cases a.read <;> rfl
    · have hn : sessionIn (answerOf (.answer a)) = none := by
        simp only [sessionIn, answerOf, Outcome.result]
        split <;> simp [Except.bind, readEnvelope, hs, Except.toOption]
      simp [hn, RoundTrip.session?, RoundTrip.page?, hs]

theorem session?_of_not_asksForPage {r : Request} (hr : asksForPage r.method r.body = false) (o : Outcome) :
    (RoundTrip.mk r o).session? = none := by
  cases o <;> simp [RoundTrip.session?, RoundTrip.page?, hr]

@[simp] theorem adopt_none : s.adopt none = s := rfl

theorem adopt_state (o : Option SessionState) : (s.adopt o).state = o.getD s.state := by
  cases o <;> rfl

theorem adopt_warehouse (o : Option SessionState) :
    (s.adopt o).warehouse = (o.bind SessionState.warehouse?).or s.warehouse := by
  cases o <;> rfl

@[simp] theorem adopt_network (o : Option SessionState) : (s.adopt o).network = s.network := by
  cases o <;> rfl

@[simp] theorem adopt_endpoint (o : Option SessionState) : (s.adopt o).endpoint = s.endpoint := by
  cases o <;> rfl

@[simp] theorem adopt_pagination (o : Option SessionState) :
    (s.adopt o).pagination = s.pagination := by
  cases o <;> rfl

end Answers

/-- The round trips of a session whose network answers from a script. -/
def log (answers : List Outcome) (s : Session) : List RoundTrip :=
  (s.network.sent.reverse.zip answers).map fun p => ⟨p.1, p.2⟩

/-- The session is the one that a configuration and the log of the session make. -/
structure Follows (c : Config) (answers : List Outcome) (s : Session) : Prop where
  endpoint : c.endpoint = .ok s.endpoint
  pagination : s.pagination = c.pagination
  sent : s.network.sent.length ≤ answers.length
  script : s.network.script = answers.drop s.network.sent.length
  state : s.state = c.stateAfter (s.log answers)
  warehouse : s.warehouse = c.warehouseAfter (s.log answers)

variable {c : Config} {answers : List Outcome} {s : Session}

theorem follows_start {userAgent : String} {network : Network}
    (h : start c userAgent network = .ok s) (hn : network.sent = []) :
    Follows c network.script s := by
  unfold start at h
  split at h
  · simp at h
  · obtain ⟨endpoint, he, h⟩ := exists_of_bind h
    obtain rfl := Except.ok.inj h
    exact ⟨he, rfl, by simp [hn], by simp [hn], by simp [log, hn, Config.stateAfter, sessions],
      by simp [log, hn, Config.warehouseAfter, sessions]⟩

/-- The log has every request that reached the service. -/
theorem Follows.map_request_log (h : Follows c answers s) :
    (s.log answers).map RoundTrip.request = s.network.sent.reverse := by
  have hlen : s.network.sent.reverse.length ≤ answers.length := by
    rw [List.length_reverse]
    exact h.sent
  rw [log, List.map_map]
  exact List.map_fst_zip hlen

theorem lt_length_of_drop {α : Type} {l rest : List α} {a : α} {n : Nat}
    (h : l.drop n = a :: rest) : n < l.length :=
  Nat.lt_of_not_le fun hle => by simp [List.drop_of_length_le hle] at h

theorem zip_cons_reverse {α β : Type} {sent : List α} {answers rest : List β} {a : α} {b : β}
    (h : answers.drop sent.length = b :: rest) :
    (a :: sent).reverse.zip answers = sent.reverse.zip answers ++ [(a, b)] := by
  have hlen : sent.reverse.length = (answers.take sent.length).length := by
    rw [List.length_reverse, List.length_take, Nat.min_eq_left (Nat.le_of_lt (lt_length_of_drop h))]
  have hsplit : answers = answers.take sent.length ++ b :: rest := by
    rw [← h, List.take_append_drop]
  -- Both sides are cut where the earlier requests end: the old one has nothing behind the cut.
  have hbefore := @List.zip_append _ _ sent.reverse [] (answers.take sent.length) (b :: rest) hlen
  have hafter := @List.zip_append _ _ sent.reverse [a] (answers.take sent.length) (b :: rest) hlen
  rw [List.append_nil, ← hsplit] at hbefore
  rw [← hsplit] at hafter
  rw [List.reverse_cons, hafter, hbefore]
  simp

/-- A session that makes a request and adopts what came for a page follows its log, to which the
request was added if it reached the service. -/
theorem Follows.exchange (h : Follows c answers s) (method : Method) (uri : String)
    (further : Headers) (body : Body) (timeout : Duration) :
    let answered := s.send (s.request method uri further body timeout)
    let found := if asksForPage method body then sessionIn answered.2 else none
    let s' := answered.1.adopt found
    Follows c answers s' ∧ ((s'.log answers = s.log answers ∧ ∃ e, answered.2 = .error e)
      ∨ ∃ t, s'.log answers = s.log answers ++ [t]
        ∧ t.request.method = method ∧ t.request.body = body
        ∧ s.endpoint.join uri = .ok t.request.url
        ∧ t.request.headers.get? warehouseHeader
          = (further.get? warehouseHeader).or (c.warehouseAfter (s.log answers))) := by
  intro answered found s'
  rcases s.send_cases (s.request method uri further body timeout) with
    ⟨nextId, e, hsend⟩ | ⟨request, outcome, rest, waited, hok, hs, hsend⟩
  · have hnone : sessionIn (.error e) = none := rfl
    have heq : s' = { s with nextId } := by
      simp only [s', found, answered, hsend, hnone, ite_self, adopt_none]
    rw [heq]
    exact ⟨⟨h.endpoint, h.pagination, h.sent, h.script, h.state, h.warehouse⟩,
      .inl ⟨rfl, e, by simp only [answered, hsend]⟩⟩
  · obtain ⟨hurl, hmethod, hbody, hnamed⟩ := request_of_ok hok
    have hfound : found = (RoundTrip.mk request outcome).session? := by
      simp only [found, answered, hsend]
      rw [← hmethod, ← hbody]
      split
      · next hasks => exact sessionIn_answerOf hasks outcome
      · next hasks => exact (session?_of_not_asksForPage (by simpa using hasks) outcome).symm
    have hscript : answers.drop s.network.sent.length = outcome :: rest := h.script ▸ hs
    have hlog : s'.log answers = s.log answers ++ [⟨request, outcome⟩] := by
      simp only [s', answered, log, adopt_network, hsend, zip_cons_reverse hscript,
        List.map_append]
      rfl
    refine ⟨⟨?_, ?_, ?_, ?_, ?_, ?_⟩,
      .inr ⟨_, hlog, hmethod, hbody, hurl, by rw [hnamed, h.warehouse]⟩⟩
    · simp [s', answered, hsend, h.endpoint]
    · simp [s', answered, hsend, h.pagination]
    · simp only [s', answered, adopt_network, hsend, List.length_cons]
      exact lt_length_of_drop hscript
    · simp only [s', answered, adopt_network, hsend, List.length_cons]
      rw [← List.tail_drop, hscript, List.tail_cons]
    · rw [hlog, c.stateAfter_append_singleton, ← h.state, ← hfound]
      simp only [s', answered, adopt_state, hsend]
    · rw [hlog, c.warehouseAfter_append_singleton, ← h.warehouse, ← hfound]
      simp only [s', answered, adopt_warehouse, hsend]

end Session

end QueryClient
