import QueryClient.Proofs.Session.Operations

/-!
# The state of a session

At every moment a session is the one that its log makes, and every request carries what the session
was at its time: a statement the whole state, and any request the warehouse (`follows_of_start`). The
caller of a file load may name another warehouse for its upload, and that is the one exception.
-/

namespace QueryClient

open Http Relation

/-- Whether a request sends a statement in the state that a log left behind. -/
def Http.Request.IsStatement (c : Config) (log : List RoundTrip) (sql : String) (r : Request) : Prop :=
  r.method = .post
    ∧ (c.endpoint.toOption.bind fun u => (u.join Session.queryPath).toOption) = some r.url
    ∧ r.body = .json
        ({ session := some (c.stateAfter log), sql, pagination := c.pagination } : Statement).body

/-- Whether a request carries what a session knows after a log. -/
def Http.Request.Carries (c : Config) (op : Operation) (log : List RoundTrip) (r : Request) : Prop :=
  let named := r.headers.get? Session.warehouseHeader
  match r.method with
  | .get => r.body = .empty ∧ named = c.warehouseAfter log
  | .post =>
    (r.body = .empty ∨ ∃ sql, op.sql? = some sql ∧ r.IsStatement c log sql)
      ∧ named = c.warehouseAfter log
  | .put => named = op.warehouse?.or (c.warehouseAfter log)

theorem Http.Request.IsStatement.carries {c : Config} {op : Operation} {log : List RoundTrip}
    {sql : String} {r : Request} (h : r.IsStatement c log sql) (hsql : op.sql? = some sql)
    (hnamed : r.headers.get? Session.warehouseHeader = c.warehouseAfter log) :
    r.Carries c op log := by
  simp only [Request.Carries, h.1]
  exact ⟨.inr ⟨sql, hsql, h⟩, hnamed⟩

/-- Whether the requests of an operation carry what the session knew at their time. -/
def Faithful (c : Config) (op : Operation) (log made : List RoundTrip) : Prop :=
  ∀ k (t : RoundTrip), made[k]? = some t → t.request.Carries c op (log ++ made.take k)

section Faithful

variable {c : Config} {op : Operation} {log made : List RoundTrip}

theorem faithful_nil : Faithful c op log [] := by
  intro k t h
  simp at h

theorem faithful_singleton {t : RoundTrip} (h : t.request.Carries c op log) :
    Faithful c op log [t] := by
  intro k x hx
  cases k with
  | zero =>
    obtain rfl := Option.some.inj hx
    simpa using h
  | succ k => simp at hx

theorem Faithful.append {more : List RoundTrip} (h : Faithful c op log made)
    (hmore : Faithful c op (log ++ made) more) : Faithful c op log (made ++ more) := by
  intro k t ht
  rcases Nat.lt_or_ge k made.length with hk | hk
  · rw [List.getElem?_append_left hk] at ht
    rw [List.take_append_of_le_length (Nat.le_of_lt hk)]
    exact h k t ht
  · rw [List.getElem?_append_right hk] at ht
    rw [List.take_append, List.take_of_length_le hk, ← List.append_assoc]
    exact hmore _ t ht

end Faithful

namespace Session

variable {c : Config} {op : Operation} {answers : List Outcome} {s s' : Session}

theorem Follows.startQuery (h : Follows c answers s) (sql : String) :
    Follows c answers (s.startQuery sql).1
      ∧ (((s.startQuery sql).1.log answers = s.log answers ∧ ∃ e, (s.startQuery sql).2 = .error e)
        ∨ ∃ t, (s.startQuery sql).1.log answers = s.log answers ++ [t]
          ∧ t.request.IsStatement c (s.log answers) sql
          ∧ t.request.headers.get? warehouseHeader = c.warehouseAfter (s.log answers)) := by
  obtain ⟨hf, hlog⟩ :=
    h.exchange .post queryPath {} (.json (s.statement sql).body) s.pageTimeout
  simp only [asksForPage, if_true, ← receivePage_fst] at hf hlog
  refine ⟨hf, hlog.imp ?_ ?_⟩
  · rintro ⟨hsame, e, he⟩
    exact ⟨hsame, e, by simp [Session.startQuery, receivePage, he, Except.bind]⟩
  · rintro ⟨t, hmore, hmethod, hbody, hurl, hnamed⟩
    refine ⟨t, hmore, ⟨hmethod, ?_, ?_⟩, by simpa using hnamed⟩
    · simp [h.endpoint, hurl, Except.toOption]
    · rw [hbody, ← h.state, ← h.pagination]
      rfl

/-- A call leaves a session that follows its log, to which it adds at most one round trip. -/
theorem Follows.call (h : Follows c answers s) (hc : Call op s s') :
    Follows c answers s' ∧ (s'.log answers = s.log answers
      ∨ ∃ t, s'.log answers = s.log answers ++ [t]
        ∧ t.request.Carries c op (s.log answers)) := by
  cases hc with
  | @statement sql hsql =>
    obtain ⟨hf, ⟨hsame, -⟩ | ⟨t, hmore, hst, hnamed⟩⟩ := h.startQuery sql
    · exact ⟨hf, .inl hsame⟩
    · refine ⟨hf, .inr ⟨t, hmore, ?_⟩⟩
      exact hst.carries hsql hnamed
  | page uri =>
    obtain ⟨hf, hlog⟩ := h.exchange .get uri {} .empty s.pageTimeout
    simp only [asksForPage, if_true, ← receivePage_fst] at hf hlog
    refine ⟨hf, hlog.imp And.left ?_⟩
    rintro ⟨t, hmore, hmethod, hbody, -, hnamed⟩
    refine ⟨t, hmore, ?_⟩
    simp only [Request.Carries, hmethod]
    exact ⟨hbody, by simpa using hnamed⟩
  | kill uri =>
    obtain ⟨hf, hlog⟩ := h.exchange .post uri {} .empty s.pageTimeout
    simp only [asksForPage, Bool.false_eq_true, if_false, adopt_none] at hf hlog
    refine ⟨hf, hlog.imp And.left ?_⟩
    rintro ⟨t, hmore, hmethod, hbody, -, hnamed⟩
    refine ⟨t, hmore, ?_⟩
    simp only [Request.Carries, hmethod]
    exact ⟨.inl hbody, by simpa using hnamed⟩
  | load u hu =>
    unfold load
    split
    · exact ⟨h, .inl rfl⟩
    · next headers hh =>
      obtain ⟨hf, hlog⟩ := h.exchange .put loadPath headers
        (.form ⟨"upload", u.fileName, u.content, u.length⟩) s.loadTimeout
      simp only [asksForPage, Bool.false_eq_true, if_false, adopt_none] at hf hlog
      refine ⟨hf, hlog.imp And.left ?_⟩
      rintro ⟨t, hmore, hmethod, -, -, hnamed⟩
      have hname : canonicalName "insert_sql" ≠ warehouseHeader := by decide
      have hown : headers.get? warehouseHeader = op.warehouse? := by
        rw [get?_insertHeaders hh, ← hu]
        simp [lastNamed, hname]
      refine ⟨t, hmore, ?_⟩
      simp only [Request.Carries, hmethod]
      rw [hnamed, hown]
  | queue uris =>
    exact ⟨⟨h.endpoint, h.pagination, h.sent, h.script, h.state, h.warehouse⟩, .inl rfl⟩

theorem Follows.calls (h : Follows c answers s) (hc : Calls op s s') :
    Follows c answers s' ∧ ∃ made, s'.log answers = s.log answers ++ made
      ∧ Faithful c op (s.log answers) made := by
  induction hc with
  | refl => exact ⟨h, [], by simp, faithful_nil⟩
  | tail _ hlast ih =>
    obtain ⟨hf, made, hlog, hmade⟩ := ih
    obtain ⟨hf', hsame | ⟨t, hmore, ht⟩⟩ := hf.call hlast
    · exact ⟨hf', made, hsame.trans hlog, hmade⟩
    · refine ⟨hf', made ++ [t], by rw [hmore, hlog, List.append_assoc], ?_⟩
      exact hmade.append (faithful_singleton (hlog ▸ ht))

theorem follows_runAll {now : Connection} (h : Follows c answers now.session)
    (operations : List Operation) : Follows c answers (Operation.runAll now operations).session := by
  unfold Operation.runAll
  induction operations generalizing now with
  | nil => exact h
  | cons op rest ih => exact ih (h.calls (calls_run op now)).1

/-- What an operation adds to the log: if it has a statement, that is sent first. -/
theorem Follows.run {now : Connection} (h : Follows c answers now.session) (op : Operation) :
    ∃ made, (op.run now).session.log answers = now.session.log answers ++ made
      ∧ Faithful c op (now.session.log answers) made
      ∧ ∀ sql t, op.sql? = some sql → made.head? = some t →
        t.request.IsStatement c (now.session.log answers) sql := by
  cases hsql : op.sql? with
  | none =>
    obtain ⟨-, made, hlog, hmade⟩ := h.calls (calls_run op now)
    exact ⟨made, hlog, hmade, by simp⟩
  | some sql =>
    obtain ⟨hf, hstart⟩ := h.startQuery sql
    rcases hstart with ⟨hsame, e, he⟩ | ⟨t, hmore, hst, hnamed⟩
    · rcases afterStatement_run hsql now with ⟨-, -, hend⟩ | ⟨page, hpage, -⟩
      · exact ⟨[], by rw [hend, hsame, List.append_nil], faithful_nil, by simp⟩
      · rw [he] at hpage
        cases hpage
    · have hfirst : Faithful c op (now.session.log answers) [t] :=
        faithful_singleton (hst.carries hsql hnamed)
      have hhead (more : List RoundTrip) : ∀ sql' x, some sql = some sql' →
          (t :: more).head? = some x → x.request.IsStatement c (now.session.log answers) sql' := by
        rintro _ _ ⟨⟩ ⟨⟩
        exact hst
      -- The calls after the statement start from a log that has its round trip already.
      rcases afterStatement_run hsql now with ⟨-, -, hend⟩ | ⟨page, -, hcalls⟩
      · exact ⟨[t], by rw [hend, hmore], hfirst, hhead []⟩
      · obtain ⟨-, more, hlog, hrest⟩ := hf.calls hcalls
        rw [hmore] at hlog hrest
        exact ⟨t :: more, by rw [hlog, List.append_assoc]; rfl, hfirst.append hrest, hhead more⟩

/-- After any operations, the state is the last one that came with a page that was asked for, and
the starting one before any did; the warehouse is the last one that such a state names, and the
configured one before. The next operation, whatever it is, makes requests that carry what the session
knows at their time. -/
theorem follows_of_start {userAgent : String} {network : Network}
    (h : start c userAgent network = .ok s) (hn : network.sent = []) (before : List Operation)
    (op : Operation) :
    let now := Operation.runAll ⟨s, []⟩ before
    let log := now.session.log network.script
    log.map RoundTrip.request = now.session.network.sent.reverse
      ∧ now.session.state = c.stateAfter log
      ∧ now.session.warehouse = c.warehouseAfter log
      ∧ (now.session.info c).database = (c.stateAfter log).database
      ∧ (now.session.info c).warehouse = c.warehouseAfter log
      ∧ ∃ made, (op.run now).session.log network.script = log ++ made
        ∧ Faithful c op log made
        ∧ ∀ sql t, op.sql? = some sql → made.head? = some t → t.request.IsStatement c log sql := by
  intro now log
  have hf : Follows c network.script now.session := follows_runAll (follows_start h hn) before
  exact ⟨hf.map_request_log, hf.state, hf.warehouse, congrArg SessionState.database hf.state,
    hf.warehouse, hf.run op⟩

theorem follows_of_start_use_database :
    let c : Config := { transport := .http, host := "[::1]", port := some 8000 }
    let page := Text.Utf8.encode ("\x7b\"id\":\"q\",\"session\":\x7b\"database\":\"d\"\x7d\x7d").toList
    let network : Network :=
      { host := "[::1]", port := 8000, script := [.answer ⟨200, some page⟩, .close] }
    ∃ s, start c "client" network = .ok s ∧ network.sent = []
      ∧ (let now := Operation.runAll ⟨s, []⟩ [.exec "USE d"]
        let log := now.session.log network.script
        now.session.state = c.stateAfter log
          ∧ (c.stateAfter log).database = some "d"
          ∧ ∃ made, ((Operation.exec "SELECT 1").run now).session.log network.script = log ++ made
            ∧ made.length = 1 ∧ Faithful c (.exec "SELECT 1") log made) := by
  intro c page network
  have heval : ((start c "client" network).toOption.map fun s =>
      let now := Operation.runAll ⟨s, []⟩ [.exec "USE d"]
      (now.session.state.database, (now.session.log network.script).length,
        (((Operation.exec "SELECT 1").run now).session.log network.script).length))
      = some (some "d", 1, 2) := by decide +kernel
  cases h : start c "client" network with
  | error e => rw [h] at heval; cases heval
  | ok s =>
    rw [h] at heval
    simp only [Except.toOption, Option.map_some, Option.some.injEq, Prod.mk.injEq] at heval
    obtain ⟨hd, hbefore, hafter⟩ := heval
    obtain ⟨-, hstate, -, -, -, made, hlog, hmade, -⟩ :=
      follows_of_start h rfl [.exec "USE d"] (.exec "SELECT 1")
    refine ⟨s, rfl, rfl, hstate, hstate ▸ hd, made, hlog, ?_, hmade⟩
    rw [hlog, List.length_append, hbefore] at hafter
    omega

/-- An upload that names a warehouse itself does not carry the one of its session. -/
theorem warehouse_of_named_upload :
    let c : Config :=
      { transport := .http, host := "[::1]", port := some 8000, warehouse := some "w1" }
    let network : Network := { host := "[::1]", port := 8000, script := [.close] }
    let op : Operation := .loadFile ⟨[("f.csv", [])]⟩ "INSERT INTO t" "f.csv"
      (SortedMap.empty.insert "x-databend-warehouse" "w2")
    ((start c "client" network).toOption.map fun s =>
      (s.warehouse, ((op.run ⟨s, []⟩).session.log network.script).map
        (·.request.headers.get? warehouseHeader))) = some (some "w1", [some "w2"]) := by
  decide +kernel

end Session

end QueryClient
