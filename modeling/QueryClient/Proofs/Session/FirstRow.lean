import QueryClient.Proofs.Session.EmptyResult
import QueryClient.Proofs.Session.Reads
import QueryClient.Proofs.Stream.History

/-!
# The first row of a query

`queryRow` comes to the first item that reading the query to the end would hand out. It asks for no
page behind the one with that item, and what it does then is a matter of that page alone
(`queryRow_eq_iff`): an item that is a row, or should be one, leaves a query that is cancelled if its
page has a link and some page so far said how. Nothing else leaves one.
-/

namespace QueryClient

open Http Reading

/-! ## The first item of a reader -/

/-- What rows and the failure after them begin with. -/
def firstOf (rows : List Row) (failure : Option Error) : Result Row :=
  match rows, failure with
  | row :: _, _ => .ok row
  | [], some e => .error e
  | [], none => .error .emptyResult

/-- What is made of the first event. -/
def StreamEvent.first : StreamEvent Row → Result Row
  | .item row => .ok row
  | .failure e => .error e
  | .pending | .over => .error .emptyResult

namespace StreamReader

variable {σ : Type} {src : PageSource σ}

theorem first_next (r : StreamReader σ Row src) (t : RowStream) (w : σ) :
    (r.next t w).2.2.first = firstOf (r.readAll t w).2.2.1 (r.readAll t w).2.2.2 := by
  fun_induction r.next t w with
  | case1 t w t' w' hp hn ih =>
    rw [readAll]
    split <;> simp_all
  | case2 t w t' w' row hp | case3 t w t' w' e hp | case4 t w t' w' hp =>
    rw [readAll]
    split <;> simp_all [firstOf, StreamEvent.first]

theorem next_of_poll {α : Type} {r : StreamReader σ α src} {t t' : RowStream} {w w' : σ}
    {e : StreamEvent α} (h : r.poll t w = (t', w', e)) (he : e ≠ .pending) :
    r.next t w = (t', w', e) := by
  rw [next]
  split <;> simp_all

theorem readAll_of_over {α : Type} {r : StreamReader σ α src} {t t' : RowStream} {w w' : σ}
    (h : r.poll t w = (t', w', .over)) : r.readAll t w = (t', w', [], none) := by
  rw [readAll]
  split <;> simp_all

end StreamReader

/-! ## A stream with a page in hand -/

/-- The link that cancels a query after an item of a page, once earlier pages were read. -/
def dueKill? (earlier : List QueryPage) (page : QueryPage) : Option String :=
  if page.nextUri.isSome then History.latestKill (earlier ++ [page]) else none

namespace RowStream

/-- A stream that took a page over, after earlier ones without a row, and has handed out none yet. -/
structure HoldsPage (earlier : List QueryPage) (page : QueryPage) (t : RowStream) : Prop where
  settled : t.settle = t
  columns : (inForce (earlier ++ [page])).mapM Column.ofField = .ok t.columns
  buffer : t.buffer = page.data
  nextUri : t.nextUri = page.nextUri
  killUri : t.killUri = History.latestKill (earlier ++ [page])
  delivered : t.delivered = 0

theorem pendingKill?_of_failed {t : RowStream} (h : t.state = .failed) :
    t.pendingKill? = if t.nextUri.isSome then t.killUri else none := by
  simp [pendingKill?, h]

theorem pendingKill?_settle (t : RowStream) :
    t.settle.pendingKill? = if t.nextUri.isSome then t.killUri else none := by
  unfold pendingKill? settle
  by_cases hb : t.buffer = [] <;> cases t.nextUri <;> simp [hb]

section HoldsPage

variable {earlier : List QueryPage} {last page : QueryPage} {t : RowStream}

theorem start_first (he : page.error = none) :
    (∃ e, (inForce [page]).mapM Column.ofField = .error e ∧ start page = .error e)
      ∨ ∃ t, start page = .ok t ∧ HoldsPage [] page t := by
  have hnil : (inForce []).mapM Column.ofField = .ok [] := rfl
  have hcol : columnsAfter [] page.schema = (inForce [page]).mapM Column.ofField :=
    columnsAfter_eq hnil page
  simp only [start, create, absorb, he, hcol]
  cases hc : (inForce [page]).mapM Column.ofField with
  | error e => exact .inl ⟨e, rfl, rfl⟩
  | ok columns =>
    refine .inr ⟨_, rfl, settle_settle _, hc, rfl, rfl, ?_, rfl⟩
    simp [History.latestKill]

/-- The page behind the link is taken over, unless the schema in force is not supported. -/
theorem HoldsPage.receive (h : HoldsPage earlier last t) (hd : last.data = [])
    (he : page.error = none) (uri : String) :
    (∃ e t', (inForce (earlier ++ [last] ++ [page])).mapM Column.ofField = .error e
        ∧ (t.asking uri).receive (.ok page) = (t', .error e) ∧ t'.pendingKill? = none)
      ∨ ∃ t', (t.asking uri).receive (.ok page) = (t', .ok (.stats page.stats))
        ∧ HoldsPage (earlier ++ [last]) page t' := by
  have hb : t.buffer = [] := h.buffer.trans hd
  rw [receive_of_ok hb he, columnsAfter_eq h.columns]
  cases hc : (inForce (earlier ++ [last] ++ [page])).mapM Column.ofField with
  | error e => exact .inl ⟨e, _, rfl, rfl, pendingKill?_of_failed rfl⟩
  | ok columns =>
    refine .inr ⟨_, rfl, settle_settle _, hc, rfl, rfl, ?_, h.delivered⟩
    rw [History.latestKill_append_singleton, ← h.killUri]
    rfl

section Poll

variable {σ : Type} (src : PageSource σ)

theorem HoldsPage.poll_row (h : HoldsPage earlier page t) {raw : RawRow} {rest : List RawRow}
    (hd : page.data = raw :: rest) (w : σ) :
    ∃ t', t'.pendingKill? = dueKill? earlier page
      ∧ poll src t w = (t', w, .ofResult (readRow t.columns 0 raw)) := by
  have hkill : dueKill? earlier page = if t.nextUri.isSome then t.killUri else none := by
    rw [dueKill?, h.nextUri, h.killUri]
  rw [poll_eq, pollItem_of_buffer src h.settled (h.buffer.trans hd), h.delivered, hkill]
  cases readRow t.columns 0 raw with
  | ok row =>
    refine ⟨_, ?_, rfl⟩
    exact pendingKill?_settle { t with buffer := rest, delivered := 0 + 1 }
  | error e =>
    refine ⟨_, ?_, rfl⟩
    exact pendingKill?_of_failed rfl

theorem HoldsPage.poll_over (h : HoldsPage earlier page t) (hd : page.data = [])
    (hn : page.nextUri = none) (w : σ) :
    poll src t w = (t, w, .over) ∧ t.pendingKill? = none := by
  have hnext : t.nextUri = none := h.nextUri.trans hn
  refine ⟨?_, ?_⟩
  · rw [poll_eq, pollItem_of_end src h.settled (h.buffer.trans hd) hnext]
  · rw [← h.settled, pendingKill?_settle, hnext]
    rfl

end Poll

end HoldsPage

end RowStream

namespace Session

/-! ## Letting go of a query -/

/-- The session after it let go of a query that is to be cancelled with a link: it waits for that when
it has a row, and leaves it to the background after a failure. -/
def letGo (s : Session) (answer : Result Row) : Option String → Session
  | none => s
  | some uri =>
    match answer with
    | .ok _ => (s.kill uri).1
    | .error _ => s.killDetached uri

/-- The link that is left to the background. -/
def queued (answer : Result Row) (kill? : Option String) : List String :=
  match answer with
  | .ok _ => []
  | .error _ => kill?.toList

/-- The link whose outcome is waited for. -/
def awaited (answer : Result Row) (kill? : Option String) : List String :=
  match answer with
  | .ok _ => kill?.toList
  | .error _ => []

/-- The request that cancels a query. -/
def killTarget (s : Session) (uri : String) : Target :=
  (.post, s.endpoint.join uri, .empty)

/-- However cancelling a query ends, it is one request at most and changes nothing that the session
knows. -/
theorem kill_eq (s : Session) (uri : String) :
    (∃ network nextId, (s.kill uri).1 = { s with network, nextId })
      ∧ ∃ made, Makes s (s.kill uri).1 made ∧ made.map RoundTrip.target <+: [s.killTarget uri] := by
  simp only [kill]
  rcases s.send_cases (s.request .post uri {} .empty s.pageTimeout) with
    ⟨nextId, e, h⟩ | ⟨request, outcome, rest, waited, hok, hs, h⟩
  · rw [h]
    exact ⟨⟨s.network, nextId, rfl⟩, [], ⟨rfl, rfl, rfl⟩, List.nil_prefix⟩
  · obtain ⟨hurl, hmethod, hbody, -⟩ := request_of_ok hok
    rw [h]
    refine ⟨⟨_, _, rfl⟩, [⟨request, outcome⟩], ⟨rfl, hs, rfl⟩, ?_⟩
    simp [RoundTrip.target, killTarget, hurl, hmethod, hbody]

theorem letGo_eq (s : Session) (answer : Result Row) (kill? : Option String) :
    (∃ network nextId, s.letGo answer kill?
        = { s with network, nextId, background := s.background ++ queued answer kill? })
      ∧ ∃ made, Makes s (s.letGo answer kill?) made
        ∧ made.map RoundTrip.target <+: (awaited answer kill?).map s.killTarget := by
  cases kill? with
  | none =>
    refine ⟨⟨s.network, s.nextId, ?_⟩, [], .refl s, List.nil_prefix⟩
    cases answer <;> simp [letGo, queued]
  | some uri =>
    cases answer with
    | error e => exact ⟨⟨s.network, s.nextId, rfl⟩, [], ⟨rfl, rfl, rfl⟩, List.nil_prefix⟩
    | ok row =>
      obtain ⟨⟨network, nextId, h⟩, hmade⟩ := s.kill_eq uri
      refine ⟨⟨network, nextId, ?_⟩, hmade⟩
      simp [letGo, queued, h]

section QueryRow

variable {s s₁ s' : Session} {sql : String} {t t' : RowStream}

theorem queryRow_of_item {r : Result Row} (hq : s.query sql = (s₁, .ok t))
    (hp : RowStream.poll source t s₁ = (t', s', .ofResult r)) :
    s.queryRow sql = (s'.letGo r t'.pendingKill?, r) := by
  have hnext : (RowStream.rows source).next t s₁ = (t', s', .ofResult r) :=
    StreamReader.next_of_poll hp (StreamEvent.ofResult_ne_pending r)
  unfold queryRow
  simp only [hq, hnext]
  cases r with
  | ok row =>
    simp only [StreamEvent.ofResult, RowStream.abandon, RowStream.close]
    cases t'.pendingKill? <;> rfl
  | error e =>
    simp only [StreamEvent.ofResult, RowStream.drop]
    cases t'.pendingKill? <;> rfl

theorem queryRow_of_over (hq : s.query sql = (s₁, .ok t))
    (hp : RowStream.poll source t s₁ = (t', s', .over)) (hk : t'.pendingKill? = none) :
    s.queryRow sql = (s', .error .emptyResult) := by
  have hnext : (RowStream.rows source).next t s₁ = (t', s', .over) :=
    StreamReader.next_of_poll hp (by simp)
  unfold queryRow
  simp only [hq, hnext, RowStream.abandon, RowStream.close, hk]

theorem queryRow_snd (s : Session) (sql : String) :
    (s.queryRow sql).2 = match s.query sql with
      | (_, .error e) => .error e
      | (s₁, .ok t) =>
        let all := (RowStream.rows source).readAll t s₁
        firstOf all.2.2.1 all.2.2.2 := by
  unfold queryRow
  rcases hq : s.query sql with ⟨s₁, e | t⟩
  · rfl
  · simp only [← StreamReader.first_next]
    rcases (RowStream.rows source).next t s₁ with ⟨t', s', e⟩
    cases e <;> rfl

end QueryRow

/-! ## Where the first item is -/

/-- What the first row of a query comes to, and where: the statement is refused, or behind pages that
have nothing to hand out the next one fails to come, has a schema that is not supported, has a row, or
is missing. -/
inductive FirstItem (s : Session) (sql : String) : Session × Result Row → Prop
  | refused {s' : Session} {e : Error} (h : s.startQuery sql = (s', .error e)) :
    FirstItem s sql (s', .error e)
  | failed {s₁ s' : Session} {earlier : List QueryPage} {last : QueryPage} {uri : String} {e : Error}
    (h : Reads s sql earlier last s₁) (hq : Quiet (earlier ++ [last]))
    (hn : last.nextUri = some uri) (hp : s₁.queryPage uri = (s', .error e)) :
    FirstItem s sql (s', .error e)
  | unsupported {s' : Session} {earlier : List QueryPage} {page : QueryPage} {e : Error}
    (h : Reads s sql earlier page s') (hq : Quiet earlier)
    (hc : (inForce (earlier ++ [page])).mapM Column.ofField = .error e) :
    FirstItem s sql (s', .error e)
  | row {s' : Session} {earlier : List QueryPage} {page : QueryPage} {columns : List Column}
    {raw : RawRow} {rest : List RawRow} (h : Reads s sql earlier page s') (hq : Quiet earlier)
    (hc : (inForce (earlier ++ [page])).mapM Column.ofField = .ok columns)
    (hd : page.data = raw :: rest) :
    FirstItem s sql
      (s'.letGo (readRow columns 0 raw) (dueKill? earlier page), readRow columns 0 raw)
  | missing {s' : Session} {earlier : List QueryPage} {last : QueryPage}
    (h : Reads s sql earlier last s') (hq : Quiet (earlier ++ [last])) (hn : last.nextUri = none) :
    FirstItem s sql (s', .error .emptyResult)

section FirstItem

variable {s s₁ s' : Session} {sql : String} {earlier : List QueryPage} {last page : QueryPage}
  {columns : List Column} {t : RowStream} {uri : String} {e : Error}

theorem pollItem_of_holdsPage (h : RowStream.HoldsPage earlier last t) (hd : last.data = [])
    (hn : last.nextUri = some uri) :
    RowStream.pollItem source t s = (((t.asking uri).receive (s.queryPage uri).2).1,
      (s.queryPage uri).1, .ofResult ((t.asking uri).receive (s.queryPage uri).2).2) :=
  RowStream.pollItem_of_link source h.settled (h.buffer.trans hd) (h.nextUri.trans hn) s

theorem poll_of_page (h : RowStream.HoldsPage earlier last t) (hd : last.data = [])
    (hn : last.nextUri = some uri) (hp : s.queryPage uri = (s', .ok page)) :
    (∃ e t', (inForce (earlier ++ [last] ++ [page])).mapM Column.ofField = .error e
        ∧ RowStream.poll source t s = (t', s', .failure e) ∧ t'.pendingKill? = none)
      ∨ ∃ t', RowStream.HoldsPage (earlier ++ [last]) page t'
        ∧ RowStream.poll source t s = RowStream.poll source t' s' := by
  rw [RowStream.poll_eq, pollItem_of_holdsPage h hd hn, hp]
  rcases h.receive hd (error_of_receivePage hp) uri with
    ⟨e, t', hc, hr, hk⟩ | ⟨t', hr, ht'⟩
  · exact .inl ⟨e, t', hc, by rw [hr]; rfl, hk⟩
  · exact .inr ⟨t', ht', by rw [hr]; rfl⟩

theorem poll_of_failure (h : RowStream.HoldsPage earlier last t) (hd : last.data = [])
    (hn : last.nextUri = some uri) (hp : s.queryPage uri = (s', .error e)) :
    ∃ t', RowStream.poll source t s = (t', s', .failure e) ∧ t'.pendingKill? = none := by
  rw [RowStream.poll_eq, pollItem_of_holdsPage h hd hn, hp]
  exact ⟨_, rfl, RowStream.pendingKill?_of_failed rfl⟩

/-- Polling a query for its first row comes to polling the stream that holds the page it got to. -/
theorem exists_query_of_reads (h : Reads s sql earlier page s') (hq : Quiet earlier)
    (hc : (inForce (earlier ++ [page])).mapM Column.ofField = .ok columns) :
    ∃ s₁ t₁ t, s.query sql = (s₁, .ok t₁) ∧ RowStream.HoldsPage earlier page t
      ∧ RowStream.poll source t₁ s₁ = RowStream.poll source t s' := by
  induction h generalizing columns with
  | @first s' page h =>
    rcases RowStream.start_first (error_of_receivePage h) with ⟨e, he, -⟩ | ⟨t, hstart, ht⟩
    · cases he.symm.trans hc
    · refine ⟨s', t, t, ?_, ht, rfl⟩
      simp only [query, h, Except.bind, hstart]
  | @next s₂ s' earlier last page uri before hn h ih =>
    obtain ⟨hquiet, ⟨columns', hc'⟩, hd⟩ := (quiet_append_singleton_iff before.error).1 hq
    obtain ⟨s₁, t₁, t, hquery, ht, hpoll⟩ := ih hquiet hc'
    rcases poll_of_page ht hd hn h with ⟨e, -, he, -⟩ | ⟨t', ht', hpoll'⟩
    · cases he.symm.trans hc
    · exact ⟨s₁, t₁, t', hquery, ht', hpoll.trans hpoll'⟩

theorem queryRow_of_firstItem {r : Session × Result Row} (h : FirstItem s sql r) :
    s.queryRow sql = r := by
  cases h with
  | refused h => simp only [queryRow, query, h, Except.bind]
  | failed h hq hn hp =>
    obtain ⟨hquiet, ⟨columns, hc⟩, hd⟩ := (quiet_append_singleton_iff h.error).1 hq
    obtain ⟨s₂, t₁, t, hquery, ht, hpoll⟩ := exists_query_of_reads h hquiet hc
    obtain ⟨t', hfail, hk⟩ := poll_of_failure ht hd hn hp
    rw [@queryRow_of_item _ _ _ _ _ _ (.error _) hquery (hpoll.trans hfail), hk]
    rfl
  | unsupported h hq hc =>
    cases h with
    | first h =>
      rcases RowStream.start_first (error_of_receivePage h) with ⟨e, he, hstart⟩ | ⟨t, -, ht⟩
      · obtain rfl := Except.error.inj (he.symm.trans hc)
        simp only [queryRow, query, h, Except.bind, hstart]
      · cases ht.columns.symm.trans hc
    | next before hn h =>
      obtain ⟨hquiet, ⟨columns, hc'⟩, hd⟩ := (quiet_append_singleton_iff before.error).1 hq
      obtain ⟨s₂, t₁, t, hquery, ht, hpoll⟩ := exists_query_of_reads before hquiet hc'
      rcases poll_of_page ht hd hn h with ⟨e, t', he, hfail, hk⟩ | ⟨t', ht', -⟩
      · obtain rfl := Except.error.inj (he.symm.trans hc)
        rw [@queryRow_of_item _ _ _ _ _ _ (.error _) hquery (hpoll.trans hfail), hk]
        rfl
      · cases ht'.columns.symm.trans hc
  | row h hq hc hd =>
    obtain ⟨s₁, t₁, t, hquery, ht, hpoll⟩ := exists_query_of_reads h hq hc
    obtain ⟨t', hk, hitem⟩ := ht.poll_row source hd _
    obtain rfl := Except.ok.inj (ht.columns.symm.trans hc)
    rw [queryRow_of_item hquery (hpoll.trans hitem), hk]
  | missing h hq hn =>
    obtain ⟨hquiet, ⟨columns, hc⟩, hd⟩ := (quiet_append_singleton_iff h.error).1 hq
    obtain ⟨s₁, t₁, t, hquery, ht, hpoll⟩ := exists_query_of_reads h hquiet hc
    obtain ⟨hover, hk⟩ := ht.poll_over source hd hn _
    exact queryRow_of_over hquery (hpoll.trans hover) hk

/-- Reading on from quiet pages comes to a first item: every further page uses an answer up. -/
theorem exists_firstItem_of_reads {s₁ : Session} {earlier : List QueryPage} {page : QueryPage}
    (h : Reads s sql earlier page s₁) (hq : Quiet earlier) : ∃ r, FirstItem s sql r := by
  cases hc : (inForce (earlier ++ [page])).mapM Column.ofField with
  | error e => exact ⟨_, .unsupported h hq hc⟩
  | ok columns =>
    cases hd : page.data with
    | cons raw rest => exact ⟨_, .row h hq hc hd⟩
    | nil =>
      have hquiet : Quiet (earlier ++ [page]) :=
        (quiet_append_singleton_iff h.error).2 ⟨hq, ⟨columns, hc⟩, hd⟩
      cases hn : page.nextUri with
      | none => exact ⟨_, .missing h hquiet hn⟩
      | some uri =>
        rcases hp : s₁.queryPage uri with ⟨s₂, e | next⟩
        · exact ⟨_, .failed h hquiet hn hp⟩
        · have : s₂.remaining < s₁.remaining := by
            simpa [hp] using remaining_queryPage_lt s₁ uri (show (s₁.queryPage uri).2 = .ok next by
              rw [hp])
          exact exists_firstItem_of_reads (.next h hn hp) hquiet
termination_by s₁.remaining

theorem queryRow_eq_iff {r : Session × Result Row} : s.queryRow sql = r ↔ FirstItem s sql r := by
  have hfirst : ∃ r, FirstItem s sql r := by
    rcases h : s.startQuery sql with ⟨s₁, e | page⟩
    · exact ⟨_, .refused h⟩
    · exact exists_firstItem_of_reads (.first h) rfl
  obtain ⟨r', h'⟩ := hfirst
  refine ⟨?_, queryRow_of_firstItem⟩
  rintro rfl
  rwa [queryRow_of_firstItem h']

end FirstItem

/-! ## The first row -/

section FirstRow

variable {s s' : Session} {sql : String}

/-- Only a query that ends without rows and without a failure is empty. -/
theorem readAll_of_emptyResult (h : FirstItem s sql (s', .error .emptyResult)) :
    ∃ s₁ t t', s.query sql = (s₁, .ok t)
      ∧ (RowStream.rows source).readAll t s₁ = (t', s', [], none) := by
  generalize hr : (s', (.error .emptyResult : Result Row)) = r at h
  cases h with
  | refused h =>
    obtain ⟨-, he⟩ := Prod.mk.inj hr
    exact absurd (congrArg Prod.snd h) (Except.error.inj he ▸ startQuery_ne_emptyResult s sql)
  | failed h hq hn hp =>
    obtain ⟨-, he⟩ := Prod.mk.inj hr
    exact absurd (congrArg Prod.snd hp) (Except.error.inj he ▸ queryPage_ne_emptyResult _ _)
  | unsupported h hq hc =>
    obtain ⟨-, he⟩ := Prod.mk.inj hr
    exact absurd hc (Except.error.inj he ▸ columns_ne_emptyResult _)
  | row h hq hc hd => exact absurd (Prod.mk.inj hr).2.symm (readRow_ne_emptyResult _ _ _)
  | missing h hq hn =>
    obtain ⟨rfl, -⟩ := Prod.mk.inj hr
    obtain ⟨hquiet, ⟨columns, hc⟩, hd⟩ := (quiet_append_singleton_iff h.error).1 hq
    obtain ⟨s₁, t₁, t, hquery, ht, hpoll⟩ := exists_query_of_reads h hquiet hc
    obtain ⟨hover, -⟩ := ht.poll_over source hd hn s'
    exact ⟨s₁, t₁, t, hquery, StreamReader.readAll_of_over (hpoll.trans hover)⟩

/-- The first row of a query is the first item that reading it to the end hands out, and the result is
empty if that hands out nothing and does not fail. `FirstItem` says which page has the item and what
becomes of the session. Getting there made one request for each page up to that one. If the page has a
row, the answers behind it make no difference: whatever becomes of the cancellation, the answer is the
same, and so is what the session knows. -/
theorem queryRow_first (s : Session) (sql : String) :
    (match s.query sql with
      | (_, .error e) => (s.queryRow sql).2 = .error e
      | (s₁, .ok t) =>
        let all := (RowStream.rows source).readAll t s₁
        (s.queryRow sql).2 = firstOf all.2.2.1 all.2.2.2)
      ∧ ((s.queryRow sql).2 = .error .emptyResult ↔ ∃ s₁ t t' s', s.query sql = (s₁, .ok t)
        ∧ (RowStream.rows source).readAll t s₁ = (t', s', [], none))
      ∧ (∀ r, s.queryRow sql = r ↔ FirstItem s sql r)
      ∧ ∀ earlier page s₁, Reads s sql earlier page s₁ → ∃ made, Makes s s₁ made
        ∧ made.map RoundTrip.target = s.statementTargets sql { session := s₁, pages := earlier }
        ∧ made.map RoundTrip.result = (earlier ++ [page]).map .ok
        ∧ ∀ columns raw rest, Quiet earlier →
          (inForce (earlier ++ [page])).mapM Column.ofField = .ok columns → page.data = raw :: rest →
          ∀ later,
            let row := readRow columns 0 raw
            let kill? := dueKill? earlier page
            let left := (s₁.withScript later).letGo row kill?
            (s.withScript (made.map (·.outcome) ++ later)).queryRow sql = (left, row)
              ∧ (∃ network nextId, left
                = { s₁ with network, nextId, background := s₁.background ++ queued row kill? })
              ∧ ∃ killed, Makes (s₁.withScript later) left killed
                ∧ killed.map RoundTrip.target <+: (awaited row kill?).map s.killTarget := by
  have hsnd := queryRow_snd s sql
  refine ⟨?_, ⟨fun h => ?_, ?_⟩, fun r => queryRow_eq_iff, fun earlier page s₁ h => ?_⟩
  · rcases hq : s.query sql with ⟨s₁, e | t⟩ <;> rw [hq] at hsnd <;> exact hsnd
  · have hfirst : FirstItem s sql ((s.queryRow sql).1, .error .emptyResult) :=
      queryRow_eq_iff.1 (Prod.ext rfl h)
    obtain ⟨s₁, t, t', hquery, hall⟩ := readAll_of_emptyResult hfirst
    exact ⟨s₁, t, t', _, hquery, hall⟩
  · rintro ⟨s₁, t, t', s', hquery, hall⟩
    simp only [hsnd, hquery, hall, firstOf]
  · obtain ⟨made, hmakes, htargets, hresults, hreads⟩ := exists_made_of_reads h
    refine ⟨made, hmakes, htargets, hresults, fun columns raw rest hq hc hd later => ?_⟩
    obtain ⟨⟨network, nextId, hleft⟩, killed, hkilled, hprefix⟩ :=
      letGo_eq (s₁.withScript later) (readRow columns 0 raw) (dueKill? earlier page)
    refine ⟨queryRow_of_firstItem (.row (hreads later) hq hc hd), ⟨network, nextId, hleft⟩, killed,
      hkilled, ?_⟩
    have htarget : (s₁.withScript later).killTarget = s.killTarget := by
      unfold killTarget
      exact funext fun uri => by rw [← hmakes.endpoint]; rfl
    rwa [htarget] at hprefix

/-- The first page is empty, and the second one has two rows and a link. -/
theorem queryRow_first_second_page :
    let c : Config := { transport := .http, host := "[::1]", port := some 8000 }
    let answer (fields : String) : Outcome := .answer ⟨200, some <| Text.Utf8.encode
      ("\x7b\"id\":\"q\"," ++ fields ++ "\x7d").toList⟩
    let first := answer ("\"schema\":[\x7b\"name\":\"n\",\"type\":\"Int8\"\x7d],"
      ++ "\"next_uri\":\"/p/1\",\"kill_uri\":\"/k\"")
    let second := answer "\"data\":[[\"7\"],[\"8\"]],\"next_uri\":\"/p/2\""
    let network : Network := { host := "[::1]", port := 8000, script := [first, second] }
    ∃ s s₁ earlier page, start c "client" network = .ok s
      ∧ Reads s "SELECT n" [earlier] page s₁ ∧ Quiet [earlier]
      ∧ ∀ later, (s.withScript (first :: second :: later)).queryRow "SELECT n"
        = (((s₁.withScript later).kill "/k").1, .ok ⟨[⟨"n", .signed .w8⟩], [.int64 7]⟩) := by
  intro c answer first second network
  let earlier : QueryPage :=
    { id := "q", schema := [⟨"n", "Int8"⟩], nextUri := some "/p/1", killUri := some "/k" }
  let page : QueryPage :=
    { id := "q", data := [[some "7"], [some "8"]], nextUri := some "/p/2" }
  have heval : ((start c "client" network).toOption.map fun s =>
      let a := s.startQuery "SELECT n"
      (s.network.script, a.2, (a.1.queryPage "/p/1").2))
      = some (network.script, .ok earlier, .ok page) := by decide +kernel
  cases h : start c "client" network with
  | error e => rw [h] at heval; cases heval
  | ok s =>
    rw [h] at heval
    simp only [Except.toOption, Option.map_some, Option.some.injEq, Prod.mk.injEq] at heval
    obtain ⟨hscript, hfirst, hsecond⟩ := heval
    have hreads : Reads s "SELECT n" [earlier] page _ :=
      .next (.first (Prod.ext rfl hfirst)) rfl (Prod.ext rfl hsecond)
    have hquiet : Quiet [earlier] := by
      unfold Quiet
      decide +kernel
    obtain ⟨-, -, -, hmade⟩ := queryRow_first s "SELECT n"
    obtain ⟨made, hmakes, -, hresults, hrow⟩ := hmade _ _ _ hreads
    have houtcomes : made.map (·.outcome) = [first, second] := by
      have hlen : (made.map (·.outcome)).length = [first, second].length := by
        simpa using congrArg List.length hresults
      have happend := hmakes.script.symm.trans hscript
      exact (List.append_inj (happend.trans (List.append_nil _).symm) hlen).1
    refine ⟨s, _, earlier, page, rfl, hreads, hquiet, fun later => ?_⟩
    have hlater := hrow [⟨"n", .signed .w8⟩] [some "7"] [[some "8"]] hquiet (by decide +kernel) rfl
      later
    rw [houtcomes] at hlater
    exact hlater.1

end FirstRow

end Session

end QueryClient
