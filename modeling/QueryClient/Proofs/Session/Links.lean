import QueryClient.Proofs.Session.Asks

/-!
# Where links come from

A session follows no link that it was not given: one in a page of its service, or one that its caller
names. So what holds of all of these holds of every link that is followed (`Connection.sendsIn_run`).
-/

namespace QueryClient

open Http

/-! ## What a session sends -/

namespace Ask

open Session

/-- The link that is followed. -/
def link? : Ask → Option String
  | page uri | kill uri => some uri
  | statement _ | load _ => none

/-- The text that the target of the request is read from. -/
def path : Ask → String
  | page uri | kill uri => uri
  | statement _ => queryPath
  | load _ => loadPath

/-- A field of the caller's own. -/
def field? (name : String) : Ask → Option String
  | load u => lastNamed name u.headers
  | statement _ | page _ | kill _ => none

/-- What asking leaves as it was: some answers are used up, and nothing is queued. -/
structure Keeps (s s' : Session) : Prop where
  endpoint : s'.endpoint = s.endpoint
  credentials : s'.credentials = s.credentials
  background : s'.background = s.background
  script : s'.network.script <:+ s.network.script

theorem keeps_send (s : Session) (r : Result Request) : Keeps s (s.send r).1 := by
  rcases s.send_cases r with ⟨nextId, e, h⟩ | ⟨request, outcome, rest, waited, -, hs, h⟩
  · rw [h]
    exact ⟨rfl, rfl, rfl, List.suffix_refl _⟩
  · rw [h]
    exact ⟨rfl, rfl, rfl, hs ▸ List.suffix_cons _ _⟩

theorem Keeps.adopt {s s' : Session} (h : Keeps s s') (o : Option SessionState) :
    Keeps s (s'.adopt o) := by
  cases o <;> exact ⟨h.endpoint, h.credentials, h.background, h.script⟩

theorem keeps_run (s : Session) (a : Ask) : Keeps s (a.run s).1 := by
  cases a with
  | statement _ | page _ =>
    simp only [run, startQuery, queryPage, receivePage_fst]
    exact (keeps_send _ _).adopt _
  | kill uri =>
    simp only [run, Session.kill]
    exact keeps_send _ _
  | load u =>
    simp only [run, Session.load]
    split
    · exact ⟨rfl, rfl, rfl, List.suffix_refl _⟩
    · exact keeps_send _ _

end Ask

namespace Session

/-- Whether a session becomes another one by handing requests to the network, in order, and by changing
the queue of cancellations. -/
inductive Sends : Session → List (Ask × Request) → Session → Prop
  | done (s : Session) : Sends s [] s
  | ask {s s' : Session} {a : Ask} {r : Request} {made : List (Ask × Request)}
    (h : a.request s = .ok r) (rest : Sends (a.run s).1 made s') : Sends s ((a, r) :: made) s'
  | queue {s s' : Session} {made : List (Ask × Request)} (uris : List String)
    (rest : Sends { s with background := uris } made s') : Sends s made s'

theorem Sends.append {s s₁ s' : Session} {made more : List (Ask × Request)} (h : Sends s made s₁)
    (h' : Sends s₁ more s') : Sends s (made ++ more) s' := by
  induction h with
  | done => exact h'
  | ask hr _ ih => exact .ask hr (ih h')
  | queue uris _ ih => exact .queue uris (ih h')

/-- Every request is made by a session with the endpoint and the credentials of the first one. -/
theorem Sends.made_of_mem {s s' : Session} {made : List (Ask × Request)} (h : Sends s made s') :
    ∀ m ∈ made, ∃ s₁ : Session, m.1.request s₁ = .ok m.2 ∧ s₁.endpoint = s.endpoint
      ∧ s₁.credentials = s.credentials := by
  induction h with
  | done => simp
  | @ask s s' a r made hr _ ih =>
    intro m hm
    rcases List.mem_cons.1 hm with rfl | hm
    · exact ⟨s, hr, rfl, rfl⟩
    · obtain ⟨s₁, h, he, hc⟩ := ih m hm
      have hkeeps := Ask.keeps_run s a
      exact ⟨s₁, h, he.trans hkeeps.endpoint, hc.trans hkeeps.credentials⟩
  | queue uris _ ih => exact ih

end Session

/-! ## Links that were given -/

section Given

variable (L : String → Prop)

/-- Whether the links of a page are among the given ones. -/
structure QueryPage.LinksIn (p : QueryPage) : Prop where
  next : ∀ uri, p.nextUri = some uri → L uri
  kill : ∀ uri, p.killUri = some uri → L uri

/-- Whether the links of a page that may be read from an answer are. -/
def Http.Outcome.LinksIn : Outcome → Prop
  | .answer r => ∀ body page, r.read = .ok body → QueryPage.ofBytes body = .ok page → page.LinksIn L
  | .close | .silence => True

structure Session.LinksIn (s : Session) : Prop where
  script : ∀ o ∈ s.network.script, o.LinksIn L
  background : ∀ uri ∈ s.background, L uri

structure RowStream.LinksIn (t : RowStream) : Prop where
  fetching : ∀ uri, t.state = .fetching uri → L uri
  next : ∀ uri, t.nextUri = some uri → L uri
  kill : ∀ uri, t.killUri = some uri → L uri

structure Connection.LinksIn (c : Connection) : Prop where
  session : c.session.LinksIn L
  streams : ∀ t ∈ c.streams, t.LinksIn L

def Ask.LinkIn (a : Ask) : Prop :=
  ∀ uri, a.link? = some uri → L uri

/-- Whether the link that the caller names, if any, is among the given ones. -/
def Operation.LinkIn : Operation → Prop
  | page uri | kill uri => L uri
  | _ => True

end Given

variable {L : String → Prop}

namespace Session

variable {s s' : Session}

/-- Whether a session becomes another one by requests that follow given links only, and has no others
afterwards. -/
def SendsIn (L : String → Prop) (s s' : Session) : Prop :=
  s'.LinksIn L ∧ ∃ made, Sends s made s' ∧ ∀ m ∈ made, m.1.LinkIn L

namespace SendsIn

theorem refl (h : s.LinksIn L) : SendsIn L s s :=
  ⟨h, [], .done s, by simp⟩

theorem trans {s₁ : Session} (h : SendsIn L s s₁) (h' : SendsIn L s₁ s') : SendsIn L s s' := by
  obtain ⟨-, made, hmade, hl⟩ := h
  obtain ⟨hlinks, more, hmore, hl'⟩ := h'
  refine ⟨hlinks, made ++ more, hmade.append hmore, fun m hm => ?_⟩
  exact (List.mem_append.1 hm).elim (hl m) (hl' m)

theorem ask (h : s.LinksIn L) {a : Ask} (ha : a.LinkIn L) : SendsIn L s (a.run s).1 := by
  have hkeeps := Ask.keeps_run s a
  refine ⟨⟨fun o ho => h.script o (hkeeps.script.subset ho), ?_⟩, ?_⟩
  · rw [hkeeps.background]
    exact h.background
  · cases hr : a.request s with
    | error e =>
      rw [Ask.run_of_request_error hr]
      exact ⟨[], .done s, by simp⟩
    | ok r =>
      refine ⟨[(a, r)], .ask hr (.done _), fun m hm => ?_⟩
      obtain rfl := List.mem_singleton.1 hm
      exact ha

theorem queue (h : s.LinksIn L) {uris : List String} (hu : ∀ uri ∈ uris, L uri) :
    SendsIn L s { s with background := uris } :=
  ⟨⟨h.script, hu⟩, [], .queue uris (.done _), by simp⟩

theorem startQuery (h : s.LinksIn L) (sql : String) : SendsIn L s (s.startQuery sql).1 := by
  have hask := ask h (a := .statement sql) (by simp [Ask.LinkIn, Ask.link?])
  simpa only [Ask.run] using hask

theorem queryPage (h : s.LinksIn L) {uri : String} (hu : L uri) :
    SendsIn L s (s.queryPage uri).1 := by
  have hask := ask h (a := .page uri) (by simpa [Ask.LinkIn, Ask.link?] using hu)
  simpa only [Ask.run] using hask

theorem kill (h : s.LinksIn L) {uri : String} (hu : L uri) : SendsIn L s (s.kill uri).1 := by
  have hask := ask h (a := .kill uri) (by simpa [Ask.LinkIn, Ask.link?] using hu)
  simpa only [Ask.run] using hask

theorem load (h : s.LinksIn L) (u : Load.Upload) : SendsIn L s (s.load u).1 := by
  have hask := ask h (a := .load u) (by simp [Ask.LinkIn, Ask.link?])
  simpa only [Ask.run] using hask

end SendsIn

/-! ## Pages -/

theorem linksIn_of_receivePage (h : s.LinksIn L) (r : Result Request) {page : QueryPage}
    (hp : ((s.send r).1.receivePage (s.send r).2).2 = .ok page) : page.LinksIn L := by
  rw [receivePage_snd] at hp
  obtain ⟨found, hfound, hp⟩ := exists_of_bind hp
  obtain ⟨answer, hanswer, hread⟩ := exists_of_bind hfound
  obtain ⟨-, -, body, hbody, hpage⟩ := readEnvelope_eq_ok_iff.1 hread
  obtain rfl : found = page := by
    split at hp
    · cases hp
    · exact Except.ok.inj hp
  rcases s.send_cases r with ⟨nextId, e, hsend⟩ | ⟨request, outcome, rest, waited, -, hs, hsend⟩
  · rw [hsend] at hanswer
    cases hanswer
  · have hlinks := h.script outcome (by simp [hs])
    rw [hsend] at hanswer
    cases outcome with
    | close | silence => cases hanswer
    | answer a =>
      have ha : a = answer := by
        simp only [answerOf, Outcome.result] at hanswer
        split at hanswer
        · exact Except.ok.inj hanswer
        · cases hanswer
      exact hlinks body found (ha ▸ hbody) hpage

theorem linksIn_of_startQuery (h : s.LinksIn L) (sql : String) {page : QueryPage}
    (hp : (s.startQuery sql).2 = .ok page) : page.LinksIn L :=
  linksIn_of_receivePage h _ hp

theorem linksIn_of_queryPage (h : s.LinksIn L) (uri : String) {page : QueryPage}
    (hp : (s.queryPage uri).2 = .ok page) : page.LinksIn L :=
  linksIn_of_receivePage h _ hp

end Session

/-! ## Streams -/

namespace RowStream

variable {t : RowStream}

theorem settle_ne_fetching (t : RowStream) (uri : String) : t.settle.state ≠ .fetching uri := by
  simp only [settle]
  split
  · simp
  · split <;> simp

namespace LinksIn

theorem settle (h : t.LinksIn L) : t.settle.LinksIn L :=
  ⟨fun uri hs => absurd hs (settle_ne_fetching t uri), h.next, h.kill⟩

theorem absorb (h : t.LinksIn L) {page : QueryPage} (hp : page.LinksIn L) :
    (t.absorb page).1.LinksIn L := by
  unfold RowStream.absorb
  split
  · exact ⟨h.fetching, by simp, h.kill⟩
  · split
    · exact h
    · refine ⟨fun uri hs => absurd hs (settle_ne_fetching _ uri), hp.next, fun uri hk => ?_⟩
      rcases Option.or_eq_some_iff.1 hk with hk | ⟨-, hk⟩
      · exact hp.kill uri hk
      · exact h.kill uri hk

theorem start {page : QueryPage} (hp : page.LinksIn L) (h : RowStream.start page = .ok t) :
    t.LinksIn L := by
  have hempty : ({ queryId := page.id } : RowStream).LinksIn L :=
    ⟨by simp, by simp, by simp⟩
  have habsorb := hempty.absorb hp
  unfold RowStream.start create at h
  split at h
  · next t' heq =>
    obtain rfl := Except.ok.inj h
    rw [heq] at habsorb
    exact habsorb
  · cases h

theorem receive (h : t.LinksIn L) {page : Result QueryPage} (hp : ∀ p, page = .ok p → p.LinksIn L) :
    (t.receive page).1.LinksIn L := by
  unfold RowStream.receive
  split
  · exact ⟨by simp, h.next, h.kill⟩
  · next p =>
    have habsorb := h.absorb (hp p rfl)
    rcases ha : t.absorb p with ⟨t', e | u⟩ <;> rw [ha] at habsorb
    · exact ⟨by simp, habsorb.next, habsorb.kill⟩
    · exact habsorb

theorem deliver (h : t.LinksIn L) (raw : RawRow) (rest : List RawRow) :
    (t.deliver raw rest).1.LinksIn L := by
  have hrest : ({ t with buffer := rest } : RowStream).LinksIn L := ⟨h.fetching, h.next, h.kill⟩
  unfold RowStream.deliver
  dsimp only
  split
  · dsimp only
    have hmore : ({ t with buffer := rest, delivered := t.delivered + 1 } : RowStream).LinksIn L :=
      ⟨h.fetching, h.next, h.kill⟩
    split
    · exact hmore.settle
    · exact hmore
  · exact ⟨by simp, h.next, h.kill⟩

theorem pendingKill (h : t.LinksIn L) {uri : String} (hk : t.pendingKill? = some uri) : L uri := by
  refine h.kill uri ?_
  unfold pendingKill? at hk
  split at hk
  · cases hk
  · cases hk
  · exact hk
  · split at hk
    · exact hk
    · cases hk

end LinksIn

end RowStream

namespace Session

section Streams

variable {t : RowStream} {s : Session}

theorem sendsIn_pollItem (ht : t.LinksIn L) (hs : s.LinksIn L) :
    SendsIn L s (RowStream.pollItem source t s).2.1
      ∧ (RowStream.pollItem source t s).1.LinksIn L := by
  have hpage {t : RowStream} (ht : t.LinksIn L) {uri : String} (hu : L uri) :
      SendsIn L s (RowStream.pollPage source t s uri).2.1
        ∧ (RowStream.pollPage source t s uri).1.LinksIn L := by
    have h := SendsIn.queryPage hs hu
    simp only [RowStream.pollPage, source]
    exact ⟨h, ht.receive fun _ hp => linksIn_of_queryPage hs _ hp⟩
  have hnext : SendsIn L s (RowStream.pollNext source t s).2.1
      ∧ (RowStream.pollNext source t s).1.LinksIn L := by
    unfold RowStream.pollNext
    split
    · next uri hn =>
      have hu := ht.next uri hn
      have hasking : (t.asking uri).LinksIn L := by
        refine ⟨fun uri' hf => ?_, by simp [RowStream.asking], ht.kill⟩
        obtain rfl := StreamState.fetching.inj hf
        exact hu
      rw [show source.fetch s uri = s from rfl]
      exact hpage hasking hu
    · exact ⟨.refl hs, by simp, ht.next, ht.kill⟩
  unfold RowStream.pollItem
  split
  · exact ⟨.refl hs, ht.deliver _ _⟩
  · exact hnext
  · exact hnext
  · next uri hf => exact hpage ht (ht.fetching uri hf)
  all_goals exact ⟨.refl hs, ht⟩

theorem sendsIn_step (t : RowStream) (s' : Session) (h : SendsIn L s s' ∧ t.LinksIn L) :
    SendsIn L s (RowStream.pollItem source t s').2.1
      ∧ (RowStream.pollItem source t s').1.LinksIn L :=
  (sendsIn_pollItem h.2 h.1.1).imp_left h.1.trans

theorem sendsIn_mode_poll (mode : ReadMode) (ht : t.LinksIn L) (hs : s.LinksIn L) :
    SendsIn L s (mode.poll source t s).2.1 ∧ (mode.poll source t s).1.LinksIn L :=
  mode.poll_invariant source (P := fun t w => SendsIn L s w ∧ t.LinksIn L) sendsIn_step
    ⟨.refl hs, ht⟩

theorem sendsIn_next (ht : t.LinksIn L) (hs : s.LinksIn L) :
    SendsIn L s ((RowStream.rows source).next t s).2.1
      ∧ ((RowStream.rows source).next t s).1.LinksIn L :=
  RowStream.next_invariant source (P := fun t w => SendsIn L s w ∧ t.LinksIn L) sendsIn_step
    ⟨.refl hs, ht⟩

theorem sendsIn_close (ht : t.LinksIn L) (hs : s.LinksIn L) :
    SendsIn L s (RowStream.close source t s).2.1 := by
  unfold RowStream.close
  cases hk : t.pendingKill? with
  | none => exact .refl hs
  | some uri =>
    have h := SendsIn.kill hs (ht.pendingKill hk)
    simp only [source]
    rcases hq : s.kill uri with ⟨s', r⟩
    rw [hq] at h
    exact h

theorem sendsIn_drop (ht : t.LinksIn L) (hs : s.LinksIn L) :
    SendsIn L s (RowStream.drop source t s) := by
  unfold RowStream.drop
  cases hk : t.pendingKill? with
  | none => exact .refl hs
  | some uri =>
    refine .queue hs fun uri' hu => ?_
    rcases List.mem_append.1 hu with hu | hu
    · exact hs.background uri' hu
    · exact List.mem_singleton.1 hu ▸ ht.pendingKill hk

theorem sendsIn_finish (ending : Ending) (ht : t.LinksIn L) (hs : s.LinksIn L) :
    SendsIn L s (ending.finish source t s) := by
  cases ending with
  | close =>
    have h := sendsIn_close ht hs
    have hclosed : (RowStream.close source t s).1 = t.closed := by
      unfold RowStream.close
      cases t.pendingKill? <;> rfl
    simp only [Ending.finish, hclosed, RowStream.drop_closed]
    exact h
  | drop => exact sendsIn_drop ht hs

end Streams

/-! ## Operations -/

section Operations

variable {s : Session}

theorem sendsIn_lastPage {page : QueryPage} (hp : page.LinksIn L) (hs : s.LinksIn L) :
    SendsIn L s (s.lastPage page).1 := by
  fun_induction s.lastPage page with
  | case1 s page hn => exact .refl hs
  | case2 s page uri hn s' e hq =>
    have h := SendsIn.queryPage hs (hp.next uri hn)
    rw [hq] at h
    exact h
  | case3 s page uri hn s' page' hq hlt ih =>
    have h := SendsIn.queryPage hs (hp.next uri hn)
    rw [hq] at h
    have hpage : page'.LinksIn L := linksIn_of_queryPage hs uri (by rw [hq])
    exact h.trans (ih hpage h.1)

theorem sendsIn_exec (hs : s.LinksIn L) (sql : String) : SendsIn L s (s.exec sql).1 := by
  have h := SendsIn.startQuery hs sql
  unfold exec
  rcases hq : s.startQuery sql with ⟨s', e | first⟩ <;> rw [hq] at h
  · exact h
  · have hfirst : first.LinksIn L := linksIn_of_startQuery hs sql (by rw [hq])
    exact h.trans (sendsIn_lastPage hfirst h.1)

theorem linksIn_of_query (hs : s.LinksIn L) (sql : String) {t : RowStream}
    (h : (s.query sql).2 = .ok t) : t.LinksIn L := by
  obtain ⟨first, hfirst, ht⟩ := exists_of_bind h
  exact .start (linksIn_of_startQuery hs sql hfirst) ht

theorem sendsIn_query (hs : s.LinksIn L) (sql : String) : SendsIn L s (s.query sql).1 :=
  .startQuery hs sql

theorem sendsIn_queryRow (hs : s.LinksIn L) (sql : String) : SendsIn L s (s.queryRow sql).1 := by
  have h := sendsIn_query hs sql
  unfold queryRow
  rcases hq : s.query sql with ⟨s', e | t⟩ <;> rw [hq] at h
  · exact h
  · have ht : t.LinksIn L := linksIn_of_query hs sql (by rw [hq])
    obtain ⟨hread, ht'⟩ := sendsIn_next ht h.1
    rcases hn : (RowStream.rows source).next t s' with ⟨t', s'', event⟩
    rw [hn] at hread ht'
    have hs'' := h.trans hread
    cases event with
    | failure e =>
      simp only [hn]
      exact hs''.trans (sendsIn_drop ht' hs''.1)
    | item row =>
      simp only [hn]
      exact hs''.trans (sendsIn_close ht' hs''.1)
    | pending | «over» =>
      simp only [hn]
      exact hs''.trans (sendsIn_close ht' hs''.1)

theorem sendsIn_runBackground (hs : s.LinksIn L) : SendsIn L s s.runBackground := by
  have hkills {uris : List String} {s : Session} (hs : s.LinksIn L) (hu : ∀ uri ∈ uris, L uri) :
      SendsIn L s (uris.foldl (fun s uri => (s.kill uri).1) s) := by
    induction uris generalizing s with
    | nil => exact .refl hs
    | cons uri uris ih =>
      obtain ⟨huri, huris⟩ := List.forall_mem_cons.1 hu
      have h := SendsIn.kill hs huri
      exact h.trans (ih h.1 huris)
  have h : SendsIn L s { s with background := [] } := .queue hs (by simp)
  exact h.trans (hkills h.1 hs.background)

theorem sendsIn_finalize (hs : s.LinksIn L) (batch : Load.Batch) :
    SendsIn L s (s.finalize batch).1 := by
  unfold finalize
  split
  · exact .refl hs
  · exact .refl hs
  · next upload _ =>
    have h := SendsIn.load hs upload
    rcases hl : s.load upload with ⟨s', receipt⟩
    rw [hl] at h
    exact h

theorem sendsIn_streamLoad (hs : s.LinksIn L) (sql : String) (rows : List (List String)) :
    SendsIn L s (s.streamLoad sql rows).1 := by
  unfold streamLoad
  split
  · exact .refl hs
  · exact sendsIn_finalize hs _

theorem sendsIn_loadFile (hs : s.LinksIn L) (d : Load.Directory) (sql path : String)
    (options : SortedMap String) : SendsIn L s (s.loadFile d sql path options).1 := by
  unfold loadFile loadFound
  split
  · exact .refl hs
  · next upload _ =>
    have h := SendsIn.load hs upload
    rcases hl : s.load upload with ⟨s', receipt⟩
    rw [hl] at h
    exact h

end Operations

end Session

namespace Connection

open Session

variable {c : Connection}

theorem sendsIn_run (h : c.LinksIn L) {op : Operation} (hop : op.LinkIn L) :
    SendsIn L c.session (op.run c).session ∧ (op.run c).LinksIn L := by
  have hwith {s : Session} (hs : SendsIn L c.session s) :
      SendsIn L c.session s ∧ ({ c with session := s } : Connection).LinksIn L :=
    ⟨hs, hs.1, h.streams⟩
  have hstream {i : Nat} {t : RowStream} (ht : c.streams[i]? = some t) : t.LinksIn L :=
    h.streams t (List.mem_of_getElem? ht)
  cases op with
  | exec sql => exact hwith (sendsIn_exec h.session sql)
  | query sql =>
    have hs := sendsIn_query h.session sql
    simp only [Operation.run]
    split
    · next s t hq =>
      rw [hq] at hs
      have ht : t.LinksIn L := linksIn_of_query h.session sql (by rw [hq])
      refine ⟨hs, hs.1, fun t' ht' => ?_⟩
      rcases List.mem_append.1 ht' with ht' | ht'
      · exact h.streams t' ht'
      · exact List.mem_singleton.1 ht' ▸ ht
    · next s e hq =>
      rw [hq] at hs
      exact hwith hs
  | poll i mode =>
    simp only [Operation.run]
    split
    · next t ht =>
      obtain ⟨hs, ht'⟩ := sendsIn_mode_poll mode (hstream ht) h.session
      refine ⟨hs, hs.1, fun u hu => ?_⟩
      rcases List.mem_or_eq_of_mem_set hu with hu | rfl
      · exact h.streams u hu
      · exact ht'
    · exact ⟨.refl h.session, h⟩
  | finish i ending =>
    simp only [Operation.run]
    split
    · next t ht =>
      have hs := sendsIn_finish ending (hstream ht) h.session
      exact ⟨hs, hs.1, fun u hu => h.streams u (List.mem_of_mem_eraseIdx hu)⟩
    · exact ⟨.refl h.session, h⟩
  | forget i =>
    exact ⟨.refl h.session, h.session, fun u hu => h.streams u (List.mem_of_mem_eraseIdx hu)⟩
  | queryRow sql => exact hwith (sendsIn_queryRow h.session sql)
  | version => exact hwith (sendsIn_queryRow h.session "SELECT version()")
  | streamLoad sql rows => exact hwith (sendsIn_streamLoad h.session sql rows)
  | finalize batch => exact hwith (sendsIn_finalize h.session batch)
  | loadFile d sql path options => exact hwith (sendsIn_loadFile h.session d sql path options)
  | cancel i =>
    simp only [Operation.run]
    split
    · next uri hu =>
      have hqueue : SendsIn L c.session
          { c.session with background := c.session.background.eraseIdx i } :=
        .queue h.session fun u hu => h.session.background u (List.mem_of_mem_eraseIdx hu)
      have huri := h.session.background uri (List.mem_of_getElem? hu)
      have hkill := SendsIn.kill hqueue.1 huri
      exact hwith (hqueue.trans hkill)
    · exact ⟨.refl h.session, h⟩
  | settle => exact hwith (sendsIn_runBackground h.session)
  | statement sql =>
    simp only [Operation.run]
    exact hwith (.startQuery h.session sql)
  | page uri =>
    simp only [Operation.run]
    exact hwith (.queryPage h.session hop)
  | kill uri =>
    simp only [Operation.run]
    exact hwith (.kill h.session hop)

theorem sendsIn_runAll (h : c.LinksIn L) {ops : List Operation} (hops : ∀ op ∈ ops, op.LinkIn L) :
    SendsIn L c.session (Operation.runAll c ops).session := by
  induction ops generalizing c with
  | nil => exact .refl h.session
  | cons op ops ih =>
    obtain ⟨hop, hrest⟩ := List.forall_mem_cons.1 hops
    obtain ⟨hs, hc⟩ := sendsIn_run h hop
    exact hs.trans (ih hc hrest)

end Connection

end QueryClient
