import QueryClient.Proofs.Session.Chain
import QueryClient.Proofs.Session.Links
import QueryClient.Proofs.Url.Join

/-!
# Where requests go

Every request carries the credentials of its session, and it goes to the endpoint unless its link names
a host (`Ask.url_of_request`). Statements and uploads always go there. A page and a cancellation go
where the service says, so the credentials stay with the service as long as all of its links are local
(`Session.requests_of_start`), and leave it with one that is not (`Session.credentials_leave`).
-/

namespace QueryClient

open Http

namespace Session

variable {s : Session} {method : Method} {uri : String} {further : Headers} {body : Body}
  {timeout : Duration} {r : Request}

theorem get?_authorization {h : Headers} (hh : s.headers = .ok h) :
    h.get? "authorization" = some (authorization s.credentials) := by
  have hname : ∀ k ∈ ["user-agent", "x-databend-query-id", "x-databend-tenant",
      "x-databend-warehouse"], canonicalName k ≠ "authorization" := by decide
  have hself : canonicalName "authorization" = "authorization" := by decide
  simp only [List.forall_mem_cons] at hname
  obtain ⟨hagent, hid, htenant, hwarehouse, -⟩ := hname
  rw [get?_insertHeaders hh, lastNamed_append, lastNamed_append]
  have hw : lastNamed "authorization" (optionalHeader "x-databend-warehouse" s.warehouse)
      = none := by
    cases s.warehouse <;> simp [optionalHeader, lastNamed, hwarehouse]
  have ht : lastNamed "authorization" (optionalHeader "x-databend-tenant" s.tenant) = none := by
    cases s.tenant <;> simp [optionalHeader, lastNamed, htenant]
  simp [hw, ht, lastNamed, hagent, hself, hid]

theorem authorization_of_request (h : s.request method uri further body timeout = .ok r) :
    r.headers.get? "authorization"
      = (further.get? "authorization").or (some (authorization s.credentials)) := by
  obtain ⟨own, hown, hfields⟩ := get?_of_request h
  rw [hfields "authorization" (by decide), get?_authorization hown]

end Session

namespace Ask

open Session

variable {s : Session} {a : Ask} {r : Request}

theorem join_of_request (h : a.request s = .ok r) : s.endpoint.join a.path = .ok r.url := by
  cases a with
  | statement sql | page uri | kill uri =>
    unfold request at h
    exact (request_of_ok h).1
  | load u =>
    obtain ⟨headers, -, h⟩ := exists_of_bind h
    exact (request_of_ok h).1

/-- A request carries the credentials of its session, unless its caller names the field. -/
theorem authorization_of_request (h : a.request s = .ok r) :
    r.headers.get? "authorization"
      = (a.field? "authorization").or (some (authorization s.credentials)) := by
  cases a with
  | statement sql | page uri | kill uri =>
    unfold request at h
    rw [Session.authorization_of_request h]
    rfl
  | load u =>
    obtain ⟨headers, hh, h⟩ := exists_of_bind h
    have hsql : canonicalName "insert_sql" ≠ "authorization" := by decide
    rw [Session.authorization_of_request h, get?_insertHeaders hh]
    simp [lastNamed, hsql, field?]

/-- A request goes to the endpoint if its link is local, and otherwise where the link says, whatever
the endpoint is. -/
theorem url_of_request (hb : s.endpoint.IsBase) (h : a.request s = .ok r) :
    (s.endpoint.isLocal a.path = true → r.url.origin = s.endpoint.origin)
      ∧ (s.endpoint.isLocal a.path = false → ∀ base : Url, base.IsBase →
        base.scheme = s.endpoint.scheme → base.join a.path = .ok r.url) := by
  have hjoin := join_of_request h
  refine ⟨fun hlocal => ?_, fun hforeign base hbase hscheme => ?_⟩
  · obtain ⟨u, hu, ho⟩ := Url.join_of_isLocal hb hlocal
    rw [hjoin] at hu
    obtain rfl := Except.ok.inj hu
    exact ho
  · rw [Url.join_of_not_isLocal hb hbase hscheme hforeign, hjoin]

theorem isLocal_of_linkIn {base : Url} (h : a.LinkIn (base.isLocal · = true)) :
    base.isLocal a.path = true := by
  cases a with
  | statement sql => exact base.isLocal_queryPath
  | load u => exact base.isLocal_loadPath
  | page uri | kill uri => exact h uri rfl

theorem nextId_run (h : a.request s = .ok r) : (a.run s).1.nextId = s.nextId + 1 := by
  have hadopt (s : Session) (o : Option SessionState) : (s.adopt o).nextId = s.nextId := by
    cases o <;> rfl
  cases a with
  | statement _ | page _ =>
    simp only [request] at h
    simp only [run, startQuery, queryPage, receivePage_fst, send, h, hadopt]
  | kill _ =>
    simp only [request] at h
    simp only [run, Session.kill, send, h]
  | load u =>
    obtain ⟨headers, hh, h⟩ := exists_of_bind h
    simp only [run, load_of_fields hh h]

end Ask

namespace Session

/-- No request is left out: each takes an identifier of its own. -/
theorem Sends.nextId_eq {s s' : Session} {made : List (Ask × Request)} (h : Sends s made s') :
    s'.nextId = s.nextId + made.length := by
  induction h with
  | done => rfl
  | ask hr _ ih => rw [ih, Ask.nextId_run hr, List.length_cons]; omega
  | queue _ _ ih => exact ih

section Start

variable {c : Config} {userAgent : String} {network : Network} {s : Session}

theorem start_eq (h : start c userAgent network = .ok s) :
    c.endpoint = .ok s.endpoint ∧ s.credentials = c.credentials ∧ s.network = network
      ∧ s.background = [] ∧ s.nextId = 0 := by
  unfold start at h
  split at h
  · cases h
  · obtain ⟨endpoint, he, h⟩ := exists_of_bind h
    obtain rfl := Except.ok.inj h
    exact ⟨he, rfl, rfl, rfl, rfl⟩

/-- The requests of a connection, whatever is done with it and whatever its service answers. The links
that they follow are those of the service or of the caller, and of nobody else. Each carries the
credentials of the configuration. One with a local link goes to the endpoint; one with another link
goes where the link says. So all of them go to the endpoint as long as all links are local. -/
theorem requests_of_start (h : start c userAgent network = .ok s) (ops : List Operation) :
    c.endpoint = .ok s.endpoint ∧ ∃ made,
      let s' := (Operation.runAll ⟨s, []⟩ ops).session
      Sends s made s' ∧ s'.nextId = made.length
      ∧ (∀ L : String → Prop, (∀ o ∈ network.script, o.LinksIn L) → (∀ op ∈ ops, op.LinkIn L) →
        ∀ m ∈ made, m.1.LinkIn L)
      ∧ (∀ m ∈ made,
        m.2.headers.get? "authorization"
            = (m.1.field? "authorization").or (some (authorization c.credentials))
          ∧ (s.endpoint.isLocal m.1.path = true → m.2.url.origin = s.endpoint.origin)
          ∧ (s.endpoint.isLocal m.1.path = false → ∀ base : Url, base.IsBase →
            base.scheme = s.endpoint.scheme → base.join m.1.path = .ok m.2.url))
      ∧ ((∀ o ∈ network.script, o.LinksIn (s.endpoint.isLocal · = true)) →
        (∀ op ∈ ops, op.LinkIn (s.endpoint.isLocal · = true)) →
        ∀ m ∈ made, m.2.url.origin = s.endpoint.origin) := by
  obtain ⟨he, hcredentials, hnetwork, hbackground, hid⟩ := start_eq h
  -- The given links are those that every such property holds of.
  let L₀ (uri : String) : Prop := ∀ L : String → Prop, (∀ o ∈ network.script, o.LinksIn L) →
    (∀ op ∈ ops, op.LinkIn L) → L uri
  have hscript : ∀ o ∈ s.network.script, o.LinksIn L₀ := by
    intro o ho
    rw [hnetwork] at ho
    cases o with
    | close | silence => trivial
    | answer r =>
      exact fun body page hb hp =>
        ⟨fun uri hu L hL _ => (hL _ ho body page hb hp).next uri hu,
          fun uri hu L hL _ => (hL _ ho body page hb hp).kill uri hu⟩
  have hops : ∀ op ∈ ops, op.LinkIn L₀ := by
    intro op hop
    cases op with
    | page uri | kill uri => exact fun L _ hL => hL _ hop
    | _ => trivial
  have hconn : (⟨s, []⟩ : Connection).LinksIn L₀ :=
    ⟨⟨hscript, by simp [hbackground]⟩, by simp⟩
  obtain ⟨-, made, hmade, hlinks⟩ := Connection.sendsIn_runAll hconn hops
  have hgiven : ∀ L : String → Prop, (∀ o ∈ network.script, o.LinksIn L) →
      (∀ op ∈ ops, op.LinkIn L) → ∀ m ∈ made, m.1.LinkIn L :=
    fun L hL hL' m hm uri hu => hlinks m hm uri hu L hL hL'
  have hurl : ∀ m ∈ made, m.2.headers.get? "authorization"
        = (m.1.field? "authorization").or (some (authorization c.credentials))
      ∧ (s.endpoint.isLocal m.1.path = true → m.2.url.origin = s.endpoint.origin)
      ∧ (s.endpoint.isLocal m.1.path = false → ∀ base : Url, base.IsBase →
        base.scheme = s.endpoint.scheme → base.join m.1.path = .ok m.2.url) := by
    intro m hm
    obtain ⟨s₁, hreq, hend, hcred⟩ := hmade.made_of_mem m hm
    have hauth := Ask.authorization_of_request hreq
    rw [hcred, hcredentials] at hauth
    have hbase : s₁.endpoint.IsBase := hend ▸ Config.isBase_of_endpoint he
    have htarget := Ask.url_of_request hbase hreq
    rw [hend] at htarget
    exact ⟨hauth, htarget⟩
  refine ⟨he, made, hmade, by rw [hmade.nextId_eq, hid, Nat.zero_add], hgiven, hurl,
    fun hL hL' m hm => ?_⟩
  exact (hurl m hm).2.1 (Ask.isLocal_of_linkIn (hgiven _ hL hL' m hm))

end Start

/-- Two pages behind a link of the service, and a cancellation by another one. All three requests go to
the endpoint. -/
theorem requests_of_start_local_links :
    let c : Config := { transport := .http, host := "[::1]", port := some 8000 }
    let first := Text.Utf8.encode
      "\x7b\"id\":\"q\",\"next_uri\":\"/p/1\",\"kill_uri\":\"k\"\x7d".toList
    let network : Network := { host := "[::1]", port := 8000, script := [.answer ⟨200, some first⟩] }
    let ops : List Operation := [.query "SELECT 1", .finish 0 .close]
    ∃ s, start c "client" network = .ok s
      ∧ (∀ o ∈ network.script, o.LinksIn (s.endpoint.isLocal · = true))
      ∧ (∀ op ∈ ops, op.LinkIn (s.endpoint.isLocal · = true))
      ∧ ∃ made, Sends s made (Operation.runAll ⟨s, []⟩ ops).session ∧ made.length = 2
        ∧ ∀ m ∈ made, m.2.url.origin = s.endpoint.origin
          ∧ (m.2.headers.get? "authorization").isSome := by
  intro c first network ops
  have heval : ((start c "client" network).toOption.map fun s =>
      (s.endpoint.isLocal "/p/1", s.endpoint.isLocal "k",
        (Operation.runAll ⟨s, []⟩ ops).session.nextId)) = some (true, true, 2) := by
    decide +kernel
  have hpage : (QueryPage.ofBytes first).toOption.map (fun p => (p.nextUri, p.killUri))
      = some (some "/p/1", some "k") := by decide +kernel
  cases h : start c "client" network with
  | error e => rw [h] at heval; cases heval
  | ok s =>
    rw [h] at heval
    simp only [Except.toOption, Option.map_some, Option.some.injEq, Prod.mk.injEq] at heval
    obtain ⟨hnext, hkill, hid⟩ := heval
    have hlinks : ∀ o ∈ network.script, o.LinksIn (s.endpoint.isLocal · = true) := by
      intro o ho
      obtain rfl := List.mem_singleton.1 ho
      intro body page hb hp
      obtain rfl : first = body := Except.ok.inj hb
      rw [hp] at hpage
      simp only [Except.toOption, Option.map_some, Option.some.injEq, Prod.mk.injEq] at hpage
      refine ⟨fun uri hu => ?_, fun uri hu => ?_⟩
      · obtain rfl := Option.some.inj (hpage.1.symm.trans hu)
        exact hnext
      · obtain rfl := Option.some.inj (hpage.2.symm.trans hu)
        exact hkill
    have hops : ∀ op ∈ ops, op.LinkIn (s.endpoint.isLocal · = true) := by
      simp [ops, Operation.LinkIn]
    obtain ⟨-, made, hmade, hlen, -, hurl, hhome⟩ := requests_of_start h ops
    refine ⟨s, rfl, hlinks, hops, made, hmade, hlen ▸ hid, fun m hm => ⟨hhome hlinks hops m hm, ?_⟩⟩
    rw [(hurl m hm).1]
    cases m.1.field? "authorization" <;> rfl

/-- A link that names a host takes the credentials of the configuration to that host, although the
same link, put behind the endpoint as a path, makes a URL of the endpoint. -/
theorem credentials_leave :
    let c : Config := { transport := .http, host := "[::1]", port := some 8000 }
    let link := "//[::2]:9/p"
    let first := Text.Utf8.encode ("\x7b\"id\":\"q\",\"next_uri\":\"" ++ link ++ "\"\x7d").toList
    let network : Network := { host := "[::1]", port := 8000, script := [.answer ⟨200, some first⟩] }
    ∃ s made, start c "client" network = .ok s
      ∧ Sends s made (Operation.runAll ⟨s, []⟩ [.exec "SELECT 1"]).session
      ∧ s.endpoint.origin = ("http", some "[::1]", some 8000)
      ∧ (Url.parse ("http://[::1]:8000" ++ link)).toOption.map Url.origin = some s.endpoint.origin
      ∧ ∃ m ∈ made, m.2.url.origin = ("http", some "[::2]", some 9)
        ∧ m.2.headers.get? "authorization" = some (authorization c.credentials) := by
  intro c link first network
  have heval : ((start c "client" network).toOption.map fun s =>
      (s.endpoint.origin, ((Ask.statement "SELECT 1").request s).toOption.isSome,
        (s.startQuery "SELECT 1").2.toOption.map (·.nextUri)))
      = some (("http", some "[::1]", some 8000), true, some (some link)) := by decide +kernel
  have hleaves : ((start c "client" network).toOption.bind fun s =>
      let s := (s.startQuery "SELECT 1").1
      ((Ask.page link).request s).toOption.map fun r =>
        (r.url.origin, (s.queryPage link).2.toOption.isSome))
      = some (("http", some "[::2]", some 9), false) := by
    decide +kernel
  have hparse : (Url.parse ("http://[::1]:8000" ++ link)).toOption.map Url.origin
      = some ("http", some "[::1]", some 8000) := by decide +kernel
  cases h : start c "client" network with
  | error e => rw [h] at heval; cases heval
  | ok s =>
    rw [h] at heval hleaves
    simp only [Except.toOption, Option.map_some, Option.bind_some, Option.some.injEq,
      Prod.mk.injEq] at heval hleaves
    obtain ⟨horigin, hstatement, hfirst⟩ := heval
    rcases hr : (Ask.statement "SELECT 1").request s with e | r <;> rw [hr] at hstatement
    · cases hstatement
    rcases hq : s.startQuery "SELECT 1" with ⟨s₁, e | first⟩ <;> rw [hq] at hfirst hleaves
    · cases hfirst
    have hlink : first.nextUri = some link := by simpa using hfirst
    rcases hr' : (Ask.page link).request s₁ with e | r' <;> rw [hr'] at hleaves
    · cases hleaves
    rcases hp : s₁.queryPage link with ⟨s₂, e | page⟩ <;> rw [hp] at hleaves
    · have hexec : (s.exec "SELECT 1").1 = s₂ := by
        simp only [exec_eq, answered, hq, hlink, chain_of_error hp, PageChain.cons]
      have hsends : Sends s [(.statement "SELECT 1", r), (.page link, r')] s₂ := by
        refine .ask hr ?_
        rw [show ((Ask.statement "SELECT 1").run s).1 = s₁ by simp only [Ask.run, hq]]
        refine .ask hr' ?_
        rw [show ((Ask.page link).run s₁).1 = s₂ by simp only [Ask.run, hp]]
        exact .done s₂
      obtain ⟨s', hreq, -, hcredentials⟩ := hsends.made_of_mem (.page link, r') (by simp)
      have hauth := Ask.authorization_of_request hreq
      rw [hcredentials, (start_eq h).2.1] at hauth
      refine ⟨s, [(.statement "SELECT 1", r), (.page link, r')], rfl, ?_, horigin,
        hparse.trans (congrArg some horigin.symm), (.page link, r'), by simp, ?_, hauth⟩
      · change Sends s _ (s.exec "SELECT 1").1
        rw [hexec]
        exact hsends
      · simpa using hleaves
    · simp at hleaves

end Session

end QueryClient
