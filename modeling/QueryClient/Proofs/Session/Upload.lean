import QueryClient.Proofs.Http.Fields
import QueryClient.Proofs.Load.Chunks
import QueryClient.Proofs.Session.RoundTrips
import QueryClient.Proofs.Session.Operations
import QueryClient.Proofs.Url.Endpoint

/-!
# Bulk loads on the wire

A load is refused for the shape of its rows or for a field that cannot be sent, and then the session is
as before (`bulkLoad_of_misfit`, `load_cases`). Otherwise all of it travels in one request, and it is
done if the service acknowledges every row (`acknowledged_iff`).
-/

namespace QueryClient

open Http Load Relation

namespace Session

/-- A load with a dialect of its own, which is set before the first row. -/
def bulkLoad (s : Session) (d : Dialect) (sql : String) (rows : List (List String)) :
    Session × Result LoadProgress :=
  match (({ sql } : Batch).withDialect d).sendAll rows with
  | (_, .error fault) => (s, .error fault.toError)
  | (b, .ok ()) => s.finalize b

theorem streamLoad_eq (s : Session) (sql : String) (rows : List (List String)) :
    s.streamLoad sql rows = s.bulkLoad {} sql rows := rfl

/-! ## Sessions that can ask -/

/-- Whether a session has a path to start from, and a name that can be sent. -/
structure IsReady (s : Session) : Prop where
  path : ∃ l, s.endpoint.path = .segments l
  userAgent : isValue s.userAgent = true

section Ready

variable {s s' : Session} {op : Operation}

theorem isReady_start {c : Config} {userAgent : String} {network : Network}
    (h : start c userAgent network = .ok s) : s.IsReady := by
  unfold start at h
  split at h
  · cases h
  · next hua =>
    obtain ⟨endpoint, he, h⟩ := exists_of_bind h
    obtain rfl := Except.ok.inj h
    exact ⟨c.segments_of_endpoint he, by simpa using hua⟩

theorem send_frame (s : Session) (r : Result Request) :
    (s.send r).1.endpoint = s.endpoint ∧ (s.send r).1.userAgent = s.userAgent := by
  cases r <;> exact ⟨rfl, rfl⟩

theorem receivePage_frame (s : Session) (answer : Result Response) :
    (s.receivePage answer).1.endpoint = s.endpoint
      ∧ (s.receivePage answer).1.userAgent = s.userAgent := by
  rw [receivePage_fst]
  cases sessionIn answer <;> exact ⟨rfl, rfl⟩

theorem call_frame (h : Call op s s') :
    s'.endpoint = s.endpoint ∧ s'.userAgent = s.userAgent := by
  cases h with
  | statement _ | page _ =>
    obtain ⟨he, hu⟩ := receivePage_frame (s.send _).1 (s.send _).2
    exact ⟨he.trans (s.send_frame _).1, hu.trans (s.send_frame _).2⟩
  | kill _ => exact s.send_frame _
  | load u _ =>
    unfold load
    split
    · exact ⟨rfl, rfl⟩
    · exact s.send_frame _
  | queue _ => exact ⟨rfl, rfl⟩

theorem IsReady.calls (h : s.IsReady) (hc : Calls op s s') : s'.IsReady := by
  induction hc with
  | refl => exact h
  | tail _ hcall ih =>
    obtain ⟨he, hu⟩ := call_frame hcall
    exact ⟨he ▸ ih.path, hu ▸ ih.userAgent⟩

theorem IsReady.runAll {c : Connection} (h : c.session.IsReady) (ops : List Operation) :
    (Operation.runAll c ops).session.IsReady := by
  induction ops generalizing c with
  | nil => exact h
  | cons op ops ih => exact ih (h.calls (calls_run op c))

end Ready

/-! ## One request -/

/-- The fields of an upload that are the caller's: what it says about itself and where it leads. -/
def uploadFields (s : Session) (u : Upload) : List (String × String) :=
  ("insert_sql", headerSql u.sql) :: u.headers ++ s.routing

/-- What a request for an upload is. -/
structure Uploads (s : Session) (u : Upload) (r : Request) : Prop where
  method : r.method = .put
  origin : r.url.scheme = s.endpoint.scheme ∧ r.url.authority = s.endpoint.authority
  target : r.url.target = loadPath
  fields : ∀ name, name ≠ "content-type" → r.headers.get? name
    = (lastNamed name (("insert_sql", headerSql u.sql) :: u.headers)).or
      (lastNamed name (s.identity ++ s.routing))
  body : r.body = .form ⟨"upload", u.fileName, u.content, u.length⟩

/-- What an answer to an upload comes to. -/
def receiptIn (answer : Except ExchangeFailure Response) : Result LoadReceipt := do
  let receipt ← readEnvelope LoadReceipt.ofBytes
    (← answer.mapError fun failure => .transport (.exchange failure))
  match receipt.error with
  | some rejection => throw rejection.toError
  | none => return receipt

section Load

variable {s : Session} {u : Upload}

theorem load_of_fields {headers : Headers} {r : Request}
    (hh : insertHeaders {} (("insert_sql", headerSql u.sql) :: u.headers) = .ok headers)
    (hr : s.request .put loadPath headers (.form ⟨"upload", u.fileName, u.content, u.length⟩)
      s.loadTimeout = .ok r) :
    s.load u = ({ s with network := (s.network.send r).1, nextId := s.nextId + 1 },
      receiptIn (s.network.send r).2) := by
  unfold load
  rw [hh]
  dsimp only
  rw [hr]
  rfl

theorem Uploads.insertSql {r : Request} (h : s.Uploads u r)
    (hlast : lastNamed "insert_sql" u.headers = none) :
    r.headers.get? "insert_sql" = some (headerSql u.sql) := by
  have hself : canonicalName "insert_sql" = "insert_sql" := by decide
  rw [h.fields "insert_sql" (by decide), lastNamed, hlast, if_pos hself]
  rfl

theorem uploads_request {l : List String} {headers own : Headers}
    (hl : s.endpoint.path = .segments l)
    (hh : insertHeaders {} (("insert_sql", headerSql u.sql) :: u.headers) = .ok headers)
    (hs : s.headers = .ok own) :
    ∃ r, s.request .put loadPath headers (.form ⟨"upload", u.fileName, u.content, u.length⟩)
      s.loadTimeout = .ok r ∧ s.Uploads u r := by
  obtain ⟨r, hr⟩ : ∃ r, s.request .put loadPath headers
      (.form ⟨"upload", u.fileName, u.content, u.length⟩) s.loadTimeout = .ok r :=
    ⟨_, by simp only [request, Url.join_loadPath hl, hs]; rfl⟩
  obtain ⟨hurl, hmethod, hbody, -⟩ := request_of_ok hr
  have hurl := Except.ok.inj ((Url.join_loadPath hl).symm.trans hurl)
  refine ⟨r, hr, hmethod, ?_, ?_, fun name hname => ?_, hbody⟩
  · rw [← hurl]
    exact ⟨rfl, rfl⟩
  · rw [← hurl]
    change (Url.Path.segments ["v1", "streaming_load"]).text ++ "" = loadPath
    decide
  · obtain ⟨own', hown, hfields⟩ := get?_of_request hr
    obtain rfl := Except.ok.inj (hs.symm.trans hown)
    rw [headers_def] at hs
    rw [hfields name hname, get?_insertHeaders hh, get?_insertHeaders hs]
    simp only [SortedMap.get?_emptyCollection, Option.or_none]

/-- An upload with valid names either has a field that cannot be sent, and then nothing happens, or
it is sent. -/
theorem load_cases (h : s.IsReady) (hn : ∀ f ∈ u.headers, isName f.1 = true) :
    (∃ f, (s.uploadFields u).find? (fun f => HoldsControl f.2) = some f
        ∧ s.load u = (s, .error (.invalidArgument (.headerValue (canonicalName f.1)))))
      ∨ (s.uploadFields u).find? (fun f => HoldsControl f.2) = none
        ∧ ∃ r, s.Uploads u r
          ∧ s.load u = ({ s with network := (s.network.send r).1, nextId := s.nextId + 1 },
            receiptIn (s.network.send r).2) := by
  obtain ⟨l, hl⟩ := h.path
  have hnames : ∀ f ∈ ("insert_sql", headerSql u.sql) :: u.headers, isName f.1 = true :=
    List.forall_mem_cons.2 ⟨show isName "insert_sql" = true by decide, hn⟩
  have hfields := insertHeaders_eq hnames {}
  rw [uploadFields, List.find?_append]
  cases hf : (("insert_sql", headerSql u.sql) :: u.headers).find? fun f => HoldsControl f.2 with
  | some f =>
    rw [hf] at hfields
    exact .inl ⟨f, rfl, by simp only [load, hfields]⟩
  | none =>
    rw [hf] at hfields
    rcases headers_cases h.userAgent with ⟨f, hr, hs⟩ | ⟨hr, own, hs⟩
    · have hname : canonicalName f.1 = f.1 := by
        rcases mem_routing (List.mem_of_find?_eq_some hr) with hf | hf <;> rw [hf] <;> decide
      refine .inl ⟨f, by rw [hr]; rfl, ?_⟩
      simp only [load, hfields, request, Url.join_loadPath hl, hs, hname]
      rfl
    · obtain ⟨r, hreq, huploads⟩ := uploads_request hl hfields hs
      exact .inr ⟨by rw [hr]; rfl, r, huploads, load_of_fields hfields hreq⟩

end Load

/-! ## Acknowledgements -/

/-- Whether an answer is a success that acknowledges so many rows. -/
def Acknowledges (answer : Except ExchangeFailure Response) (n : Nat) (p : LoadProgress) : Prop :=
  ∃ a body receipt, answer = .ok a ∧ 200 ≤ a.status ∧ a.status < 300 ∧ a.read = .ok body
    ∧ LoadReceipt.ofBytes body = .ok receipt ∧ receipt.error = none
    ∧ receipt.stats.rows.toNat = n ∧ p = ⟨receipt.stats.rows, receipt.stats.bytes⟩

theorem acknowledged_eq_ok_iff {n : Nat} {receipt : LoadReceipt} {p : LoadProgress} :
    acknowledged n receipt = .ok p
      ↔ receipt.stats.rows.toNat = n ∧ p = ⟨receipt.stats.rows, receipt.stats.bytes⟩ := by
  unfold acknowledged
  split <;> next h => simp [h, eq_comm]

theorem readEnvelope_eq_ok_iff {α : Type} {ofBytes : List UInt8 → Result α} {a : Response} {x : α} :
    readEnvelope ofBytes a = .ok x
      ↔ 200 ≤ a.status ∧ a.status < 300 ∧ ∃ body, a.read = .ok body ∧ ofBytes body = .ok x := by
  have hstatus : isSuccess a.status = true ↔ 200 ≤ a.status ∧ a.status < 300 := by
    simp [isSuccess]
  unfold readEnvelope readBody
  by_cases hs : isSuccess a.status = true
  · obtain ⟨hlow, hhigh⟩ := hstatus.1 hs
    cases a.read <;> simp [hs, hlow, hhigh, Except.bind]
  · have hnone : ¬ (200 ≤ a.status ∧ a.status < 300) := mt hstatus.2 hs
    simp only [hs, if_false, reduceCtorEq, false_iff]
    exact fun h => hnone ⟨h.1, h.2.1⟩

theorem receiptIn_eq_ok_iff {answer : Except ExchangeFailure Response} {receipt : LoadReceipt} :
    receiptIn answer = .ok receipt
      ↔ ∃ a, answer = .ok a ∧ readEnvelope LoadReceipt.ofBytes a = .ok receipt
        ∧ receipt.error = none := by
  cases answer with
  | error failure => simp [receiptIn, bind, Except.bind]
  | ok a =>
    simp only [receiptIn, mapError_ok, bind, Except.bind]
    cases hr : readEnvelope LoadReceipt.ofBytes a with
    | error e => simp [hr]
    | ok found =>
      cases he : found.error <;>
        simp [hr, he, pure, Except.pure, throw, throwThe, MonadExceptOf.throw]
      · rintro rfl
        exact he
      · rintro rfl
        simp [he]

theorem acknowledged_iff {answer : Except ExchangeFailure Response} {n : Nat} {p : LoadProgress} :
    (receiptIn answer).bind (acknowledged n) = .ok p ↔ Acknowledges answer n p := by
  constructor
  · intro h
    obtain ⟨receipt, hreceipt, hp⟩ := exists_of_bind h
    obtain ⟨a, ha, henvelope, herror⟩ := receiptIn_eq_ok_iff.1 hreceipt
    obtain ⟨hlow, hhigh, body, hbody, hbytes⟩ := readEnvelope_eq_ok_iff.1 henvelope
    obtain ⟨hrows, hp⟩ := acknowledged_eq_ok_iff.1 hp
    exact ⟨a, body, receipt, ha, hlow, hhigh, hbody, hbytes, herror, hrows, hp⟩
  · rintro ⟨a, body, receipt, ha, hlow, hhigh, hbody, hbytes, herror, hrows, hp⟩
    have henvelope := readEnvelope_eq_ok_iff.2 ⟨hlow, hhigh, body, hbody, hbytes⟩
    rw [receiptIn_eq_ok_iff.2 ⟨a, ha, henvelope, herror⟩]
    exact acknowledged_eq_ok_iff.2 ⟨hrows, hp⟩

/-! ## Bulk loads -/

section BulkLoad

variable {s : Session} {d : Dialect} {sql : String} {rows : List (List String)}

/-- The upload of rows in a dialect. -/
def uploadOf (d : Dialect) (sql : String) (rows : List (List String)) : Upload :=
  let content := d.records (rows.map Batch.fieldBytes)
  ⟨sql, d.headers, content, content.length, "upload.csv"⟩

theorem finalize_of_tallies {b : Batch} (h : b.Tallies rows) (hf : b.fault = none)
    (hne : rows ≠ []) :
    s.finalize b = ((s.load (uploadOf b.dialect b.sql rows)).1,
      (s.load (uploadOf b.dialect b.sql rows)).2.bind (acknowledged rows.length)) := by
  simp only [finalize, h.finish hf hne, h.rows, h.content, uploadOf]

theorem bulkLoad_of_fits {first : List String} (hhead : rows.head? = some first)
    (hne : first ≠ []) (hfit : ∀ row ∈ rows, row.length = first.length) :
    s.bulkLoad d sql rows = ((s.load (uploadOf d sql rows)).1,
      (s.load (uploadOf d sql rows)).2.bind (acknowledged rows.length)) := by
  obtain ⟨rest, rfl⟩ : ∃ rest, rows = first :: rest := by
    cases rows with
    | nil => cases hhead
    | cons r rest => exact ⟨rest, by rw [Option.some.inj hhead]⟩
  have hn : first.length ≠ 0 := mt List.eq_nil_of_length_eq_zero hne
  let start : Batch := ({ sql } : Batch).withDialect d
  have hstart : start.Tallies [] := (Batch.tallies_new sql {}).withDialect d
  obtain ⟨b, hs, hsql, hd, hf, htaken⟩ :=
    Batch.sendAll_fits (b := start.withColumns first.length) rfl rfl hn hfit
      (hstart.refuse start.fault (some first.length))
  rw [Batch.sendAll_withColumns rfl rfl] at hs
  have hfinalize := finalize_of_tallies (s := s) htaken hf (List.cons_ne_nil _ _)
  rw [hsql, hd] at hfinalize
  unfold bulkLoad
  rw [hs]
  exact hfinalize

theorem bulkLoad_of_misfit {first row : List String} {i : Nat} (hhead : rows.head? = some first)
    (hrow : rows[i]? = some row) (hbad : first = [] ∨ row.length ≠ first.length)
    (hleast : ∀ j row', j < i → rows[j]? = some row' →
      ¬ (first = [] ∨ row'.length ≠ first.length)) :
    s.bulkLoad d sql rows = (s, .error (.schemaMismatch i first.length row.length)) := by
  have hmisfit (r : List String) :
      r.length ≠ first.length ∨ first.length = 0 ↔ first = [] ∨ r.length ≠ first.length := by
    rw [List.length_eq_zero_iff, or_comm]
  obtain ⟨hi, hget⟩ := List.getElem?_eq_some_iff.1 hrow
  have hsplit : rows = rows.take i ++ row :: rows.drop (i + 1) := by
    rw [← hget, ← List.drop_eq_getElem_cons hi, List.take_append_drop]
  have hbefore : ∀ r ∈ rows.take i, ¬ (r.length ≠ first.length ∨ first.length = 0) := by
    intro r hr
    obtain ⟨j, hj, rfl⟩ := List.mem_take_iff_getElem.1 hr
    rw [hmisfit]
    exact hleast j _ (by omega) (List.getElem?_eq_getElem (by omega))
  let start : Batch := ({ sql } : Batch).withDialect d
  have hsend := Batch.sendAll_misfit (b := start.withColumns first.length) (n := first.length)
    rfl rfl hbefore ((hmisfit row).2 hbad) (rows.drop (i + 1))
  have hlen : (start.withColumns first.length).rows + (rows.take i).length = i := by
    rw [List.length_take, Nat.min_eq_left (Nat.le_of_lt hi)]
    exact Nat.zero_add i
  rw [← hsplit, hlen] at hsend
  have hfirst : (start.withColumns first.length).sendAll rows = start.sendAll rows := by
    cases rows with
    | nil => cases hhead
    | cons r rest =>
      obtain rfl := Option.some.inj hhead
      exact Batch.sendAll_withColumns rfl rfl r rest
  rw [hfirst] at hsend
  unfold bulkLoad
  split
  · next fault h =>
    rw [h] at hsend
    obtain rfl := Except.error.inj hsend
    rfl
  · next h =>
    rw [h] at hsend
    cases hsend

theorem name_of_mem_uploadFields {f : String × String}
    (h : f ∈ s.uploadFields (uploadOf d sql rows)) :
    isName f.1 = true ∧ canonicalName f.1 = f.1 := by
  rcases List.mem_append.1 h with h | h
  · have hnames : ∀ name ∈ (("insert_sql", headerSql sql) :: d.headers).map Prod.fst,
        isName name = true ∧ canonicalName name = name := by
      simp only [Dialect.headers, List.map_cons, List.map_nil]
      decide
    exact hnames _ (List.mem_map_of_mem h)
  · rcases mem_routing h with h | h <;> rw [h] <;> decide

theorem lastNamed_insert_sql (d : Dialect) : lastNamed "insert_sql" d.headers = none := by
  have hnames : ∀ k ∈ ["format_type", "field_delimiter", "record_delimiter", "quote", "skip_header"],
      canonicalName k ≠ "insert_sql" := by decide
  simp only [List.forall_mem_cons] at hnames
  obtain ⟨h1, h2, h3, h4, h5, -⟩ := hnames
  simp [Dialect.headers, lastNamed, h1, h2, h3, h4, h5]

end BulkLoad

/-- Whatever was done with a connection before, a load makes no request unless its rows have one
width and all its fields can be sent. Otherwise it makes one request with all rows, and it succeeds
if and only if the service acknowledges as many. -/
theorem bulkLoad_of_start {c : Config} {userAgent : String} {network : Network} {s₀ : Session}
    (h : start c userAgent network = .ok s₀) (before : List Operation) (d : Dialect) (sql : String)
    (rows : List (List String)) :
    let s := (Operation.runAll ⟨s₀, []⟩ before).session
    let fields := ("insert_sql", headerSql sql) :: d.headers
      ++ optionalHeader "x-databend-tenant" s.tenant
      ++ optionalHeader "x-databend-warehouse" s.warehouse
    let content := d.records (rows.map Batch.fieldBytes)
    s.streamLoad sql rows = s.bulkLoad {} sql rows
      ∧ (rows = [] → s.bulkLoad d sql rows = (s, .ok {}))
      ∧ ∀ first, rows.head? = some first →
        (∀ i row, rows[i]? = some row → (first = [] ∨ row.length ≠ first.length) →
          (∀ j row', j < i → rows[j]? = some row' →
            ¬ (first = [] ∨ row'.length ≠ first.length)) →
          s.bulkLoad d sql rows = (s, .error (.schemaMismatch i first.length row.length)))
        ∧ (first ≠ [] → (∀ row ∈ rows, row.length = first.length) →
          (∀ f, fields.find? (fun f => HoldsControl f.2) = some f →
            s.bulkLoad d sql rows = (s, .error (.invalidArgument (.headerValue f.1))))
          ∧ ((∀ f ∈ fields, ¬ HoldsControl f.2) → ∃ r : Request,
            r.method = .put
              ∧ r.url.scheme = s.endpoint.scheme ∧ r.url.authority = s.endpoint.authority
              ∧ r.url.target = "/v1/streaming_load"
              ∧ r.headers.get? "insert_sql" = some (headerSql sql)
              ∧ r.body = .form ⟨"upload", "upload.csv", content, content.length⟩
              ∧ (s.bulkLoad d sql rows).1
                = { s with network := (s.network.send r).1, nextId := s.nextId + 1 }
              ∧ ∀ p, (s.bulkLoad d sql rows).2 = .ok p
                ↔ Acknowledges (s.network.send r).2 rows.length p)) := by
  intro s fields content
  have hready : s.IsReady := (isReady_start h).runAll (c := ⟨s₀, []⟩) before
  refine ⟨s.streamLoad_eq sql rows, fun hnil => hnil ▸ rfl, fun first hhead =>
    ⟨fun i row => bulkLoad_of_misfit hhead, fun hne hfit => ?_⟩⟩
  have hfields : s.uploadFields (uploadOf d sql rows) = fields := by
    simp only [uploadFields, uploadOf, routing, fields, List.append_assoc]
  have hnames : ∀ f ∈ (uploadOf d sql rows).headers, isName f.1 = true := fun f hf =>
    (name_of_mem_uploadFields (s := s)
      (List.mem_append_left _ (List.mem_cons_of_mem _ hf))).1
  rw [bulkLoad_of_fits hhead hne hfit]
  rcases load_cases hready hnames with ⟨f, hf, hload⟩ | ⟨hnone, r, hr, hload⟩
  · rw [hfields] at hf
    have hmem := List.mem_of_find?_eq_some hf
    refine ⟨fun g hg => ?_, fun hall => absurd ?_ (hall f hmem)⟩
    · obtain rfl : f = g := Option.some.inj (hf.symm.trans hg)
      rw [hload, (name_of_mem_uploadFields (hfields ▸ hmem)).2]
      rfl
    · simpa using List.find?_some hf
  · rw [hfields] at hnone
    refine ⟨fun f hf => ?_, fun _ => ⟨r, hr.method, hr.origin.1, hr.origin.2, hr.target,
      hr.insertSql (lastNamed_insert_sql d), hr.body, by rw [hload], fun p => ?_⟩⟩
    · rw [hnone] at hf
      cases hf
    · rw [hload]
      exact acknowledged_iff

/-- Two rows that are acknowledged, a row without a field, and a statement with a bell. -/
theorem bulkLoad_of_start_semicolons :
    let c : Config := { transport := .http, host := "[::1]", port := some 8000 }
    let receipt := Text.Utf8.encode "\x7b\"stats\":\x7b\"rows\":2,\"bytes\":8\x7d\x7d".toList
    let network : Network :=
      { host := "[::1]", port := 8000, script := [.answer ⟨200, some receipt⟩] }
    let d : Dialect := { fieldDelimiter := 59 }
    let sql := "INSERT INTO t\r\nVALUES"
    let rows := [["1", "a"], ["2", "b"]]
    ∃ s, start c "client" network = .ok s
      ∧ (∃ r : Request, r.headers.get? "insert_sql" = some "INSERT INTO t  VALUES"
        ∧ (s.bulkLoad d sql rows).1
          = { s with network := (s.network.send r).1, nextId := s.nextId + 1 }
        ∧ Acknowledges (s.network.send r).2 2 ⟨2, 8⟩)
      ∧ s.bulkLoad d sql [["1"], []] = (s, .error (.schemaMismatch 1 1 0))
      ∧ s.bulkLoad d "\x07" rows = (s, .error (.invalidArgument (.headerValue "insert_sql"))) := by
  intro c receipt network d sql rows
  have heval : ((start c "client" network).toOption.map fun s =>
      ((s.bulkLoad d sql rows).2.toOption, s.tenant, s.warehouse))
      = some (some ⟨2, 8⟩, none, none) := by decide +kernel
  cases h : start c "client" network with
  | error e => rw [h] at heval; cases heval
  | ok s =>
    rw [h] at heval
    simp only [Except.toOption, Option.map_some, Option.some.injEq, Prod.mk.injEq] at heval
    obtain ⟨hdone, htenant, hwarehouse⟩ := heval
    have hok : (s.bulkLoad d sql rows).2 = .ok ⟨2, 8⟩ := by
      cases hr : (s.bulkLoad d sql rows).2 with
      | error e => rw [hr] at hdone; cases hdone
      | ok p => rw [hr] at hdone; rw [Option.some.inj hdone]
    refine ⟨s, rfl, ?_, ?_, ?_⟩
    · obtain ⟨-, -, hrows⟩ := bulkLoad_of_start h [] d sql rows
      obtain ⟨-, hsent⟩ := hrows ["1", "a"] rfl
      obtain ⟨-, hrequest⟩ := hsent (by decide) (by decide)
      obtain ⟨r, -, -, -, -, hsql, -, hs, hp⟩ := hrequest (by
        simp only [Operation.runAll, List.foldl_nil, htenant, hwarehouse]
        decide)
      exact ⟨r, hsql.trans (by decide), hs, (hp _).1 hok⟩
    · obtain ⟨-, -, hrows⟩ := bulkLoad_of_start h [] d sql [["1"], []]
      exact (hrows ["1"] rfl).1 1 [] rfl (by decide) (by
        rintro j row hj hrow
        obtain rfl : j = 0 := by omega
        obtain rfl := Option.some.inj hrow
        decide)
    · obtain ⟨-, -, hrows⟩ := bulkLoad_of_start h [] d "\x07" rows
      obtain ⟨hrefused, -⟩ := (hrows ["1", "a"] rfl).2 (by decide) (by decide)
      exact hrefused ("insert_sql", "\x07") (by
        simp only [Operation.runAll, List.foldl_nil, htenant, hwarehouse]
        decide)

/-! ## What was written and what is sent -/

theorem sent_load (s : Session) (u : Upload) :
    (s.load u).1.network.sent = s.network.sent
      ∨ ∃ r, (s.load u).1.network.sent = r :: s.network.sent
        ∧ r.body = .form ⟨"upload", u.fileName, u.content, u.length⟩ := by
  unfold load
  split
  · exact .inl rfl
  · next headers _ =>
    rcases s.send_cases (s.request .put loadPath headers
        (.form ⟨"upload", u.fileName, u.content, u.length⟩) s.loadTimeout) with
      ⟨nextId, e, hsend⟩ | ⟨r, outcome, rest, waited, hr, -, hsend⟩
    · exact .inl (by simp only [hsend])
    · exact .inr ⟨r, by simp only [hsend], (request_of_ok hr).2.2.1⟩

theorem sent_finalize (s : Session) {b : Batch} {rows : List (List String)} (h : b.Tallies rows) :
    let written := b.dialect.records (rows.map Batch.fieldBytes)
    (s.finalize b).1.network.sent = s.network.sent
      ∨ ∃ r, (s.finalize b).1.network.sent = r :: s.network.sent
        ∧ r.body = .form ⟨"upload", "upload.csv", written, written.length⟩ := by
  intro written
  cases hf : b.fault with
  | some fault => exact .inl (by simp only [finalize, Batch.finish, hf])
  | none =>
    by_cases hrows : rows = []
    · have hzero : b.rows = 0 := by rw [h.rows, hrows, List.length_nil]
      exact .inl (by simp only [finalize, Batch.finish, hf, hzero, if_true])
    · rw [finalize_of_tallies h hf hrows]
      exact s.sent_load _

/-- Whatever is done with a load, its chunks and its buffer are what a single writer would have
written, and its size is the length of that, which is also announced when it is sent. -/
theorem written_of_calls (sql : String) (d : Dialect) (cs : List Load.Call) :
    let start : Batch := { sql, dialect := d }
    let b := start.calls cs
    let rows := start.accepted cs
    let written := b.dialect.records (rows.map Batch.fieldBytes)
    ((∀ d', Load.Call.dialect d' ∉ cs) → b.dialect = d)
      ∧ b.rows = rows.length
      ∧ b.chunks.toList.flatMap Array.toList ++ b.buffer.toList = written
      ∧ b.size = written.length
      ∧ b.buffer.size < 65536 ∧ b.buffered = b.buffer.size
      ∧ (∀ c ∈ b.chunks, c.size ≠ 0 ∧ 65536 ≤ c.size)
      ∧ b.closeChunk.chunks.toList.flatMap Array.toList = written
      ∧ (∀ c ∈ b.closeChunk.chunks, c.size ≠ 0)
      ∧ (∀ c ∈ b.closeChunk.chunks.toList.dropLast, 65536 ≤ c.size)
      ∧ written.length = (rows.map fun row => b.dialect.recordSize (Batch.fieldBytes row)).sum
      ∧ ∀ s : Session, (s.finalize b).1.network.sent = s.network.sent
        ∨ ∃ r, (s.finalize b).1.network.sent = r :: s.network.sent
          ∧ r.body = .form ⟨"upload", "upload.csv", written, written.length⟩ := by
  intro start b rows written
  have h : b.Tallies rows := (Batch.tallies_new sql d).calls cs
  obtain ⟨hclosed, hlarge⟩ := h.chunks_closeChunk
  have hpos : ∀ c ∈ b.chunks, c.size ≠ 0 := fun c hc => by
    have := h.chunks c hc
    simp only [Batch.chunkSize] at this
    omega
  exact ⟨fun hd => Batch.dialect_calls hd, h.rows, h.content, by rw [h.size, h.content], h.buffer,
    h.buffered, fun c hc => ⟨hpos c hc, h.chunks c hc⟩,
    (Batch.sealedContent_closeChunk b).trans h.content, hclosed, hlarge,
    by rw [← h.length_content, h.content], fun s => s.sent_finalize h⟩

/-- A load in another dialect: a row that fills a chunk, one that stays in the buffer, one that is
refused for its width, and one that is refused because of that. -/
theorem written_of_calls_full_chunk :
    let start : Batch := { sql := "INSERT INTO t", dialect := { quote := 39 } }
    let wide (n : Nat) := String.ofList (List.replicate n '#')
    let cs (n : Nat) : List Load.Call :=
      [.send [wide n, "it's"], .send ["a", "b"], .send ["x"], .send ["c", "d"]]
    (∀ d, Load.Call.dialect d ∉ cs 65536)
      ∧ start.accepted (cs 65536) = [[wide 65536, "it's"], ["a", "b"]]
      ∧ (start.calls (cs 65536)).dialect.quote = 39
      ∧ (start.calls (cs 65536)).size = 65549
      ∧ (start.calls (cs 65536)).buffer.size < 65536
      ∧ ∃ c ∈ (start.calls (cs 65536)).chunks, 65536 ≤ c.size := by
  intro start wide cs
  have hd (n : Nat) : ∀ d, Load.Call.dialect d ∉ cs n := by simp [cs]
  have hrows (n : Nat) : start.accepted (cs n) = [[wide n, "it's"], ["a", "b"]] := by
    simp [start, cs, Batch.accepted, Batch.accepted?, Batch.call, Batch.send, Batch.append_frame]
  have hwide (n : Nat) :
      Dialect.fieldSize { quote := 39 } (Text.Utf8.encode (wide n).toList) = n := by
    have hchar : String.utf8EncodeChar '#' = [35] := by decide
    have hplain : Dialect.isSpecial { quote := 39 } 35 = false := by decide
    rw [String.toList_ofList, Text.Utf8.encode, List.flatMap_replicate, hchar,
      List.flatten_replicate_singleton, Dialect.fieldSize, List.any_replicate, hplain]
    simp
  have hquoted : Dialect.fieldSize { quote := 39 } (Text.Utf8.encode "it's".toList) = 7 := by decide
  have hfirst (n : Nat) :
      Dialect.recordSize { quote := 39 } (Batch.fieldBytes [wide n, "it's"]) = n + 9 := by
    rw [Dialect.recordSize, Batch.fieldBytes, if_neg (by simp), List.map_cons, List.map_cons,
      List.map_cons, List.map_cons, hwide, hquoted]
    rfl
  have hsecond : Dialect.recordSize { quote := 39 } (Batch.fieldBytes ["a", "b"]) = 4 := by decide
  -- For a field of any width: one that fills a chunk is too wide to evaluate.
  have hcalls (n : Nat) : (start.calls (cs n)).dialect.quote = 39
      ∧ (start.calls (cs n)).size = n + 13 ∧ (start.calls (cs n)).buffer.size < 65536
      ∧ (65536 ≤ n → ∃ c ∈ (start.calls (cs n)).chunks, 65536 ≤ c.size) := by
    obtain ⟨hdialect, -, hwritten, hsize, hbuffer, -, hchunks, -, -, -, hlength, -⟩ :=
      written_of_calls "INSERT INTO t" { quote := 39 } (cs n)
    have htotal : (start.calls (cs n)).size = n + 13 := by
      rw [hsize, hlength, hrows, hdialect (hd n), List.map_cons, List.map_cons, hfirst, hsecond]
      rfl
    refine ⟨by rw [hdialect (hd n)], htotal, hbuffer, fun hn => ?_⟩
    have hsealed : (start.calls (cs n)).chunks.toList.flatMap Array.toList ≠ [] := by
      intro hnil
      rw [hnil, List.nil_append] at hwritten
      have hall : (start.calls (cs n)).buffer.size = (start.calls (cs n)).size := by
        rw [hsize, ← hwritten, Array.length_toList]
      have hsmall : (start.calls (cs n)).buffer.size < 65536 := hbuffer
      omega
    obtain ⟨byte, hbyte⟩ := List.exists_mem_of_ne_nil _ hsealed
    obtain ⟨c, hc, -⟩ := List.mem_flatMap.1 hbyte
    have hc : c ∈ (start.calls (cs n)).chunks := Array.mem_toList_iff.1 hc
    exact ⟨c, hc, (hchunks c hc).2⟩
  obtain ⟨hdialect, hsize, hbuffer, hchunk⟩ := hcalls 65536
  exact ⟨hd 65536, hrows 65536, hdialect, hsize, hbuffer, hchunk (Nat.le_refl 65536)⟩

end Session

end QueryClient
