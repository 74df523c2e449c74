import QueryClient.Proofs.Envelope.Reads
import QueryClient.Proofs.Json.RoundTrip
import Mathlib.Logic.Relation

/-!
# Answers in every layout

The records of an answer with their declared types, and the readers of answers as readers of these
types: an answer does not depend on the layout of its body, and it is refused exactly when the body
is flawed (`answersIn_fields`). What a body leaves out is what a record has by default (`Fills`).
-/

namespace QueryClient

open Json Relation Text

/-! ## Declared types -/

def Rejection.fields : List (RecordField Declared) :=
  [.required "code" (.natural (UInt32.size - 1)), .required "message" .text]

def SchemaField.fields : List (RecordField Declared) :=
  [.required "name" .text, .required "type" .text]

def Progress.fields : List (RecordField Declared) :=
  [.defaulted "rows" (.ofNat 0) (.natural (UInt64.size - 1)),
    .defaulted "bytes" (.ofNat 0) (.natural (UInt64.size - 1))]

def QueryStats.fields : List (RecordField Declared) :=
  [.defaulted "running_time_ms" (.ofNat 0) .float,
    .defaulted "scan_progress" (.object []) (.record Progress.fields),
    .defaulted "write_progress" (.object []) (.record Progress.fields),
    .defaulted "result_progress" (.object []) (.record Progress.fields)]

def SessionState.fields : List (RecordField Declared) :=
  [.optional "database" .text, .optional "settings" .texts]

def QueryPage.fields : List (RecordField Declared) :=
  [.required "id" .text, .optional "session" (.record SessionState.fields),
    .defaulted "schema" (.array []) (.list (.record SchemaField.fields)),
    .defaulted "data" (.array []) (.list (.list (.nullable .text))),
    .defaulted "state" (.ofString "") .text, .optional "error" (.record Rejection.fields),
    .defaulted "stats" (.object []) (.record QueryStats.fields), .optional "next_uri" .text,
    .optional "final_uri" .text, .optional "kill_uri" .text]

def LoadReceipt.fields : List (RecordField Declared) :=
  [.defaulted "id" (.ofString "") .text, .defaulted "state" (.ofString "") .text,
    .defaulted "stats" (.object []) (.record Progress.fields),
    .optional "error" (.record Rejection.fields)]

/-- The body of an answer that is no success. -/
def Rejection.bodyFields : List (RecordField Declared) :=
  [.required "error" (.record Rejection.fields)]

/-! ## Their readers -/

theorem Rejection.reads : (Declared.record fields).Reads Rejection.ofJson? := by
  refine .record (l := ["code", "message"]) rfl (by decide) (fun j => ?_)
    (.bind reads_uint32.required fun code => .bind reads_text.required fun message =>
      .pure ⟨code, message⟩)
  rw [Rejection.ofJson?, fields?_eq (by decide)]
  cases slots? ["code", "message"] j <;> rfl

theorem SchemaField.reads : (Declared.record fields).Reads SchemaField.ofJson? := by
  refine .record (l := ["name", "type"]) rfl (by decide) (fun j => ?_)
    (.bind reads_text.required fun name => .bind reads_text.required fun type => .pure ⟨name, type⟩)
  rw [SchemaField.ofJson?, fields?_eq (by decide)]
  cases slots? ["name", "type"] j <;> rfl

theorem Progress.reads : (Declared.record fields).Reads Progress.ofJson? := by
  have hzero : uint64? (.ofNat 0) = some 0 := uint64?_eq_some_iff.2 rfl
  refine .record (l := ["rows", "bytes"]) rfl (by decide) (fun j => ?_)
    (.bind (reads_uint64.withDefault hzero) fun rows =>
      .bind (reads_uint64.withDefault hzero) fun bytes => .pure ⟨rows, bytes⟩)
  rw [Progress.ofJson?, fields?_eq (by decide)]
  cases slots? ["rows", "bytes"] j <;> rfl

theorem QueryStats.reads : (Declared.record fields).Reads QueryStats.ofJson? := by
  have hzero : float? (.ofNat 0) = some (Binary64.zero false) := by decide +kernel
  have hempty : Progress.ofJson? (.object []) = some {} := rfl
  refine .record
    (l := ["running_time_ms", "scan_progress", "write_progress", "result_progress"]) rfl (by decide)
    (fun j => ?_)
    (.bind (reads_float.withDefault hzero) fun time =>
      .bind (Progress.reads.withDefault hempty) fun scan =>
      .bind (Progress.reads.withDefault hempty) fun write =>
      .bind (Progress.reads.withDefault hempty) fun result => .pure ⟨time, scan, write, result⟩)
  rw [QueryStats.ofJson?, fields?_eq (by decide)]
  cases slots? ["running_time_ms", "scan_progress", "write_progress", "result_progress"] j <;> rfl

theorem SessionState.reads : (Declared.record fields).Reads SessionState.ofJson? := by
  refine .record (l := ["database", "settings"]) rfl (by decide) (fun j => ?_)
    (.bind reads_text.optional fun database => .bind reads_settings.optional fun settings =>
      .pure ⟨database, settings⟩)
  rw [SessionState.ofJson?, fields?_eq (by decide)]
  cases slots? ["database", "settings"] j <;> rfl

theorem QueryPage.reads : (Declared.record fields).Reads QueryPage.ofJson? := by
  have hempty : text? (.ofString "") = some "" := rfl
  have hschema : listOf? SchemaField.ofJson? (.array []) = some [] := rfl
  have hdata : listOf? (listOf? (orNull? text?)) (.array []) = some [] := rfl
  have hstats : QueryStats.ofJson? (.object []) = some {} := rfl
  refine .record
    (l := ["id", "session", "schema", "data", "state", "error", "stats", "next_uri", "final_uri",
      "kill_uri"]) rfl (by decide) (fun j => ?_)
    (.bind reads_text.required fun id => .bind SessionState.reads.optional fun session =>
      .bind (SchemaField.reads.listOf.withDefault hschema) fun schema =>
      .bind (reads_text.orNull.listOf.listOf.withDefault hdata) fun data =>
      .bind (reads_text.withDefault hempty) fun state => .bind Rejection.reads.optional fun error =>
      .bind (QueryStats.reads.withDefault hstats) fun stats =>
      .bind reads_text.optional fun nextUri => .bind reads_text.optional fun finalUri =>
      .bind reads_text.optional fun killUri =>
      .pure ⟨id, session, schema, data, state, error, stats, nextUri, finalUri, killUri⟩)
  rw [QueryPage.ofJson?, fields?_eq (by decide)]
  cases slots? _ j <;> rfl

theorem LoadReceipt.reads : (Declared.record fields).Reads LoadReceipt.ofJson? := by
  have hempty : text? (.ofString "") = some "" := rfl
  have hstats : Progress.ofJson? (.object []) = some {} := rfl
  refine .record (l := ["id", "state", "stats", "error"]) rfl (by decide) (fun j => ?_)
    (.bind (reads_text.withDefault hempty) fun id =>
      .bind (reads_text.withDefault hempty) fun state =>
      .bind (Progress.reads.withDefault hstats) fun stats =>
      .bind Rejection.reads.optional fun error => .pure ⟨id, state, stats, error⟩)
  rw [LoadReceipt.ofJson?, fields?_eq (by decide)]
  cases slots? ["id", "state", "stats", "error"] j <;> rfl

theorem Rejection.body_reads : (Declared.record bodyFields).Reads Rejection.ofBody? := by
  refine .record (l := ["error"]) rfl (by decide) (fun j => ?_)
    (.bind Rejection.reads.required fun error => .pure error)
  rw [Rejection.ofBody?, fields?_eq (by decide)]
  cases slots? ["error"] j with
  | none => rfl
  | some s => exact (Option.bind_fun_some _).symm

/-! ## Defaults -/

structure Progress.Fills (p : Progress) (s : String → Option Json) : Prop where
  rows : s "rows" = none → p.rows = 0
  bytes : s "bytes" = none → p.bytes = 0

structure QueryStats.Fills (q : QueryStats) (s : String → Option Json) : Prop where
  runningTime : s "running_time_ms" = none → q.runningTime = Binary64.zero false
  scan : s "scan_progress" = none → q.scan = {}
  write : s "write_progress" = none → q.write = {}
  result : s "result_progress" = none → q.result = {}

structure SessionState.Fills (state : SessionState) (s : String → Option Json) : Prop where
  database : s "database" = none → state.database = none
  settings : s "settings" = none → state.settings = none

structure QueryPage.Fills (p : QueryPage) (s : String → Option Json) : Prop where
  session : s "session" = none → p.session = none
  schema : s "schema" = none → p.schema = []
  data : s "data" = none → p.data = []
  state : s "state" = none → p.state = ""
  error : s "error" = none → p.error = none
  stats : s "stats" = none → p.stats = {}
  nextUri : s "next_uri" = none → p.nextUri = none
  finalUri : s "final_uri" = none → p.finalUri = none
  killUri : s "kill_uri" = none → p.killUri = none

structure LoadReceipt.Fills (r : LoadReceipt) (s : String → Option Json) : Prop where
  id : s "id" = none → r.id = ""
  state : s "state" = none → r.state = ""
  stats : s "stats" = none → r.stats = {}
  error : s "error" = none → r.error = none

section Defaults

variable {j : Json} {s : String → Option Json}

theorem Json.eq_default {α : Type} {default a : α} {value? : Decoder α} {slot : Option Json}
    (h : withDefault? default value? slot = some a) (hs : slot = none) : a = default := by
  subst hs
  exact (Option.some.inj h).symm

theorem Progress.fills {p : Progress} (hs : slots? (names fields) j = some s)
    (h : Progress.ofJson? j = some p) : p.Fills s := by
  replace hs : slots? ["rows", "bytes"] j = some s := hs
  rw [Progress.ofJson?, fields?_eq (by decide), hs] at h
  obtain ⟨rows, hrows, h⟩ := Option.bind_eq_some_iff.1 h
  obtain ⟨bytes, hbytes, h⟩ := Option.bind_eq_some_iff.1 h
  obtain rfl := Option.some.inj h
  exact ⟨eq_default hrows, eq_default hbytes⟩

theorem QueryStats.fills {q : QueryStats} (hs : slots? (names fields) j = some s)
    (h : QueryStats.ofJson? j = some q) : q.Fills s := by
  replace hs : slots? ["running_time_ms", "scan_progress", "write_progress", "result_progress"] j
    = some s := hs
  rw [QueryStats.ofJson?, fields?_eq (by decide), hs] at h
  obtain ⟨time, htime, h⟩ := Option.bind_eq_some_iff.1 h
  obtain ⟨scan, hscan, h⟩ := Option.bind_eq_some_iff.1 h
  obtain ⟨write, hwrite, h⟩ := Option.bind_eq_some_iff.1 h
  obtain ⟨result, hresult, h⟩ := Option.bind_eq_some_iff.1 h
  obtain rfl := Option.some.inj h
  exact ⟨eq_default htime, eq_default hscan, eq_default hwrite, eq_default hresult⟩

theorem SessionState.fills {state : SessionState} (hs : slots? (names fields) j = some s)
    (h : SessionState.ofJson? j = some state) : state.Fills s := by
  replace hs : slots? ["database", "settings"] j = some s := hs
  rw [SessionState.ofJson?, fields?_eq (by decide), hs] at h
  obtain ⟨database, hdatabase, h⟩ := Option.bind_eq_some_iff.1 h
  obtain ⟨settings, hsettings, h⟩ := Option.bind_eq_some_iff.1 h
  obtain rfl := Option.some.inj h
  exact ⟨eq_default hdatabase, eq_default hsettings⟩

theorem QueryPage.fills {p : QueryPage} (hs : slots? (names fields) j = some s)
    (h : QueryPage.ofJson? j = some p) : p.Fills s := by
  replace hs : slots? ["id", "session", "schema", "data", "state", "error", "stats", "next_uri",
    "final_uri", "kill_uri"] j = some s := hs
  rw [QueryPage.ofJson?, fields?_eq (by decide), hs] at h
  obtain ⟨id, -, h⟩ := Option.bind_eq_some_iff.1 h
  obtain ⟨session, hsession, h⟩ := Option.bind_eq_some_iff.1 h
  obtain ⟨schema, hschema, h⟩ := Option.bind_eq_some_iff.1 h
  obtain ⟨data, hdata, h⟩ := Option.bind_eq_some_iff.1 h
  obtain ⟨state, hstate, h⟩ := Option.bind_eq_some_iff.1 h
  obtain ⟨error, herror, h⟩ := Option.bind_eq_some_iff.1 h
  obtain ⟨stats, hstats, h⟩ := Option.bind_eq_some_iff.1 h
  obtain ⟨nextUri, hnext, h⟩ := Option.bind_eq_some_iff.1 h
  obtain ⟨finalUri, hfinal, h⟩ := Option.bind_eq_some_iff.1 h
  obtain ⟨killUri, hkill, h⟩ := Option.bind_eq_some_iff.1 h
  obtain rfl := Option.some.inj h
  exact ⟨eq_default hsession, eq_default hschema, eq_default hdata, eq_default hstate,
    eq_default herror, eq_default hstats, eq_default hnext, eq_default hfinal, eq_default hkill⟩

theorem LoadReceipt.fills {r : LoadReceipt} (hs : slots? (names fields) j = some s)
    (h : LoadReceipt.ofJson? j = some r) : r.Fills s := by
  replace hs : slots? ["id", "state", "stats", "error"] j = some s := hs
  rw [LoadReceipt.ofJson?, fields?_eq (by decide), hs] at h
  obtain ⟨id, hid, h⟩ := Option.bind_eq_some_iff.1 h
  obtain ⟨state, hstate, h⟩ := Option.bind_eq_some_iff.1 h
  obtain ⟨stats, hstats, h⟩ := Option.bind_eq_some_iff.1 h
  obtain ⟨error, herror, h⟩ := Option.bind_eq_some_iff.1 h
  obtain rfl := Option.some.inj h
  exact ⟨eq_default hid, eq_default hstate, eq_default hstats, eq_default herror⟩

end Defaults

/-! ## Bodies -/

/-- Whether bodies are read as values of a type, in every layout and unless they are flawed. -/
structure AnswersIn {α : Type} (type : Declared) (read : List UInt8 → Result α) : Prop where
  same : ∀ {b b' : List UInt8} {j j' : Json}, Json.ofBytes? b = some j →
    Json.ofBytes? b' = some j' → EqvGen (Relayout type) j j' → read b = read b'
  refused_iff : ∀ {b : List UInt8} {j : Json}, Json.ofBytes? b = some j →
    (read b = .error (.transport .invalidEnvelope) ↔ Flawed type j)

theorem Json.Declared.Reads.eqvGen {α : Type} {type : Declared} {d : Decoder α} (h : type.Reads d)
    {j j' : Json} (hj : EqvGen (Relayout type) j j') : d j = d j' := by
  induction hj with
  | rel _ _ hr => exact h.same hr
  | refl => rfl
  | symm _ _ _ ih => exact ih.symm
  | trans _ _ _ _ _ ih ih' => exact ih.trans ih'

theorem Json.Declared.Reads.answersIn {α : Type} {type : Declared} {d : Decoder α}
    (h : type.Reads d) : AnswersIn type (envelope d) where
  same hb hb' hj := by
    rw [envelope, envelope, hb, hb', Option.bind_some, Option.bind_some, h.eqvGen hj]
  refused_iff {b j} hb := by
    rw [envelope, hb, Option.bind_some, ← h.none_iff]
    cases d j <;> simp

/-- An answer is read in every layout of its body, and refused exactly when the body is flawed. What
is absent has its default. A null is a flaw where it is not declared, and so is a number beyond the
bound of its type. -/
theorem answersIn_fields :
    (AnswersIn (.record QueryPage.fields) QueryPage.ofBytes
      ∧ AnswersIn (.record LoadReceipt.fields) LoadReceipt.ofBytes
      ∧ AnswersIn (.record Rejection.bodyFields) Rejection.ofBytes)
    ∧ ((∀ {j s p}, slots? (names QueryPage.fields) j = some s → QueryPage.ofJson? j = some p →
          p.Fills s)
      ∧ (∀ {j s r}, slots? (names LoadReceipt.fields) j = some s → LoadReceipt.ofJson? j = some r →
          r.Fills s)
      ∧ (∀ {j s q}, slots? (names QueryStats.fields) j = some s → QueryStats.ofJson? j = some q →
          q.Fills s)
      ∧ (∀ {j s p}, slots? (names Progress.fields) j = some s → Progress.ofJson? j = some p →
          p.Fills s)
      ∧ ∀ {j s state}, slots? (names SessionState.fields) j = some s →
          SessionState.ofJson? j = some state → state.Fills s)
    ∧ (∀ {type}, (∀ t, type ≠ .nullable t) → Flawed type .null)
    ∧ ∀ {max n}, max < n → Flawed (.natural max) (.ofNat n) :=
  ⟨⟨QueryPage.reads.answersIn, LoadReceipt.reads.answersIn, Rejection.body_reads.answersIn⟩,
    ⟨QueryPage.fills, LoadReceipt.fills, QueryStats.fills, Progress.fills, SessionState.fills⟩,
    flawed_null, flawed_ofNat⟩

/-- An identifier alone in an array is a page like the identifier among other members, and a page
without an identifier is none. -/
theorem answersIn_fields_identifier :
    let bytes (j : Json) := Utf8.encode j.text.toList
    QueryPage.ofBytes (bytes (.array [.ofString "q"]))
        = QueryPage.ofBytes (bytes (.object [(some "next_uri", .null), (some "kind", .bool true),
            (some "id", .ofString "q")]))
      ∧ QueryPage.ofBytes (bytes (.object [(some "id", .null)]))
        = .error (.transport .invalidEnvelope)
      ∧ ∀ p, QueryPage.ofJson? (.array [.ofString "q"]) = some p → p.nextUri = none := by
  obtain ⟨⟨hpage, -⟩, ⟨hfills, -⟩, hnull, -⟩ := answersIn_fields
  refine ⟨?_, ?_, fun p hp => ?_⟩
  · refine hpage.same (ofBytes?_text _) (ofBytes?_text _) ?_
    have harray : Relayout (.record QueryPage.fields) (.array [.ofString "q"])
      (.object [(some "id", .ofString "q")]) := .inOrder (by decide)
    have hother : Relayout (.record QueryPage.fields) (.object [(some "id", .ofString "q")])
      (.object [(some "kind", .bool true), (some "id", .ofString "q")]) := .unknown (by decide)
    have hlast : Relayout (.record QueryPage.fields)
      (.object [(some "kind", .bool true), (some "id", .ofString "q")])
      (.object [(some "next_uri", .null), (some "kind", .bool true), (some "id", .ofString "q")]) :=
      .spelled (f := .optional "next_uri" .text) (by simp [QueryPage.fields]) rfl
        (by simp [RecordField.optional, RecordField.defaulted])
    exact .trans _ _ _ (.rel _ _ harray) (.trans _ _ _ (.rel _ _ hother) (.rel _ _ hlast))
  · refine (hpage.refused_iff (ofBytes?_text _)).2 ?_
    exact .member (f := .required "id" .text) (by simp [QueryPage.fields]) List.mem_cons_self
      (hnull nofun)
  · exact (hfills (j := .array [.ofString "q"]) rfl hp).nextUri rfl

end QueryClient
