import QueryClient.Proofs.Config.Options
import QueryClient.Proofs.Json.Fields
import QueryClient.Proofs.Json.RoundTrip
import QueryClient.Proofs.Session.Chain

/-!
# The body of a statement

A body is read as an object with a member for each part of its statement (`Statement.Says`): the
text as it is, a session only when there is one and then the same session
(`SessionState.ofJson?_toJson`), and a pagination only when a knob is set, with the knobs that are.
The requests that start statements have such bodies.
-/

namespace QueryClient

open Http Json Text

/-! ## Parts of a body -/

theorem SortedMap.ofList_entries {α : Type} (m : SortedMap α) : SortedMap.ofList m.entries = m :=
  foldl_insert_entries m

theorem settingsOfJson?_toJson (m : SortedMap String) : settingsOfJson? m.toJson = some m := by
  have htexts : textMap? m.toJson = some m.entries := textMap?_eq_some_iff.2 rfl
  rw [settingsOfJson?, htexts, Option.map_some, SortedMap.ofList_entries]

/-- A state that is sent is read as the same state. -/
theorem SessionState.ofJson?_toJson (s : SessionState) :
    SessionState.ofJson? s.toJson = some s := by
  obtain ⟨database, settings⟩ := s
  have hsettings : ∀ m, orNull? settingsOfJson? (SortedMap.toJson m) = some (some m) := fun m =>
    congrArg (Option.map some) (settingsOfJson?_toJson m)
  have hdatabase : ∀ d, orNull? text? (Json.ofString d) = some (some d) := fun _ => rfl
  cases database <;> cases settings <;>
    simp [SessionState.ofJson?, SessionState.toJson, Json.member, fields?, occurrences, member?,
      optional?, withDefault?, hdatabase, hsettings]

namespace Pagination

/-- The knobs that are set, with their names in a body. -/
def setKnobs (p : Pagination) : List (String × UInt64) :=
  [("wait_time_secs", p.waitSeconds), ("max_rows_in_buffer", p.bufferRows),
    ("max_rows_per_page", p.pageRows)].filterMap fun k => k.2.map (k.1, ·)

theorem toJson_eq (p : Pagination) :
    p.toJson = .object (p.setKnobs.map fun k => (some k.1, Json.ofNat k.2.toNat)) := by
  obtain ⟨wait, buffer, page⟩ := p
  cases wait <;> cases buffer <;> cases page <;> rfl

end Pagination

/-- Counts by their names. -/
def Json.counts? : Decoder (List (String × UInt64))
  | .object members => members.mapM fun m => do return (← m.1, ← uint64? m.2)
  | _ => none

theorem Pagination.counts?_toJson (p : Pagination) : counts? p.toJson = some p.setKnobs := by
  rw [toJson_eq, counts?]
  refine (mapM_eq_some_iff fun m k => ?_).2 rfl
  obtain ⟨name, v⟩ := m
  obtain ⟨knob, n⟩ := k
  simp [Option.bind_eq_some_iff, uint64?_eq_some_iff]

/-! ## Bodies -/

/-- What the members of a body say of a statement. -/
structure Statement.Says (s : Statement) (members : List (Option String × Json)) : Prop where
  named : ∀ m ∈ members, m.1 ∈ [some "session", some "sql", some "pagination"]
  once : (members.map (·.1)).Nodup
  sql : (member? "sql" members).bind text? = some s.sql
  session : (member? "session" members).map SessionState.ofJson? = s.session.map some
  unpaged : member? "pagination" members = none
    ↔ s.pagination.waitSeconds = none ∧ s.pagination.bufferRows = none
      ∧ s.pagination.pageRows = none
  paged : ∀ j, member? "pagination" members = some j → counts? j = some s.pagination.setKnobs

section Member

variable {α : Type} {name other : String} {toJson : α → Json} {value : Option α}

theorem member?_member :
    member? name (Json.member other toJson value)
      = if other = name then value.map toJson else none := by
  cases value <;> by_cases h : other = name <;> simp [Json.member, member?, h]

theorem sublist_name (name : String) (toJson : α → Json) (value : Option α) :
    ((Json.member name toJson value).map (·.1)).Sublist [some name] := by
  cases value <;> simp [Json.member]

end Member

theorem Pagination.isEmpty_iff (p : Pagination) :
    p.isEmpty = true ↔ p.waitSeconds = none ∧ p.bufferRows = none ∧ p.pageRows = none := by
  simp [isEmpty, and_assoc]

namespace Statement

variable (s : Statement)

/-- The members of a body. -/
def members : List (Option String × Json) :=
  Json.member "session" SessionState.toJson s.session
    ++ (Json.member "sql" Json.ofString (some s.sql)
      ++ Json.member "pagination" Pagination.toJson
        (if s.pagination.isEmpty then none else some s.pagination))

theorem toJson_eq : s.toJson = .object s.members := by
  simp [toJson, members, Json.member]

theorem member?_sql : member? "sql" s.members = some (Json.ofString s.sql) := by
  simp [members, member?_append, member?_member]

theorem member?_session : member? "session" s.members = s.session.map SessionState.toJson := by
  simp [members, member?_append, member?_member]

theorem member?_pagination :
    member? "pagination" s.members
      = if s.pagination.isEmpty then none else some s.pagination.toJson := by
  simp only [members, member?_append, member?_member, String.reduceEq, if_false, if_true,
    Option.none_or]
  split <;> rfl

theorem sublist_names :
    (s.members.map (·.1)).Sublist [some "session", some "sql", some "pagination"] := by
  rw [members, List.map_append, List.map_append]
  exact (sublist_name ..).append ((sublist_name ..).append (sublist_name ..))

theorem says_members : s.Says s.members where
  named m hm := s.sublist_names.subset (List.mem_map_of_mem hm)
  once := s.sublist_names.nodup (by decide)
  sql := by
    rw [member?_sql]
    rfl
  session := by
    rw [member?_session, Option.map_map]
    exact congrArg (Option.map · s.session) (funext SessionState.ofJson?_toJson)
  unpaged := by
    rw [member?_pagination, ← Pagination.isEmpty_iff]
    simp
  paged j hj := by
    rw [member?_pagination] at hj
    split at hj
    · cases hj
    · rw [← Option.some.inj hj, Pagination.counts?_toJson]

end Statement

theorem Session.sent_startQuery (s : Session) (sql : String) :
    let sent := (s.startQuery sql).1.network.sent
    sent = s.network.sent ∨ ∃ r, sent = r :: s.network.sent ∧ r.method = .post
      ∧ r.body = .json (s.statement sql).body := by
  rcases s.asks_startQuery sql with ⟨hm, -⟩ | ⟨t, hm, ht, -⟩
  · exact .inl hm.sent
  · refine .inr ⟨t.request, hm.sent, congrArg (·.1) ht, congrArg (·.2.2) ht⟩

/-- A body is a single object that says what its statement is, in characters and in bytes. The only
request that starts a statement has the body of the session's state, the text and the pagination. -/
theorem Statement.says_of_body :
    (∀ s : Statement, ∃ members, Json.ofText? s.body = some (.object members)
      ∧ Json.ofBytes? (Utf8.encode s.body.toList) = some (.object members) ∧ s.Says members)
    ∧ ∀ (session : Session) (sql : String),
      let sent := (session.startQuery sql).1.network.sent
      sent = session.network.sent ∨ ∃ r, sent = r :: session.network.sent ∧ r.method = .post
        ∧ r.body = .json ({ session := some session.state, sql
                            pagination := session.pagination } : Statement).body := by
  refine ⟨fun s => ⟨s.members, ?_, ?_, s.says_members⟩, Session.sent_startQuery⟩
  · rw [Statement.body, ofText?_text, toJson_eq]
  · rw [Statement.body, ofBytes?_text, toJson_eq]

end QueryClient
