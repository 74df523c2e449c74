import QueryClient.Connection
import QueryClient.Proofs.Http.Names

/-!
# What a request carries

A request of a session leads where its link leads, joined to the endpoint, and names the warehouse of
the session (`request_of_ok`); only a field that the request itself adds can replace one of the
session (`get?_of_request`). When
it is sent, either it fails before it reaches the service, or what is read is the answer to it
(`send_cases`).
-/

namespace QueryClient

namespace Session

open Http

/-- The field that directs a request to a warehouse. -/
def warehouseHeader : String := "x-databend-warehouse"

/-- The answer that a session reads from what the network says. -/
def answerOf (o : Outcome) : Result Response :=
  o.result.mapError fun failure => .transport (.exchange failure)

section Request

variable {s : Session} {method : Method} {uri : String} {further : Headers} {body : Body}
  {timeout : Duration} {r : Request}

theorem get?_headers {h : Headers} (hh : s.headers = .ok h) : h.get? warehouseHeader = s.warehouse := by
  have hname : ∀ k ∈ ["user-agent", "authorization", "x-databend-query-id", "x-databend-tenant"],
      canonicalName k ≠ warehouseHeader := by decide
  have hself : canonicalName "x-databend-warehouse" = warehouseHeader := by decide
  simp only [List.forall_mem_cons] at hname
  obtain ⟨hagent, hauth, hid, htenant, -⟩ := hname
  rw [get?_insertHeaders hh, lastNamed_append, lastNamed_append]
  have hw : lastNamed warehouseHeader (optionalHeader "x-databend-warehouse" s.warehouse)
      = s.warehouse := by
    cases s.warehouse <;> simp [optionalHeader, lastNamed, hself]
  have ht : lastNamed warehouseHeader (optionalHeader "x-databend-tenant" s.tenant) = none := by
    cases s.tenant <;> simp [optionalHeader, lastNamed, htenant]
  simp [hw, ht, lastNamed, hagent, hauth, hid]

/-- Of the fields of a request, those that it adds itself replace those of the session. -/
theorem get?_of_request (h : s.request method uri further body timeout = .ok r) :
    ∃ own, s.headers = .ok own ∧ ∀ name, name ≠ "content-type" →
      r.headers.get? name = (further.get? name).or (own.get? name) := by
  unfold request at h
  split at h
  · cases h
  · obtain ⟨own, hown, h⟩ := exists_of_bind h
    obtain rfl := Except.ok.inj h
    refine ⟨own, hown, fun name hname => ?_⟩
    have hfold : (further.entries.foldl (fun h e => h.insert e.1 e.2) own).get? name
        = (further.get? name).or (own.get? name) :=
      SortedMap.get?_foldl_insert further.sorted own name
    cases body <;> simp [Body.mediaType?, hfold, hname]

theorem request_of_ok (h : s.request method uri further body timeout = .ok r) :
    s.endpoint.join uri = .ok r.url ∧ r.method = method ∧ r.body = body
      ∧ r.headers.get? warehouseHeader = (further.get? warehouseHeader).or s.warehouse := by
  obtain ⟨own, hown, hfields⟩ := get?_of_request h
  have hnamed := hfields warehouseHeader (by decide)
  rw [get?_headers hown] at hnamed
  unfold request at h
  split at h
  · cases h
  · next url hu =>
    obtain ⟨_, -, h⟩ := exists_of_bind h
    obtain rfl := Except.ok.inj h
    exact ⟨hu, rfl, rfl, hnamed⟩

end Request

theorem send_cases (s : Session) (r : Result Request) :
    (∃ nextId e, s.send r = ({ s with nextId }, .error e))
      ∨ ∃ request outcome rest waited, r = .ok request ∧ s.network.script = outcome :: rest
        ∧ s.send r =
          ({ s with
            network := { s.network with
              script := rest, sent := request :: s.network.sent, waited }
            nextId := s.nextId + 1 }, answerOf outcome) := by
  cases r with
  | error e => exact .inl ⟨s.nextId, e, rfl⟩
  | ok r =>
    rcases s.network.send_cases r with ⟨failure, h⟩ | ⟨outcome, rest, waited, hs, h⟩
    · exact .inl ⟨s.nextId + 1, _, by simp only [send, h]; rfl⟩
    · exact .inr ⟨r, outcome, rest, waited, rfl, hs, by simp only [send, h]; rfl⟩

end Session

end QueryClient
