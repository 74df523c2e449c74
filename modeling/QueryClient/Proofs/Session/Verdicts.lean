import QueryClient.Proofs.Session.Asks

/-!
# What comes of a request

A request that the service did not answer fails in transport, by a broken connection or by a timeout.
An answer can break off, be no envelope, reject what was asked for, or grant it. `Ask.Verdict` says
which error each of them makes, and asking for something comes to that and to nothing else
(`Ask.verdict_iff`). So an error with a code is the word of the service, and an error after which one
may try again is not (`Ask.code?_run`, `Ask.isRetryable_run`).
-/

namespace QueryClient

open Http Text

namespace Http

variable {r : Response}

theorem Response.read_cases (r : Response) :
    (∃ body, r.read = .ok body) ∨ r.read = .error .cutShort := by
  unfold Response.read
  split
  · exact .inl ⟨[], rfl⟩
  · cases r.body with
    | none => exact .inr rfl
    | some body => exact .inl ⟨body, rfl⟩

theorem Network.send_snd_cases (n : Network) (r : Request) :
    (∃ failure, (n.send r).2 = .error failure
        ∧ (failure.kind = .connectFailed ∨ failure.kind = .timeout))
      ∨ ∃ answer, (n.send r).2 = .ok answer ∧ isFinal answer.status = true := by
  unfold Network.send
  split
  · exact .inl ⟨_, rfl, .inl rfl⟩
  · split
    · exact .inl ⟨_, rfl, .inl rfl⟩
    · split
      · exact .inl ⟨_, rfl, .inl rfl⟩
      · next outcome rest _ =>
        cases outcome with
        | answer a =>
          dsimp only
          split
          · next ha => exact .inr ⟨a, rfl, ha⟩
          · exact .inl ⟨_, rfl, .inl rfl⟩
        | close => exact .inl ⟨_, rfl, .inl rfl⟩
        | silence => exact .inl ⟨_, rfl, .inr rfl⟩

theorem toNat_ofNat_of_isFinal {status : Nat} (h : isFinal status = true) :
    (UInt32.ofNat status).toNat = status := by
  simp only [isFinal, Bool.or_eq_true, Bool.and_eq_true, decide_eq_true_eq] at h
  exact UInt32.toNat_ofNat_of_lt' (show status < 2 ^ 32 by omega)

end Http

/-- A body as a text, without the blanks around it. -/
def bodyText (body : List UInt8) : String :=
  String.ofList (trim (Utf8.decodeLossy body))

namespace Ask

open Session

/-- Whether an answer rejects what was asked for, and in which words. An answer that is no success
has an error in its body, or else it is its status that counts, with the text of the body if there is
one. A success has an error in its envelope. -/
inductive Rejects (a : Ask) (r : Response) : UInt32 → String → Prop
  | explained {body : List UInt8} {x : Rejection} (hs : isSuccess r.status = false)
    (hr : r.read = .ok body) (hx : Rejection.ofBytes body = .ok x) : Rejects a r x.code x.message
  | worded {body : List UInt8} {code : UInt32} (hs : isSuccess r.status = false)
    (hr : r.read = .ok body) (hx : ∀ x, Rejection.ofBytes body ≠ .ok x)
    (hcode : code.toNat = r.status) (htext : bodyText body ≠ "") : Rejects a r code (bodyText body)
  | blank {body : List UInt8} {code : UInt32} (hs : isSuccess r.status = false)
    (hr : r.read = .ok body) (hx : ∀ x, Rejection.ofBytes body ≠ .ok x)
    (hcode : code.toNat = r.status) (htext : bodyText body = "") :
    Rejects a r code ((reason? r.status).getD "request failed")
  | enclosed {body : List UInt8} {x : Rejection} {read : List UInt8 → Result (Option Rejection)}
    (hs : isSuccess r.status = true) (ha : a.rejectionIn = some read) (hr : r.read = .ok body)
    (hx : read body = .ok (some x)) : Rejects a r x.code x.message

/-- The error that is to come of a request, if there is to be one. -/
inductive Verdict (a : Ask) : Except ExchangeFailure Response → Option Error → Prop
  | unconnected {failure : ExchangeFailure} (h : failure.kind = .connectFailed) :
    Verdict a (.error failure) (some (.transport (.exchange failure)))
  | expired {failure : ExchangeFailure} (h : failure.kind = .timeout) :
    Verdict a (.error failure) (some (.transport (.exchange failure)))
  -- the body of a success is not read where no envelope is needed
  | cutShort {r : Response} (ha : isSuccess r.status = true → a.rejectionIn.isSome)
    (hr : r.read = .error .cutShort) : Verdict a (.ok r) (some (.transport (.exchange .cutShort)))
  | rejected {r : Response} {code : UInt32} {message : String} (h : Rejects a r code message) :
    Verdict a (.ok r) (some (.remote code message))
  | noEnvelope {r : Response} {body : List UInt8} {read : List UInt8 → Result (Option Rejection)}
    (hs : isSuccess r.status = true) (ha : a.rejectionIn = some read) (hr : r.read = .ok body)
    (hx : ∀ x, read body ≠ .ok x) : Verdict a (.ok r) (some (.transport .invalidEnvelope))
  | granted {r : Response} {body : List UInt8} {read : List UInt8 → Result (Option Rejection)}
    (hs : isSuccess r.status = true) (ha : a.rejectionIn = some read) (hr : r.read = .ok body)
    (hx : read body = .ok none) : Verdict a (.ok r) none
  | done {r : Response} (hs : isSuccess r.status = true) (ha : a.rejectionIn = none) :
    Verdict a (.ok r) none

section Verdict

variable {s : Session} {a : Ask} {r : Response}

theorem envelope_cases {α : Type} (ofJson? : Json.Decoder α) (body : List UInt8) :
    (∃ x, envelope ofJson? body = .ok x)
      ∨ envelope ofJson? body = .error (.transport .invalidEnvelope) := by
  unfold envelope
  split
  · exact .inl ⟨_, rfl⟩
  · exact .inr rfl

/-- A body that has no envelope is always told by the same error. -/
theorem rejectionIn_cases {read : List UInt8 → Result (Option Rejection)}
    (ha : a.rejectionIn = some read) (body : List UInt8) :
    (∃ x, read body = .ok x) ∨ read body = .error (.transport .invalidEnvelope) := by
  cases a with
  | statement _ | page _ =>
    obtain rfl := Option.some.inj ha
    rcases envelope_cases QueryPage.ofJson? body with ⟨x, h⟩ | h
    · exact .inl ⟨x.error, by simp only [QueryPage.ofBytes, h]; rfl⟩
    · exact .inr (by simp only [QueryPage.ofBytes, h]; rfl)
  | load _ =>
    obtain rfl := Option.some.inj ha
    rcases envelope_cases LoadReceipt.ofJson? body with ⟨x, h⟩ | h
    · exact .inl ⟨x.error, by simp only [LoadReceipt.ofBytes, h]; rfl⟩
    · exact .inr (by simp only [LoadReceipt.ofBytes, h]; rfl)
  | kill _ => cases ha

/-! ## Reading answers -/

theorem failureText_eq (status : Nat) (body : List UInt8) :
    failureText status body
      = if bodyText body = "" then (reason? status).getD "request failed" else bodyText body := by
  unfold failureText bodyText
  split
  · next h => rw [if_pos h]
  · next h => rw [if_neg h]

theorem verdict_of_failure (hs : isSuccess r.status = false) (hf : isFinal r.status = true) :
    Verdict a (.ok r) (some (remoteError r)) := by
  have hcode := toNat_ofNat_of_isFinal hf
  unfold remoteError readBody
  rcases r.read_cases with ⟨body, hr⟩ | hr
  · simp only [hr, mapError_ok, failureText_eq]
    cases hx : Rejection.ofBytes body with
    | ok x => exact .rejected (.explained hs hr hx)
    | error e =>
      have hnone : ∀ x, Rejection.ofBytes body ≠ .ok x := by simp [hx]
      refine .rejected ?_
      split
      · next htext => exact .blank hs hr hnone hcode htext
      · next htext => exact .worded hs hr hnone hcode htext
  · simp only [hr, mapError_error]
    exact .cutShort (by simp [hs]) hr

theorem verdict_of_success (hs : isSuccess r.status = true) :
    Verdict a (.ok r) (a.rejectionIn.bind (refusal · r)) := by
  cases ha : a.rejectionIn with
  | none => exact .done hs ha
  | some read =>
    simp only [Option.bind_some, refusal, readBody]
    rcases r.read_cases with ⟨body, hr⟩ | hr
    · simp only [hr, mapError_ok, Except.bind]
      rcases rejectionIn_cases ha body with ⟨x, hx⟩ | hx
      · cases x with
        | none => simpa only [hx] using .granted hs ha hr hx
        | some x => simpa only [hx] using .rejected (.enclosed hs ha hr hx)
      · rw [hx]
        exact .noEnvelope hs ha hr (by simp [hx])
    · simp only [hr, mapError_error, Except.bind]
      exact .cutShort (by simp [ha]) hr

theorem verdict_judge (n : Network) (r : Request) : Verdict a (n.send r).2 (a.judge (n.send r).2) := by
  rcases n.send_snd_cases r with ⟨failure, h, hk | hk⟩ | ⟨answer, h, hf⟩
  · rw [h]
    exact .unconnected hk
  · rw [h]
    exact .expired hk
  · rw [h, judge]
    split
    · next hs => exact verdict_of_success hs
    · next hs => exact verdict_of_failure (by simpa using hs) hf

/-! ## One verdict for each answer -/

theorem Rejects.judge_eq {code : UInt32} {message : String} (h : Rejects a r code message) :
    a.judge (.ok r) = some (.remote code message) := by
  have hstatus {code : UInt32} (h : code.toNat = r.status) : UInt32.ofNat r.status = code := by
    rw [← h, UInt32.ofNat_toNat]
  have hnone {body : List UInt8} (h : ∀ x, Rejection.ofBytes body ≠ .ok x) :
      ∃ e, Rejection.ofBytes body = .error e := by
    cases hx : Rejection.ofBytes body with
    | ok x => exact absurd hx (h x)
    | error e => exact ⟨e, rfl⟩
  cases h with
  | explained hs hr hx => simp [judge, hs, remoteError, readBody, hr, hx, Rejection.toError]
  | worded hs hr hx hcode htext =>
    obtain ⟨e, he⟩ := hnone hx
    simp [judge, hs, remoteError, readBody, hr, he, hstatus hcode, failureText_eq, htext]
  | blank hs hr hx hcode htext =>
    obtain ⟨e, he⟩ := hnone hx
    simp [judge, hs, remoteError, readBody, hr, he, hstatus hcode, failureText_eq, htext]
  | enclosed hs ha hr hx =>
    simp [judge, hs, ha, refusal, readBody, hr, Except.bind, hx, Rejection.toError]

theorem Verdict.judge_eq {x : Except ExchangeFailure Response} {e : Option Error}
    (h : Verdict a x e) : a.judge x = e := by
  cases h with
  | unconnected _ | expired _ => rfl
  | rejected h => exact h.judge_eq
  | @cutShort r ha hr =>
    by_cases hs : isSuccess r.status = true
    · obtain ⟨read, hread⟩ := Option.isSome_iff_exists.1 (ha hs)
      simp [judge, hs, hread, refusal, readBody, hr, Except.bind]
    · simp [judge, hs, remoteError, readBody, hr]
  | @noEnvelope r body read hs ha hr hx =>
    have hbody := (rejectionIn_cases ha body).resolve_left (not_exists.2 hx)
    simp [judge, hs, ha, refusal, readBody, hr, Except.bind, hbody]
  | granted hs ha hr hx => simp [judge, hs, ha, refusal, readBody, hr, Except.bind, hx]
  | done hs ha => simp [judge, hs, ha]

theorem verdict_iff {r : Request} (h : a.request s = .ok r) (e : Option Error) :
    Verdict a (s.network.send r).2 e ↔ (a.run s).2 = e := by
  rw [run_of_request h]
  exact ⟨Verdict.judge_eq, fun he => he ▸ verdict_judge s.network r⟩

end Verdict

end Ask

end QueryClient
