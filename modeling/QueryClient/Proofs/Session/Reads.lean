import QueryClient.Proofs.Session.Execution

/-!
# The pages that were read so far

A reader that stops early has read some pages of its statement and has the last of them in hand.
`Session.Reads` is that: one request for each page, in the order of the links. What such a reader came
to does not depend on the answers that are still in the script (`exists_made_of_reads`). `Quiet` pages
have nothing to hand out, neither a row nor a failure.
-/

namespace QueryClient

open Http Reading

/-! ## Pages with nothing to hand out -/

/-- Whether pages read as nothing, from the first one on. -/
def Quiet (pages : List QueryPage) : Prop :=
  readPages [] 0 (pages.map .ok) = {}

namespace Reading

theorem andThen_eq_empty_iff {a b : Reading} : a.andThen b = {} ↔ a = {} ∧ b = {} := by
  cases a with
  | mk rows error =>
    cases error with
    | none => cases b; simp [andThen]; tauto
    | some e => simp [andThen]

theorem readPages_append_eq_empty_iff {earlier pages : List QueryPage} {n : Nat}
    {later : List (Result QueryPage)} :
    readPages earlier n (pages.map .ok ++ later) = {} ↔
      readPages earlier n (pages.map .ok) = {} ∧ readPages (earlier ++ pages) n later = {} := by
  induction pages generalizing earlier n with
  | nil => simp [readPages]
  | cons page pages ih =>
    simp only [List.map_cons, List.cons_append, readPages, andThen_eq_empty_iff, and_assoc]
    refine and_congr_right fun hhere => ?_
    rw [hhere, ih, List.append_assoc]
    rfl

theorem readRows_eq_empty_iff {columns : List Column} {n : Nat} {rows : List RawRow} :
    readRows columns n rows = {} ↔ rows = [] := by
  cases rows with
  | nil => simp [readRows]
  | cons raw rest =>
    cases hr : readRow columns n raw <;> simp [readRows, hr, failed, cons]

end Reading

/-- A page behind quiet ones is quiet if the schema in force is supported and it has no rows. -/
theorem quiet_append_singleton_iff {pages : List QueryPage} {page : QueryPage}
    (he : page.error = none) :
    Quiet (pages ++ [page]) ↔ Quiet pages
      ∧ (∃ columns, (inForce (pages ++ [page])).mapM Column.ofField = .ok columns)
      ∧ page.data = [] := by
  unfold Quiet
  rw [List.map_append, readPages_append_eq_empty_iff]
  refine and_congr_right fun _ => ?_
  simp only [List.map_cons, List.map_nil, readPages, andThen_nil, readPage, he, List.nil_append]
  cases (inForce (pages ++ [page])).mapM Column.ofField with
  | ok columns => simp [readRows_eq_empty_iff]
  | error e => simp [failed]

/-! ## Answers that are still in the script -/

theorem Http.Network.send_of_ok {n n' : Network} {r : Request} {a : Response}
    (h : n.send r = (n', .ok a)) :
    ∃ o, n.script = o :: n'.script
      ∧ ∀ later, { n with script := o :: later }.send r = ({ n' with script := later }, .ok a) := by
  unfold send at h
  split at h
  · simp at h
  · next hscheme =>
    split at h
    · simp at h
    · next hserves =>
      split at h
      · simp at h
      · next o rest hs =>
        refine ⟨o, ?_⟩
        cases o with
        | close | silence => simp at h
        | answer b =>
          dsimp only at h
          split at h
          · next hfinal =>
            obtain ⟨rfl, hab⟩ := Prod.mk.inj h
            obtain rfl := Except.ok.inj hab
            refine ⟨hs, fun later => ?_⟩
            have hserves' : { n with script := .answer b :: later }.serves r.url = n.serves r.url :=
              rfl
            simp only [send, if_neg hscheme, hserves', if_neg hserves, if_pos hfinal]
          · simp at h

namespace Session

section Script

variable {s s' : Session} {r : Result Request} {page : QueryPage}

theorem send_of_ok {a : Response} (h : s.send r = (s', .ok a)) :
    ∃ o, s.network.script = o :: s'.network.script
      ∧ ∀ later, (s.withScript (o :: later)).send r = (s'.withScript later, .ok a) := by
  cases r with
  | error e => simp [send] at h
  | ok r =>
    rcases hn : s.network.send r with ⟨n, failure | b⟩
    · simp [send, hn, mapError_error] at h
    · obtain ⟨o, hs, hlater⟩ := Network.send_of_ok hn
      simp only [send, hn, mapError_ok, Prod.mk.injEq, Except.ok.injEq] at h
      obtain ⟨rfl, rfl⟩ := h
      refine ⟨o, hs, fun later => ?_⟩
      simp only [send, withScript, hlater later, mapError_ok]

theorem receivePage_of_ok (h : (s.send r).1.receivePage (s.send r).2 = (s', .ok page)) :
    ∃ o, s.network.script = o :: s'.network.script ∧ ∀ later,
      ((s.withScript (o :: later)).send r).1.receivePage ((s.withScript (o :: later)).send r).2
        = (s'.withScript later, .ok page) := by
  rcases ha : s.send r with ⟨s₁, e | a⟩
  · rw [ha] at h
    cases (congrArg Prod.snd h : (Except.error e : Result QueryPage) = .ok page)
  · obtain ⟨o, hs, hlater⟩ := send_of_ok ha
    rw [ha] at h
    unfold receivePage at h
    split at h
    · simp at h
    · next found hfound =>
      obtain ⟨rfl, hresult⟩ := Prod.mk.inj h
      refine ⟨o, by rw [hs, adopt_network], fun later => ?_⟩
      rw [hlater]
      simp only [receivePage, hfound, hresult, adopt_withScript]

end Script

/-! ## Reading page after page -/

/-- The session that read some pages of a statement and a last one. -/
inductive Reads (s : Session) (sql : String) : List QueryPage → QueryPage → Session → Prop
  | first {s' : Session} {page : QueryPage} (h : s.startQuery sql = (s', .ok page)) :
    Reads s sql [] page s'
  | next {s₁ s' : Session} {earlier : List QueryPage} {last page : QueryPage} {uri : String}
    (before : Reads s sql earlier last s₁) (hn : last.nextUri = some uri)
    (h : s₁.queryPage uri = (s', .ok page)) : Reads s sql (earlier ++ [last]) page s'

section Reads

variable {s s' : Session} {sql : String} {earlier : List QueryPage} {page : QueryPage}

theorem Reads.error (h : Reads s sql earlier page s') : page.error = none := by
  cases h with
  | first h => exact error_of_receivePage h
  | next _ _ h => exact error_of_receivePage h

/-- A page that is received took one round trip, which does not depend on the answers behind it. -/
theorem exists_roundTrip_of_ok {method : Method} {uri : String} {body : Body}
    (h : (s.send (s.request method uri {} body s.pageTimeout)).1.receivePage
      (s.send (s.request method uri {} body s.pageTimeout)).2 = (s', .ok page)) :
    ∃ t, Makes s s' [t] ∧ t.target = (method, s.endpoint.join uri, body) ∧ t.result = .ok page
      ∧ ∀ later,
        let a := (s.withScript (t.outcome :: later)).send (s.request method uri {} body s.pageTimeout)
        a.1.receivePage a.2 = (s'.withScript later, .ok page) := by
  obtain ⟨o, hs, hlater⟩ := receivePage_of_ok h
  have hasks := asks_receivePage s method uri body
  dsimp only at hasks
  rw [h] at hasks
  rcases hasks with ⟨-, e, he⟩ | ⟨t, hm, htarget, hresult⟩
  · cases he
  · obtain ⟨rfl, -⟩ := List.cons.inj (hm.script.symm.trans hs)
    exact ⟨t, hm, htarget, hresult, hlater⟩

/-- Reading so many pages made one request for each of them, which came to that page. With other
answers behind those, it comes to the same pages and the same session. -/
theorem exists_made_of_reads (h : Reads s sql earlier page s') :
    ∃ made, Makes s s' made
      ∧ made.map RoundTrip.target = s.statementTargets sql { session := s', pages := earlier }
      ∧ made.map RoundTrip.result = (earlier ++ [page]).map .ok
      ∧ ∀ later, Reads (s.withScript (made.map (·.outcome) ++ later)) sql earlier page
        (s'.withScript later) := by
  induction h with
  | first h =>
    obtain ⟨t, hm, ht, hr, hlater⟩ := exists_roundTrip_of_ok h
    refine ⟨[t], hm, ?_, ?_, fun later => .first (hlater later)⟩
    · rw [List.map_singleton, ht]
      rfl
    · rw [List.map_singleton, hr]
      rfl
  | @next s₁ s' earlier last page uri _ hn h ih =>
    obtain ⟨made, hmade, htargets, hresults, hearlier⟩ := ih
    obtain ⟨t, hm, ht, hr, hlater⟩ := exists_roundTrip_of_ok h
    refine ⟨made ++ [t], hmade.trans hm, ?_, ?_, fun later => ?_⟩
    · rw [List.map_append, htargets, List.map_singleton, ht, hmade.endpoint]
      simp [statementTargets, linkTarget, hn]
    · rw [List.map_append, hresults, List.map_singleton, hr]
      simp
    · rw [List.map_append, List.append_assoc]
      exact .next (hearlier _) hn (hlater later)

end Reads

end Session

end QueryClient
