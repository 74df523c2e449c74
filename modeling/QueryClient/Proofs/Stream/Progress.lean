import Mathlib.Data.List.Forall2
import QueryClient.Proofs.Stream.Delivery

/-!
# Rows with the progress of their query

Whoever reads the counters of the pages as well takes the same steps as a reader of rows, who goes
on where the other one stops: a poll for rows is some polls that come to counters and one that does
not (`run_of_poll`). So both readers come to the same rows, failures and ends, and ask the source
for the same (`readAll_rows`), and so they do after any number of polls (`exists_abreast`).
-/

namespace QueryClient

variable {σ : Type}

/-- The row of an item; counters have none. -/
def StreamItem.row? : StreamItem → Option Row
  | .row r => some r
  | .stats _ => none

namespace StreamEvent

/-- The item of an event, if it is one. -/
def item? {α : Type} : StreamEvent α → Option α
  | .item a => some a
  | .pending | .failure _ | .over => none

@[simp] theorem item?_ofResult_error {α : Type} (e : Error) :
    (ofResult (.error e) : StreamEvent α).item? = none := rfl

@[simp] theorem item?_ofResult_ok {α : Type} (a : α) : (ofResult (.ok a)).item? = some a := rfl

/-- Whether an event tells the counters of a page. -/
def isStats : StreamEvent StreamItem → Bool
  | .item (.stats _) => true
  | _ => false

@[simp] theorem isStats_stats (c : QueryStats) : (item (.stats c)).isStats = true := rfl

@[simp] theorem isStats_map_row (e : StreamEvent Row) : (e.map .row).isStats = false := by
  cases e <;> rfl

theorem exists_of_isStats {e : StreamEvent StreamItem} (h : e.isStats = true) :
    ∃ c, e = .item (.stats c) := by
  rcases e with _ | (r | c) | _ | _
  case item.stats => exact ⟨c, rfl⟩
  all_goals simp [isStats] at h

end StreamEvent

namespace RowStream

/-! ## Polls for rows as polls for items -/

/-- What polls came to, but for the counters of pages. -/
def withoutStats (events : List (StreamEvent StreamItem)) : List (StreamEvent StreamItem) :=
  events.filter (!·.isStats)

@[simp] theorem withoutStats_append (a b : List (StreamEvent StreamItem)) :
    withoutStats (a ++ b) = withoutStats a ++ withoutStats b :=
  List.filter_append ..

@[simp] theorem withoutStats_map_stats (told : List QueryStats) :
    withoutStats (told.map fun c => .item (.stats c)) = [] := by
  simp [withoutStats]

@[simp] theorem withoutStats_cons_row (e : StreamEvent Row)
    (events : List (StreamEvent StreamItem)) :
    withoutStats (e.map .row :: events) = e.map .row :: withoutStats events := by
  simp [withoutStats]

@[simp] theorem withoutStats_cons_stats (c : QueryStats)
    (events : List (StreamEvent StreamItem)) :
    withoutStats (.item (.stats c) :: events) = withoutStats events := by
  simp [withoutStats]

/-- Whether the last poll told the counters of a page. -/
def EndsInStats (events : List (StreamEvent StreamItem)) : Prop :=
  ∃ c, events.getLast? = some (.item (.stats c))

theorem endsInStats_of_withoutStats_eq_nil {c : QueryStats}
    {events : List (StreamEvent StreamItem)} (h : withoutStats events = []) :
    EndsInStats (.item (.stats c) :: events) := by
  have hall : ∀ e ∈ StreamEvent.item (.stats c) :: events, e.isStats = true := by
    simpa [withoutStats, List.filter_eq_nil_iff] using h
  obtain ⟨e, he⟩ := Option.isSome_iff_exists.1
    (List.getLast?_isSome.2 (List.cons_ne_nil (StreamEvent.item (.stats c)) events))
  obtain ⟨c', rfl⟩ := StreamEvent.exists_of_isStats (hall e (List.mem_of_getLast? he))
  exact ⟨c', he⟩

theorem EndsInStats.cons {events : List (StreamEvent StreamItem)} (h : EndsInStats events)
    (e : StreamEvent StreamItem) : EndsInStats (e :: events) := by
  obtain ⟨c, hc⟩ := h
  exact ⟨c, by rw [List.getLast?_cons, hc]; rfl⟩

section Poll

variable (src : PageSource σ)

/-- A poll for rows is polls for items up to the first that does not tell counters. -/
theorem run_of_poll (s : RowStream) (w : σ) :
    ∃ told : List QueryStats,
      s.run src w (List.replicate (told.length + 1) .items)
        = ⟨(poll src s w).1, (poll src s w).2.1,
          told.map (fun c => .item (.stats c)) ++ [(poll src s w).2.2.map .row]⟩ := by
  fun_induction poll src s w with
  | case1 s w s' w' c hp hlt ih =>
    obtain ⟨told, htold⟩ := ih
    refine ⟨c :: told, ?_⟩
    rw [List.length_cons, List.replicate_succ, run_cons]
    simp [ReadMode.poll, hp, htold]
  | case2 s w s' w' r hp | case3 s w s' w' e hp | case4 s w s' w' hp | case5 s w s' w' hp =>
    exact ⟨[], by simp [run_cons, ReadMode.poll, hp, StreamEvent.map]⟩

/-- Polls for rows are polls for items, which tell the counters of pages besides. -/
theorem exists_run_items (n : Nat) (s : RowStream) (w : σ) :
    ∃ m, let p := s.run src w (List.replicate n .rows)
      let r := s.run src w (List.replicate m .items)
      r.stream = p.stream ∧ r.source = p.source ∧ withoutStats r.events = p.events := by
  induction n generalizing s w with
  | zero => exact ⟨0, rfl, rfl, rfl⟩
  | succ n ih =>
    obtain ⟨told, htold⟩ := run_of_poll src s w
    obtain ⟨m, hs, hw, he⟩ := ih (poll src s w).1 (poll src s w).2.1
    refine ⟨told.length + 1 + m, ?_⟩
    have hitems := run_append src s w (List.replicate (told.length + 1) .items)
      (List.replicate m .items)
    rw [List.replicate_append_replicate, htold] at hitems
    rw [hitems, List.replicate_succ, run_cons]
    exact ⟨hs, hw, by simp [ReadMode.poll, he]⟩

/-- A run for rows and one for items have told the same, but for the counters of pages. They are at
the same point, unless the one for items has just told counters: then their next rows are the
same. -/
structure Abreast (p r : StreamRun σ) : Prop where
  events : withoutStats r.events = p.events
  next : poll src p.stream p.source = poll src r.stream r.source
  same : ¬ EndsInStats r.events → p.stream = r.stream ∧ p.source = r.source

/-- Polls for items are polls for rows, but for the counters they tell. -/
theorem exists_abreast (m : Nat) (s : RowStream) (w : σ) :
    ∃ n, Abreast src (s.run src w (List.replicate n .rows))
      (s.run src w (List.replicate m .items)) := by
  induction m generalizing s w with
  | zero => exact ⟨0, rfl, rfl, fun _ => ⟨rfl, rfl⟩⟩
  | succ m ih =>
    rcases hp : pollItem src s w with ⟨s', w', e⟩
    have hrun : s.run src w (List.replicate (m + 1) .items)
        = ⟨(s'.run src w' (List.replicate m .items)).stream,
          (s'.run src w' (List.replicate m .items)).source,
          e :: (s'.run src w' (List.replicate m .items)).events⟩ := by
      rw [List.replicate_succ, run_cons]
      simp [ReadMode.poll, hp]
    rw [hrun]
    obtain ⟨n, hn⟩ := ih s' w'
    by_cases he : e.isStats = true
    · -- The reader of rows does not stop here, so its poll is the one that comes next.
      obtain ⟨c, rfl⟩ := StreamEvent.exists_of_isStats he
      have hstep : poll src s w = poll src s' w' := by rw [poll_eq, hp]
      cases n with
      | zero =>
        refine ⟨0, by simpa using hn.events, hstep.trans hn.next, fun hne => ?_⟩
        exact absurd (endsInStats_of_withoutStats_eq_nil hn.events) hne
      | succ n =>
        have hfirst : ReadMode.rows.poll src s w = ReadMode.rows.poll src s' w' := by
          simp only [ReadMode.poll, hstep]
        refine ⟨n + 1, ?_⟩
        rw [List.replicate_succ, run_congr src hfirst, ← List.replicate_succ]
        exact ⟨by simpa using hn.events, hn.next, fun hne => hn.same fun h => hne (h.cons _)⟩
    · have hstep : ReadMode.rows.poll src s w = (s', w', e) := by
        rcases e with _ | (r | c) | _ | _ <;>
          simp [ReadMode.poll, poll_eq src s, hp, StreamEvent.map, StreamEvent.isStats] at he ⊢
      refine ⟨n + 1, ?_⟩
      rw [List.replicate_succ, run_cons, hstep]
      refine ⟨?_, hn.next, fun hne => hn.same fun h => hne (h.cons _)⟩
      rw [← hn.events]
      simp [withoutStats, he]

end Poll

/-! ## Reading to the end -/

section ReadAll

variable (src : PageSource σ)

theorem readAll_eq {α : Type} {src : PageSource σ} (reader : StreamReader σ α src) (s : RowStream)
    (w : σ) :
    reader.readAll s w = match reader.poll s w with
      | (s', w', .pending) => reader.readAll s' w'
      | (s', w', .item a) =>
        let (s', w', as, e) := reader.readAll s' w'
        (s', w', a :: as, e)
      | (s', w', .failure e) => (s', w', [], some e)
      | (s', w', .over) => (s', w', [], none) := by
  rw [StreamReader.readAll]
  split <;> rename_i h <;> simp only [h]

/-- Reading rows to the end is reading all items, and leaving the counters out. -/
theorem readAll_rows (s : RowStream) (w : σ) :
    (rows src).readAll s w =
      let (s', w', told, e) := (items src).readAll s w
      (s', w', told.filterMap StreamItem.row?, e) := by
  fun_induction StreamReader.readAll (items src) s w with
  | case1 s w s' w' hp hn ih =>
    have hp : pollItem src s w = (s', w', .pending) := hp
    rw [readAll_eq]
    simp only [rows, poll_eq src s, hp]
    exact ih
  | case2 s w s' w' a hp hn s'' w'' told e hr ih =>
    have hp : pollItem src s w = (s', w', .item a) := hp
    rw [hr] at ih
    cases a with
    | row r =>
      rw [readAll_eq]
      simp only [rows, poll_eq src s, hp]
      simp only [rows] at ih
      simp [ih, StreamItem.row?]
    | stats c =>
      have hstep : (rows src).poll s w = (rows src).poll s' w' := by
        simp only [rows, poll_eq src s, hp]
      rw [readAll_eq, hstep, ← readAll_eq, ih]
      simp [List.filterMap_cons, StreamItem.row?]
  | case3 s w s' w' e hp =>
    have hp : pollItem src s w = (s', w', .failure e) := hp
    rw [readAll_eq]
    simp [rows, poll_eq src s, hp]
  | case4 s w s' w' hp =>
    have hp : pollItem src s w = (s', w', .over) := hp
    rw [readAll_eq]
    simp [rows, poll_eq src s, hp]

/-- Reading to the end is a run that comes to a failure or the end. -/
theorem exists_run_of_readAll (s : RowStream) (w : σ) :
    ∃ n, let (s', w', told, e) := (items src).readAll s w
      let r := s.run src w (List.replicate n .items)
      r.stream = s' ∧ r.source = w' ∧ r.events.filterMap StreamEvent.item? = told
        ∧ r.events.getLast? = some (e.elim .over .failure) := by
  fun_induction StreamReader.readAll (items src) s w with
  | case1 s w s' w' hp hn ih =>
    have hp : pollItem src s w = (s', w', .pending) := hp
    obtain ⟨n, hs, hw, ht, hl⟩ := ih
    refine ⟨n + 1, ?_⟩
    rw [List.replicate_succ, run_cons]
    simp [ReadMode.poll, hp, hs, hw, ht, hl, List.getLast?_cons, List.filterMap_cons,
      StreamEvent.item?]
  | case2 s w s' w' a hp hn s'' w'' told e hr ih =>
    have hp : pollItem src s w = (s', w', .item a) := hp
    rw [hr] at ih
    obtain ⟨n, hs, hw, ht, hl⟩ := ih
    refine ⟨n + 1, ?_⟩
    rw [List.replicate_succ, run_cons]
    simp [ReadMode.poll, hp, hs, hw, ht, hl, List.getLast?_cons, StreamEvent.item?]
  | case3 s w s' w' e hp =>
    have hp : pollItem src s w = (s', w', .failure e) := hp
    exact ⟨1, by simp [run_cons, ReadMode.poll, hp, StreamEvent.item?]⟩
  | case4 s w s' w' hp =>
    have hp : pollItem src s w = (s', w', .over) := hp
    exact ⟨1, by simp [run_cons, ReadMode.poll, hp, StreamEvent.item?]⟩

end ReadAll

end RowStream

end QueryClient
