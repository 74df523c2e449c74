import QueryClient.Proofs.Stream.Reference
import QueryClient.Proofs.Stream.Lifecycle
import QueryClient.Proofs.Stream.History
import QueryClient.Stream.Feed
import QueryClient.Proofs.Value.Typing

/-!
# What a stream knows of its query

The columns, the counters and the cancelling link of a stream are matters of the pages that were
taken over (`Informed`): the first schema that is not empty, the counters of the last page, the last
link. So whatever fails leaves all three as they were. A row that is handed out has the columns of
that moment, and a value of the declared type for each of them (`row_of_poll`).
-/

namespace QueryClient

variable {σ : Type}

namespace RowStream

open Reading (inForce)

/-- A stream knows what some pages say. -/
structure Informed (pages : List QueryPage) (s : RowStream) : Prop where
  columns : (inForce pages).mapM Column.ofField = .ok s.columns
  stats : pages.getLast?.map (·.stats) = some s.stats
  killUri : s.killUri = History.latestKill pages

section Move

variable {first : QueryPage} {pages : List QueryPage} {s s' : RowStream} {t d : Transcript}

/-- What a stream knows does not depend on how far it is read. -/
theorem Informed.congr (h : Informed pages s) (hc : s'.columns = s.columns)
    (hs : s'.stats = s.stats) (hk : s'.killUri = s.killUri) : Informed pages s' where
  columns := by rw [hc]; exact h.columns
  stats := by rw [hs]; exact h.stats
  killUri := by rw [hk]; exact h.killUri

theorem Informed.absorb (h : Informed pages s) {page : QueryPage}
    (ha : s.absorb page = (s', .ok ())) : Informed (pages ++ [page]) s' := by
  obtain ⟨-, columns, hcol, rfl⟩ := absorb_of_ok ha
  refine ⟨?_, by simp [settle], ?_⟩
  · rw [← Reading.columnsAfter_eq h.columns page, hcol, settle_columns]
  · rw [History.latestKill_append_singleton, ← h.killUri]
    rfl

/-- Before the first page a stream knows nothing, but what no page says. -/
theorem informed_start (h : start first = .ok s) : Informed [first] s := by
  have hc := create_of_start h
  unfold create at hc
  obtain ⟨-, columns, hcol, rfl⟩ := absorb_of_ok hc
  have hnil : (inForce []).mapM Column.ofField = .ok [] := rfl
  refine ⟨?_, rfl, by simp [History.latestKill]⟩
  have := Reading.columnsAfter_eq hnil first
  rw [List.nil_append] at this
  rw [← this, hcol, settle_columns]

@[simp] theorem deliver_stats (s : RowStream) (raw : RawRow) (rest : List RawRow) :
    (s.deliver raw rest).1.stats = s.stats := by
  simp only [deliver]
  split
  · split_ifs <;> rfl
  · rfl

/-- Every move of a stream adds to what it knows just what the page says that it takes over. -/
theorem Informed.move (h : Informed (History.of first t).pages s) (ht : Tracks first s t)
    (hm : Move s d s') : Informed (History.of first (t ++ d)).pages s' := by
  cases hm with
  | deliver hs hb =>
    rw [List.append_nil]
    exact h.congr (deliver_columns ..) (deliver_stats ..) (deliver_killUri ..)
  | @ask uri hs hn =>
    have hof : History.of first (t ++ [.asked uri]) = History.of first t := History.of_append ..
    rw [hof]
    exact h.congr rfl rfl rfl
  | @wait uri hs =>
    have hof : History.of first (t ++ [.waited uri]) = History.of first t := History.of_append ..
    rw [hof]
    exact h
  | @arrive uri hs page =>
    rcases ht.receive_cases uri page with ⟨p, ha, -, hpages⟩ | ⟨e, link, -, hr, hpages⟩
    · rw [hpages]
      exact h.absorb ha
    · rw [hpages, hr]
      exact h.congr rfl rfl rfl

theorem Informed.moves (h : Informed (History.of first t).pages s) (ht : Tracks first s t)
    (hm : Moves s d s') : Informed (History.of first (t ++ d)).pages s' := by
  induction hm with
  | refl => simpa using h
  | step before last ih => simpa only [List.append_assoc] using ih.move (ht.moves before) last

/-- Columns that are known stay. -/
theorem Move.columns_eq (hm : Move s d s') (hc : s.columns ≠ []) : s'.columns = s.columns := by
  cases hm with
  | deliver hs hb => exact deliver_columns ..
  | ask hs hn => rfl
  | wait hs => rfl
  | arrive hs page =>
    rcases s.receive_cases page with ⟨p, rfl, ha, -⟩ | ⟨e, link, -, hr⟩
    · obtain ⟨-, columns, hcol, heq⟩ := absorb_of_ok ha
      rw [heq, settle_columns]
      simpa [columnsAfter, hc] using hcol.symm
    · rw [hr]

theorem Moves.columns_eq (hm : Moves s d s') (hc : s.columns ≠ []) : s'.columns = s.columns := by
  induction hm with
  | refl => rfl
  | step before last ih => rw [last.columns_eq (by rw [ih]; exact hc), ih]

end Move

/-! ## Polls -/

section Poll

variable (src : PageSource σ) {s : RowStream} {w : σ}

/-- A row that is handed out has the columns of its stream, and values of their types. -/
theorem row_of_pollItem {row : Row} (h : (pollItem src s w).2.2 = .item (.row row)) :
    row.columns = (pollItem src s w).1.columns ∧ row.WellTyped := by
  unfold pollItem at h ⊢
  split at h
  · next raw rest _ hb =>
    rcases deliver_cases s raw rest with ⟨r, hr, hd, -⟩ | ⟨e, hd, -⟩
    · have heq : r = row := by simpa [hd, StreamEvent.ofResult] using h
      rw [← heq]
      simpa using wellTyped_of_decode hr
    · simp [hd, StreamEvent.ofResult] at h
  · exact absurd h (pollNext_ne_row src s w row)
  · exact absurd h (pollNext_ne_row src s w row)
  · exact absurd h (pollPage_ne_row src s w _ row)
  all_goals simp at h

theorem row_of_poll (s : RowStream) (w : σ) {row : Row} (h : (poll src s w).2.2 = .item row) :
    row.columns = (poll src s w).1.columns ∧ row.WellTyped := by
  fun_induction poll src s w with
  | case1 s w s' w' c hp hlt ih => exact ih h
  | case2 s w s' w' r hp =>
    have hrow := @row_of_pollItem _ src s w r
    rw [hp] at hrow
    obtain rfl : r = row := by simpa using h
    exact hrow rfl
  | case3 | case4 | case5 => simp at h

theorem row_of_mode_poll {mode : ReadMode} {row : Row}
    (h : (mode.poll src s w).2.2 = .item (.row row)) :
    row.columns = (mode.poll src s w).1.columns ∧ row.WellTyped := by
  cases mode with
  | items => exact row_of_pollItem src h
  | rows =>
    simp only [ReadMode.poll] at h ⊢
    rcases he : (poll src s w).2.2 with _ | r | e | _ <;> simp [he, StreamEvent.map] at h
    subst h
    exact row_of_poll src s w he

/-- Whether a stream knows the same as another one. -/
def KnowsSame (s' s : RowStream) : Prop :=
  s'.columns = s.columns ∧ s'.stats = s.stats ∧ s'.killUri = s.killUri

theorem knowsSame_pollPage {uri : String} {x : Error}
    (h : (pollPage src s w uri).2.2 = .failure x) : KnowsSame (pollPage src s w uri).1 s := by
  unfold pollPage at h ⊢
  split at h
  · simp at h
  · next w' page _ =>
    rcases s.receive_cases page with ⟨p, -, -, hr⟩ | ⟨e, link, -, hr⟩
    · simp [hr, StreamEvent.ofResult] at h
    · rw [hr]
      exact ⟨rfl, rfl, rfl⟩

theorem knowsSame_pollNext {x : Error} (h : (pollNext src s w).2.2 = .failure x) :
    KnowsSame (pollNext src s w).1 s := by
  unfold pollNext at h ⊢
  split at h
  · exact knowsSame_pollPage src h
  · simp at h

/-- A failure leaves what a stream knows. -/
theorem knowsSame_pollItem {x : Error} (h : (pollItem src s w).2.2 = .failure x) :
    KnowsSame (pollItem src s w).1 s := by
  unfold pollItem at h ⊢
  split at h
  · exact ⟨deliver_columns .., deliver_stats .., deliver_killUri ..⟩
  · exact knowsSame_pollNext src h
  · exact knowsSame_pollNext src h
  · exact knowsSame_pollPage src h
  all_goals simp at h

end Poll

/-! ## All runs -/

/-- In every state that a run reaches, the columns are those of the first schema that is not empty
among the pages taken over, the counters are those of the last of these pages, and the cancelling
link is the last one that they gave. Columns that are known stay, and a failure leaves columns,
counters and link as they were. Every row that is handed out has the columns of that moment and just
one value for each of them, which is of the column's type. -/
theorem schema_of_run (src : PageSource σ) (w : σ) {first : QueryPage} {s₀ : RowStream}
    (h : start first = .ok s₀) (modes : List ReadMode) :
    let r := s₀.run src.recorded ⟨w, []⟩ modes
    let pages := (History.of first r.source.transcript).pages
    (inForce pages).mapM Column.ofField = .ok r.stream.columns
      ∧ pages.getLast?.map (·.stats) = some r.stream.stats
      ∧ r.stream.killUri = History.latestKill pages
      ∧ (r.stream.columns ≠ [] → ∀ later,
          (r.stream.run src.recorded r.source later).stream.columns = r.stream.columns)
      ∧ (∀ x, (pollItem src.recorded r.stream r.source).2.2 = .failure x →
          KnowsSame (pollItem src.recorded r.stream r.source).1 r.stream)
      ∧ ∀ (mode : ReadMode) row,
          (mode.poll src.recorded r.stream r.source).2.2 = .item (.row row) →
            row.columns = (mode.poll src.recorded r.stream r.source).1.columns
              ∧ row.values.length = row.columns.length ∧ row.WellTyped := by
  intro r pages
  obtain ⟨d, hd, hm⟩ := moves_run src (coherent_start h) ⟨w, []⟩ modes
  have hstart : Informed (History.of first []).pages s₀ := by
    rw [History.of_start h]
    exact informed_start h
  have hinf : Informed pages r.stream := by
    have := hstart.moves (tracks_start h) hm
    rwa [← hd] at this
  refine ⟨hinf.columns, hinf.stats, hinf.killUri, fun hne later => ?_,
    fun x => knowsSame_pollItem src.recorded, fun mode row hrow => ?_⟩
  · obtain ⟨d', -, hm'⟩ := moves_run src (hm.coherent (coherent_start h)) r.source later
    exact hm'.columns_eq hne
  · obtain ⟨hcol, htyped⟩ := row_of_mode_poll src.recorded hrow
    exact ⟨hcol, htyped.length_eq, htyped⟩

/-- A schema that comes with the second page. -/
theorem schema_of_run_late :
    let first : QueryPage := { id := "q1", nextUri := some "/p/1" }
    let second : QueryPage :=
      { id := "q1", schema := [⟨"n", "Nullable(Int8)"⟩], data := [[none]], killUri := some "/k" }
    let f : Feed := { script := [⟨0, .ok second⟩], exhausted := .emptyResult }
    ∃ s₀, start first = .ok s₀
      ∧ let r := s₀.run Feed.source.recorded ⟨f, []⟩ [.items]
        (inForce (History.of first r.source.transcript).pages).mapM Column.ofField
          = .ok r.stream.columns := by
  intro first second f
  have hok : (start first).isOk = true := by decide +kernel
  obtain ⟨s₀, h⟩ := exists_start hok
  exact ⟨s₀, h, (schema_of_run Feed.source f h [.items]).1⟩

end RowStream

end QueryClient
