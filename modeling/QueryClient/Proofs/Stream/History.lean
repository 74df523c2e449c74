import QueryClient.Proofs.Stream.Moves

/-!
# What a stream remembers of its pages

The history of a run is read off the first page and the transcript alone: the pages that were taken
over, and the link that is due, which is the one of the last such page until the page behind it has
arrived. `Tracks` says that the columns, the cancelling link and the outstanding link of a stream
are those of its history; every move keeps it (`Tracks.moves`).
-/

namespace QueryClient

variable {σ : Type}

/-- What the pages that arrived add up to. -/
structure History where
  /-- A stream that took the same pages over. -/
  stream : RowStream
  /-- The pages that were taken over. -/
  pages : List QueryPage := []
  /-- The link of the last page, as long as the page behind it has not arrived. -/
  due : Option String := none

namespace History

/-- A page counts if it can be taken over. -/
def take (h : History) : Result QueryPage → History
  | .error _ => { h with due := none }
  | .ok page =>
    match h.stream.absorb page with
    | (s, .ok ()) => ⟨s, h.pages ++ [page], page.nextUri⟩
    | (_, .error _) => { h with due := none }

/-- The history of a query, from its first page and the calls since then. -/
def of (first : QueryPage) (t : Transcript) : History :=
  (.ok first :: t.arrivals).foldl take { stream := { queryId := first.id } }

theorem of_append (first : QueryPage) (t d : Transcript) :
    of first (t ++ d) = (Transcript.arrivals d).foldl take (of first t) := by
  simp [of]

theorem prefix_pages_take (h : History) (page : Result QueryPage) :
    h.pages <+: (h.take page).pages := by
  unfold take
  split
  · exact List.prefix_refl _
  · split
    · exact List.prefix_append _ _
    · exact List.prefix_refl _

/-- Pages that were taken over stay so. -/
theorem pages_of_append (first : QueryPage) (t d : Transcript) :
    (of first t).pages <+: (of first (t ++ d)).pages := by
  rw [of_append]
  generalize of first t = h
  induction Transcript.arrivals d generalizing h with
  | nil => exact List.prefix_refl _
  | cons page later ih => exact (prefix_pages_take h page).trans (ih (h.take page))

theorem of_start {first : QueryPage} {s : RowStream} (h : RowStream.start first = .ok s) :
    of first [] = ⟨s, [first], first.nextUri⟩ := by
  have := RowStream.create_of_start h
  unfold RowStream.create at this
  simp [of, take, Transcript.arrivals, this]

/-- The link that cancels the query, as the pages gave it last. -/
def latestKill (pages : List QueryPage) : Option String :=
  pages.reverse.findSome? (·.killUri)

@[simp] theorem latestKill_append_singleton (pages : List QueryPage) (page : QueryPage) :
    latestKill (pages ++ [page]) = page.killUri.or (latestKill pages) := by
  cases h : page.killUri <;> simp [latestKill, h]

end History

namespace RowStream

/-- The link whose page has not arrived: it is still held, or its page is on the way. -/
def due (s : RowStream) : Option String :=
  match s.state with
  | .fetching uri => some uri
  | _ => s.nextUri

section Due

variable {s : RowStream}

theorem due_of_fetching {uri : String} (hs : s.state = .fetching uri) : s.due = some uri := by
  simp [due, hs]

theorem due_eq_nextUri (hs : ∀ uri, s.state ≠ .fetching uri) : s.due = s.nextUri := by
  unfold due
  split
  · next uri h => exact absurd h (hs uri)
  · rfl

@[simp] theorem deliver_columns (s : RowStream) (raw : RawRow) (rest : List RawRow) :
    (s.deliver raw rest).1.columns = s.columns := by
  simp only [deliver]
  split
  · split_ifs <;> rfl
  · rfl

@[simp] theorem deliver_nextUri (s : RowStream) (raw : RawRow) (rest : List RawRow) :
    (s.deliver raw rest).1.nextUri = s.nextUri := by
  simp only [deliver]
  split
  · split_ifs <;> rfl
  · rfl

@[simp] theorem deliver_killUri (s : RowStream) (raw : RawRow) (rest : List RawRow) :
    (s.deliver raw rest).1.killUri = s.killUri := by
  simp only [deliver]
  split
  · split_ifs <;> rfl
  · rfl

end Due

/-! ## Whether a page is taken over is a matter of the columns -/

section Columns

variable {s u s' : RowStream} {page : QueryPage}

theorem absorb_congr (hcol : u.columns = s.columns) (page : QueryPage) :
    (u.absorb page).2 = (s.absorb page).2
      ∧ (u.absorb page).1.columns = (s.absorb page).1.columns := by
  unfold absorb
  rw [hcol]
  split
  · exact ⟨rfl, rfl⟩
  · split
    · exact ⟨rfl, hcol⟩
    · exact ⟨rfl, rfl⟩

theorem absorb_ok_of_columns (hcol : u.columns = s.columns) (h : s.absorb page = (s', .ok ())) :
    ∃ u', u.absorb page = (u', .ok ()) ∧ u'.columns = s'.columns := by
  obtain ⟨hr, hc⟩ := absorb_congr hcol page
  rw [h] at hr hc
  exact ⟨_, Prod.ext rfl hr, hc⟩

theorem absorb_error_of_columns {e : Error} (hcol : u.columns = s.columns)
    (h : s.absorb page = (s', .error e)) : ∃ u', u.absorb page = (u', .error e) := by
  obtain ⟨hr, -⟩ := absorb_congr hcol page
  rw [h] at hr
  exact ⟨_, Prod.ext rfl hr⟩

end Columns

/-! ## A stream and its history -/

/-- A stream knows what its history says. -/
structure Tracks (first : QueryPage) (s : RowStream) (t : Transcript) : Prop where
  coherent : s.Coherent
  ne_closed : s.state ≠ .closed
  columns : (History.of first t).stream.columns = s.columns
  killUri : s.killUri = History.latestKill (History.of first t).pages
  due : (History.of first t).due = s.due

theorem tracks_start {first : QueryPage} {s : RowStream} (h : start first = .ok s) :
    Tracks first s [] := by
  have hc := create_of_start h
  unfold create at hc
  obtain ⟨-, columns, -, hs⟩ := absorb_of_ok hc
  refine ⟨coherent_start h, (atRest_absorb hc).ne_closed, ?_, ?_, ?_⟩ <;> rw [History.of_start h]
  · simp [hs, History.latestKill]
  · rw [hs, due_eq_nextUri (atRest_settle _).ne_fetching, settle_nextUri]

section Move

variable {first : QueryPage} {s s' : RowStream} {t d : Transcript}

theorem History.of_arrived (first : QueryPage) (t : Transcript) (uri : String)
    (page : Result QueryPage) :
    History.of first (t ++ [.arrived uri page]) = (History.of first t).take page := by
  rw [History.of_append]
  rfl

/-- A page that does not come, or is not taken over, leaves the history with nothing due. -/
theorem Tracks.fail (h : Tracks first s t) (hs : s'.state = .failed)
    (hcol : s'.columns = s.columns) (hk : s'.killUri = s.killUri) (hn : s'.nextUri = none)
    (hof : History.of first d = { History.of first t with due := none }) :
    Tracks first s' d where
  coherent := coherent_of_failed hs
  ne_closed := by simp [hs]
  columns := by rw [hof, hcol]; exact h.columns
  killUri := by rw [hof, hk]; exact h.killUri
  due := by rw [hof, due_eq_nextUri (by simp [hs]), hn]

/-- A page that arrives changes stream and history alike. -/
theorem Tracks.arrive (h : Tracks first s t) {uri : String} (hs : s.state = .fetching uri)
    (page : Result QueryPage) :
    Tracks first (s.receive page).1 (t ++ [.arrived uri page]) := by
  have hn : s.nextUri = none := (h.coherent.of_fetching hs).2
  have hof := History.of_arrived first t uri page
  rcases page with e | page
  · exact h.fail rfl rfl rfl hn hof
  rcases ha : s.absorb page with ⟨s', e | u⟩
  · obtain ⟨u', hu⟩ := absorb_error_of_columns h.columns ha
    simp only [History.take, hu] at hof
    simp only [receive, ha]
    rcases absorb_of_error ha with rfl | rfl
    · exact h.fail rfl rfl rfl rfl hof
    · exact h.fail rfl rfl rfl hn hof
  · obtain ⟨u', hu, hcol⟩ := absorb_ok_of_columns h.columns ha
    obtain ⟨-, columns, -, hs'⟩ := absorb_of_ok ha
    simp only [History.take, hu] at hof
    simp only [receive, ha]
    refine ⟨coherent_absorb ha, (atRest_absorb ha).ne_closed, ?_, ?_, ?_⟩ <;> rw [hof]
    · exact hcol
    · rw [History.latestKill_append_singleton, ← h.killUri, hs']
      rfl
    · rw [hs', due_eq_nextUri (atRest_settle _).ne_fetching, settle_nextUri]

/-- Every move of a stream keeps it in step with its history. -/
theorem Tracks.move (h : Tracks first s t) (hm : Move s d s') : Tracks first s' (t ++ d) := by
  cases hm with
  | deliver hs hb =>
    refine ⟨coherent_deliver hs _ _, (Move.deliver hs hb).ne_closed, ?_, ?_, ?_⟩ <;>
      rw [List.append_nil]
    · rw [deliver_columns, h.columns]
    · rw [deliver_killUri, h.killUri]
    · rw [due_eq_nextUri (atRest_deliver hs _ _).ne_fetching, deliver_nextUri, h.due,
        due_eq_nextUri (by simp [hs])]
  | ask hs hn =>
    refine ⟨coherent_asking (h.coherent.of_idle hs).1 _, (Move.ask hs hn).ne_closed, ?_, ?_, ?_⟩ <;>
      rw [History.of_append]
    · exact h.columns
    · exact h.killUri
    · rw [due_of_fetching rfl, ← hn, ← due_eq_nextUri (by simp [hs])]
      exact h.due
  | wait hs =>
    refine ⟨h.coherent, h.ne_closed, ?_, ?_, ?_⟩ <;> rw [History.of_append]
    · exact h.columns
    · exact h.killUri
    · exact h.due
  | arrive hs page => exact h.arrive hs page

theorem Tracks.moves (h : Tracks first s t) (hm : Moves s d s') : Tracks first s' (t ++ d) := by
  induction hm with
  | refl => simpa using h
  | step before last ih => simpa only [List.append_assoc] using ih.move last

end Move

/-! ## Pages that arrive -/

section Arrival

variable {first : QueryPage} {s : RowStream} {t : Transcript}

/-- A page that arrives is taken over by stream and history alike, or by neither. -/
theorem Tracks.receive_cases (h : Tracks first s t) (uri : String) (page : Result QueryPage) :
    (∃ p, s.absorb p = ((s.receive page).1, .ok ()) ∧ (s.receive page).2 = .ok (.stats p.stats)
        ∧ (History.of first (t ++ [.arrived uri page])).pages
          = (History.of first t).pages ++ [p])
      ∨ ∃ e link, (link = none ∨ link = s.nextUri)
        ∧ s.receive page = ({ s with state := .failed, nextUri := link }, .error e)
        ∧ (History.of first (t ++ [.arrived uri page])).pages = (History.of first t).pages := by
  rw [History.of_arrived]
  rcases s.receive_cases page with ⟨p, rfl, ha, hr⟩ | ⟨e, link, hlink, hr⟩
  · obtain ⟨u', hu, -⟩ := absorb_ok_of_columns h.columns ha
    exact .inl ⟨p, ha, hr, by simp [History.take, hu]⟩
  · refine .inr ⟨e, link, hlink, hr, ?_⟩
    rcases page with x | page
    · rfl
    rcases ha : s.absorb page with ⟨s', x | u⟩
    · obtain ⟨u', hu⟩ := absorb_error_of_columns h.columns ha
      simp [History.take, hu]
    · simp [receive, ha] at hr

end Arrival

/-- Every run of a stream is in step with its history. -/
theorem tracks_run (src : PageSource σ) (w : σ) {first : QueryPage} {s : RowStream}
    (h : start first = .ok s) (modes : List ReadMode) :
    let r := s.run src.recorded ⟨w, []⟩ modes
    Tracks first r.stream r.source.transcript := by
  intro r
  obtain ⟨d, hd, hm⟩ := moves_run src (coherent_start h) ⟨w, []⟩ modes
  have := (tracks_start h).moves hm
  rwa [hd]

end RowStream

end QueryClient
