import Mathlib.Data.List.Induction
import QueryClient.Proofs.Stream.History
import QueryClient.Proofs.Stream.Lifecycle

/-!
# The order of fetches

Pages come one at a time: a page is asked for only when every earlier one has arrived, and what is
waited for or arrives is the page that was asked for last (`Transcript.OneAtATime`). The links that
are fetched are those of the pages that were taken over, in order (`Fetches`). Nothing is fetched
while a row is buffered, nor after a failure or the last page.
-/

namespace QueryClient

variable {σ : Type}

/-- Whether a call may come after others, if pages come one at a time. -/
def Exchange.Follows (before : Transcript) : Exchange → Prop
  | .asked _ => before.fetched.length = before.arrivals.length
  | .waited uri | .arrived uri _ =>
    before.fetched.length = before.arrivals.length + 1 ∧ before.fetched.getLast? = some uri
  | .killed _ _ | .killedDetached _ => True

namespace Transcript

/-- A page is asked for when all earlier ones have arrived, and the one that was asked for last is
waited for. -/
def OneAtATime (t : Transcript) : Prop :=
  ∀ before x, before ++ [x] <+: t → x.Follows before

theorem oneAtATime_nil : OneAtATime [] := by
  intro before x h
  simp at h

theorem OneAtATime.append_singleton {t : Transcript} {x : Exchange} (h : t.OneAtATime)
    (hx : x.Follows t) : OneAtATime (t ++ [x]) := by
  intro before y hp
  rcases List.prefix_concat_iff.1 hp with heq | hp
  · obtain ⟨rfl, hy⟩ := List.append_inj' heq rfl
    rw [List.singleton_inj.1 hy]
    exact hx
  · exact h before y hp

theorem OneAtATime.of_prefix {p t : Transcript} (h : t.OneAtATime) (hp : p <+: t) :
    p.OneAtATime :=
  fun before x hx => h before x (hx.trans hp)

/-- At most one page is on the way. -/
theorem OneAtATime.length_fetched {t : Transcript} (h : t.OneAtATime) :
    t.arrivals.length ≤ t.fetched.length ∧ t.fetched.length ≤ t.arrivals.length + 1 := by
  induction t using List.reverseRecOn with
  | nil => simp [fetched, arrivals]
  | append_singleton t x ih =>
    have ih := ih (h.of_prefix (List.prefix_append t [x]))
    have hx := h t x (List.prefix_refl _)
    cases x <;> simp [fetched, arrivals, Exchange.Follows] at ih hx ⊢ <;> omega

end Transcript

namespace RowStream

/-- The calls of a stream fetch the links of its pages in order. -/
structure Fetches (first : QueryPage) (s : RowStream) (t : Transcript) : Prop where
  oneAtATime : t.OneAtATime
  /-- A page is on the way exactly in the state that says so. -/
  inFlight : match s.state with
    | .fetching uri => t.fetched.length = t.arrivals.length + 1 ∧ t.fetched.getLast? = some uri
    | _ => t.fetched.length = t.arrivals.length
  /-- All links were fetched, or all but the one that the stream holds. -/
  links : (History.of first t).pages.map (·.nextUri) = t.fetched.map some ∧ s.nextUri = none
    ∨ (∀ uri, s.state ≠ .fetching uri)
      ∧ (History.of first t).pages.map (·.nextUri) = t.fetched.map some ++ [s.nextUri]

section Move

variable {first : QueryPage} {s s' : RowStream} {t d : Transcript}

theorem Fetches.of_fetching (h : Fetches first s t) {uri : String} (hs : s.state = .fetching uri) :
    t.fetched.length = t.arrivals.length + 1 ∧ t.fetched.getLast? = some uri := by
  simpa only [hs] using h.inFlight

theorem Fetches.of_ne_fetching (h : Fetches first s t) (hs : ∀ uri, s.state ≠ .fetching uri) :
    t.fetched.length = t.arrivals.length := by
  have := h.inFlight
  split at this
  · next uri heq => exact absurd heq (hs uri)
  · exact this

theorem inFlight_of_ne_fetching (hs : ∀ uri, s.state ≠ .fetching uri)
    (h : t.fetched.length = t.arrivals.length) : match s.state with
      | .fetching uri => t.fetched.length = t.arrivals.length + 1 ∧ t.fetched.getLast? = some uri
      | _ => t.fetched.length = t.arrivals.length := by
  split
  · next uri heq => exact absurd heq (hs uri)
  · exact h

theorem fetches_start (h : start first = .ok s) : Fetches first s [] := by
  have hc := create_of_start h
  unfold create at hc
  have hne := (atRest_absorb hc).ne_fetching
  obtain ⟨-, columns, -, hs⟩ := absorb_of_ok hc
  refine ⟨Transcript.oneAtATime_nil, inFlight_of_ne_fetching hne rfl, .inr ⟨hne, ?_⟩⟩
  rw [History.of_start h, hs]
  rfl

/-- The links after a page has arrived. -/
theorem Fetches.arrive_links (h : Fetches first s t) (ht : Tracks first s t) {uri : String}
    (hs : s.state = .fetching uri) (page : Result QueryPage) :
    (History.of first (t ++ [.arrived uri page])).pages.map (·.nextUri) = t.fetched.map some
        ∧ (s.receive page).1.nextUri = none
      ∨ (∀ uri, (s.receive page).1.state ≠ .fetching uri)
        ∧ (History.of first (t ++ [.arrived uri page])).pages.map (·.nextUri)
          = t.fetched.map some ++ [(s.receive page).1.nextUri] := by
  have hn : s.nextUri = none := (ht.coherent.of_fetching hs).2
  have hl : (History.of first t).pages.map (·.nextUri) = t.fetched.map some := by
    rcases h.links with ⟨hl, -⟩ | ⟨hne, -⟩
    · exact hl
    · exact absurd hs (hne uri)
  rcases ht.receive_cases uri page with ⟨p, ha, -, hpages⟩ | ⟨e, link, hlink, hr, hpages⟩ <;>
    rw [hpages]
  · refine .inr ⟨(atRest_receive s _).ne_fetching, ?_⟩
    obtain ⟨-, columns, -, hu⟩ := absorb_of_ok ha
    rw [List.map_append, hl, hu]
    rfl
  · rw [hr]
    rcases hlink with rfl | rfl
    · exact .inl ⟨hl, rfl⟩
    · exact .inl ⟨hl, hn⟩

theorem Fetches.move (h : Fetches first s t) (ht : Tracks first s t) (hm : Move s d s') :
    Fetches first s' (t ++ d) := by
  cases hm with
  | deliver hs hb =>
    have hne := fun raw rest => (atRest_deliver hs raw rest).ne_fetching
    rw [List.append_nil]
    refine ⟨h.oneAtATime, ?_, ?_⟩
    · exact inFlight_of_ne_fetching (hne _ _) (h.of_ne_fetching (by simp [hs]))
    · rw [deliver_nextUri]
      exact h.links.imp_right fun ⟨_, hl⟩ => ⟨hne _ _, hl⟩
  | @ask uri hs hn =>
    have hlen := h.of_ne_fetching (by simp [hs])
    refine ⟨h.oneAtATime.append_singleton hlen, ?_, ?_⟩
    · simp [asking, Transcript.fetched, Transcript.arrivals] at hlen ⊢
      exact hlen
    · rcases h.links with ⟨-, hnone⟩ | ⟨-, hl⟩
      · simp [hn] at hnone
      · refine .inl ⟨?_, rfl⟩
        rw [History.of_append, Transcript.fetched_append, List.map_append]
        rw [hn] at hl
        exact hl
  | wait hs =>
    have hfl := h.of_fetching hs
    refine ⟨h.oneAtATime.append_singleton hfl, ?_, ?_⟩
    · simpa [hs, Transcript.fetched, Transcript.arrivals] using hfl
    · rw [History.of_append, Transcript.fetched_append]
      simpa [Transcript.fetched, Transcript.arrivals] using h.links
  | @arrive uri hs page =>
    have hfl := h.of_fetching hs
    refine ⟨h.oneAtATime.append_singleton hfl, ?_, ?_⟩
    · refine inFlight_of_ne_fetching (atRest_receive s page).ne_fetching ?_
      simpa [Transcript.fetched, Transcript.arrivals] using hfl.1
    · have := h.arrive_links ht hs page
      simpa [Transcript.fetched] using this

theorem Fetches.moves (h : Fetches first s t) (ht : Tracks first s t) (hm : Moves s d s') :
    Fetches first s' (t ++ d) := by
  induction hm with
  | refl => simpa using h
  | step before last ih =>
    simpa only [List.append_assoc] using ih.move (ht.moves before) last

/-- The page whose link was fetched as the `k`-th one is the `k`-th page. -/
theorem Fetches.page_of_fetched (h : Fetches first s t) {k : Nat} {uri : String}
    (hk : t.fetched[k]? = some uri) :
    ∃ page, (History.of first t).pages[k]? = some page ∧ page.nextUri = some uri := by
  have hlt : k < t.fetched.length := (List.getElem?_eq_some_iff.1 hk).1
  have hmap : ((History.of first t).pages.map (·.nextUri))[k]? = some (some uri) := by
    rcases h.links with ⟨hl, -⟩ | ⟨-, hl⟩ <;> rw [hl]
    · simp [hk]
    · rw [List.getElem?_append_left (by simpa using hlt)]
      simp [hk]
  simpa [List.getElem?_map] using hmap

theorem Fetches.length_fetched_le (h : Fetches first s t) :
    t.fetched.length ≤ (History.of first t).pages.length
      ∧ (History.of first t).pages.length ≤ t.fetched.length + 1 := by
  rcases h.links with ⟨hl, -⟩ | ⟨-, hl⟩
  all_goals
    have := congrArg List.length hl
    simp at this
    omega

/-- Behind the last page there is nothing to fetch. -/
theorem Fetches.fetched_eq_nil (h : Fetches first s t) (h' : Fetches first s' (t ++ d))
    {page : QueryPage} (hp : page ∈ (History.of first t).pages) (hn : page.nextUri = none) :
    d.fetched = [] := by
  obtain ⟨k, hk⟩ := List.mem_iff_getElem?.1 hp
  have hk' : (History.of first (t ++ d)).pages[k]? = some page := by
    obtain ⟨later, hl⟩ := History.pages_of_append first t d
    rw [← hl, List.getElem?_append_left (List.getElem?_eq_some_iff.1 hk).1, hk]
  have hle : (t ++ d).fetched.length ≤ k := by
    by_contra hlt
    obtain ⟨page', hpage', hnext⟩ :=
      h'.page_of_fetched (List.getElem?_eq_getElem (Nat.lt_of_not_le hlt))
    rw [hk', Option.some.injEq] at hpage'
    simp [← hpage', hn] at hnext
  have hlen := h.length_fetched_le.2
  have hlt := (List.getElem?_eq_some_iff.1 hk).1
  rw [Transcript.fetched_append, List.length_append] at hle
  exact List.eq_nil_of_length_eq_zero (by omega)

end Move

/-! ## Polls with a row at hand -/

section Buffered

variable (src : PageSource σ) {s : RowStream}

theorem pollItem_of_hasRows (hc : s.Coherent) (hs : s.state = .hasRows) (w : σ) :
    ∃ raw rest, pollItem src s w =
      ((s.deliver raw rest).1, w, .ofResult (s.deliver raw rest).2) := by
  obtain ⟨raw, rest, hb⟩ := List.exists_cons_of_ne_nil (hc.buffer_ne_nil hs)
  exact ⟨raw, rest, by simp [pollItem, hs, hb]⟩

/-- A poll that finds a row buffered calls nothing. -/
theorem mode_poll_of_buffered (hc : s.Coherent) (hb : s.buffer ≠ []) (w : σ)
    (mode : ReadMode) : (mode.poll src s w).2.1 = w := by
  cases hs : s.state with
  | idle => exact absurd (hc.of_idle hs).1 hb
  | fetching uri => exact absurd (hc.of_fetching hs).1 hb
  | exhausted | failed | closed =>
    rw [mode_poll_of_terminated src (by rw [hs]; rfl)]
  | hasRows =>
    obtain ⟨raw, rest, hp⟩ := pollItem_of_hasRows src hc hs w
    cases mode with
    | items => exact congrArg (·.2.1) hp
    | rows =>
      have hne := deliver_ne_stats s raw rest
      rcases hd : (s.deliver raw rest).2 with e | (r | c)
      · simp [ReadMode.poll, poll_eq src s, hp, hd, StreamEvent.ofResult]
      · simp [ReadMode.poll, poll_eq src s, hp, hd, StreamEvent.ofResult]
      · exact absurd hd (hne c)

end Buffered

/-! ## All runs -/

/-- The pages of a run are fetched lazily, one at a time and in the order of their links. -/
structure FetchesInTurn (src : PageSource σ) (first : QueryPage) (r : StreamRun (Recorded σ)) :
    Prop where
  /-- A poll that finds a row buffered calls nothing. -/
  lazy : r.stream.buffer ≠ [] → ∀ mode : ReadMode,
    (mode.poll src.recorded r.stream r.source).2.1 = r.source
  /-- What is on the way is not asked for again, and nothing else is. -/
  oneAtATime : r.source.transcript.OneAtATime
  /-- At no time is there more than one page on the way. -/
  inFlight : ∀ t : Transcript, t <+: r.source.transcript →
    t.arrivals.length ≤ t.fetched.length ∧ t.fetched.length ≤ t.arrivals.length + 1
  /-- The `k`-th link that is fetched is the one of the `k`-th page. -/
  inOrder : ∀ (k : Nat) uri, r.source.transcript.fetched[k]? = some uri →
    ∃ page, (History.of first r.source.transcript).pages[k]? = some page
      ∧ page.nextUri = some uri
  /-- Nothing is fetched after a failure or the last page. -/
  stops : (∃ e, .failure e ∈ r.events)
      ∨ (∃ page ∈ (History.of first r.source.transcript).pages, page.nextUri = none) →
    ∀ later, (r.stream.run src.recorded r.source later).source.transcript.fetched
      = r.source.transcript.fetched

theorem fetches_run (src : PageSource σ) (w : σ) {first : QueryPage} {s : RowStream}
    (h : start first = .ok s) (modes : List ReadMode) :
    let r := s.run src.recorded ⟨w, []⟩ modes
    Fetches first r.stream r.source.transcript := by
  intro r
  obtain ⟨d, hd, hm⟩ := moves_run src (coherent_start h) ⟨w, []⟩ modes
  have := (fetches_start h).moves (tracks_start h) hm
  rwa [hd]

theorem fetchesInTurn_run (src : PageSource σ) (w : σ) {first : QueryPage} {s : RowStream}
    (h : start first = .ok s) (modes : List ReadMode) :
    FetchesInTurn src first (s.run src.recorded ⟨w, []⟩ modes) := by
  have ht := tracks_run src w h modes
  have hf := fetches_run src w h modes
  refine ⟨fun hb mode => mode_poll_of_buffered src.recorded ht.coherent hb _ mode,
    hf.oneAtATime, fun t hp => (hf.oneAtATime.of_prefix hp).length_fetched,
    fun k uri hk => hf.page_of_fetched hk, ?_⟩
  rintro (⟨e, he⟩ | ⟨page, hp, hn⟩) later
  · rw [run_of_terminated src.recorded (run_of_isLast src.recorded he rfl)]
  · obtain ⟨d, hd, hm⟩ := moves_run src ht.coherent
      (s.run src.recorded ⟨w, []⟩ modes).source later
    have hnil := hf.fetched_eq_nil (hf.moves ht hm) hp hn
    rw [hd, Transcript.fetched_append, hnil, List.append_nil]

end RowStream

end QueryClient
