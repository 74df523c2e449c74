import Mathlib.Data.List.Forall2
import QueryClient.Proofs.Stream.Progress

/-!
# The counters of pages

A reader of items is told the rows of the first page, and then of every page that is taken over its
counters and its rows (`told`). So the counters of a page come once, behind all rows of the pages
before it and ahead of its own ones, also where it has none. The first page is not announced, nor is
one that fails (`tells_run`).
-/

namespace QueryClient

variable {σ : Type}

/-- Whether a row is what some fields read as under its columns. -/
def Row.Reads (raw : RawRow) (row : Row) : Prop :=
  raw.length = row.columns.length ∧ Reading.readFields row.columns raw = .ok row.values

/-- A page that was taken over, with the rows of it that were handed out. -/
structure PageRead where
  page : QueryPage
  rows : List Row

namespace PageRead

/-- The counters of a page and its rows. -/
def announced (p : PageRead) : List StreamItem :=
  .stats p.page.stats :: p.rows.map .row

/-- Whether the rows are the first ones of the page. -/
def Begun (p : PageRead) : Prop :=
  ∃ n, List.Forall₂ Row.Reads (p.page.data.take n) p.rows

/-- Whether the rows are all rows of the page. -/
def Complete (p : PageRead) : Prop :=
  List.Forall₂ Row.Reads p.page.data p.rows

end PageRead

/-- What is told of pages; the first one is not announced. -/
def told : List PageRead → List StreamItem
  | [] => []
  | first :: later => first.rows.map .row ++ later.flatMap PageRead.announced

theorem told_append_row (done : List PageRead) (page : QueryPage) (rows : List Row) (r : Row) :
    told (done ++ [⟨page, rows ++ [r]⟩]) = told (done ++ [⟨page, rows⟩]) ++ [.row r] := by
  cases done <;> simp [told, PageRead.announced]

theorem told_append_page (done : List PageRead) (last : PageRead) (page : QueryPage) :
    told (done ++ [last] ++ [⟨page, []⟩]) = told (done ++ [last]) ++ [.stats page.stats] := by
  cases done <;> simp [told, PageRead.announced]

/-- Whether items tell pages, all but the last one of them to the end. -/
def TellsPages (pages : List QueryPage) (items : List StreamItem) : Prop :=
  ∃ done last, pages = done.map PageRead.page ++ [last.page] ∧ items = told (done ++ [last])
    ∧ (∀ p ∈ done, p.Complete) ∧ last.Begun

namespace RowStream

/-- What was told of the pages so far, when all but the last one are done. -/
structure Telling (first : QueryPage) (s : RowStream) (t : Transcript) (items : List StreamItem)
    (done : List PageRead) (last : PageRead) : Prop where
  pages : (History.of first t).pages = done.map PageRead.page ++ [last.page]
  items : items = told (done ++ [last])
  complete : ∀ p ∈ done, p.Complete
  /-- The rows of the last page that were not handed out are buffered. -/
  rest : ∃ read rest, last.page.data = read ++ rest ∧ List.Forall₂ Row.Reads read last.rows
    ∧ (s.state ≠ .failed → s.buffer = rest)

section Telling

variable {first : QueryPage} {s s' : RowStream} {t d : Transcript} {items : List StreamItem}
  {done : List PageRead} {last : PageRead}

theorem Telling.begun (h : Telling first s t items done last) : last.Begun := by
  obtain ⟨read, rest, hdata, hread, -⟩ := h.rest
  exact ⟨read.length, by simpa [hdata] using hread⟩

theorem Telling.tellsPages (h : Telling first s t items done last) :
    TellsPages (History.of first t).pages items :=
  ⟨done, last, h.pages, h.items, h.complete, h.begun⟩

/-- A page whose rows are no longer buffered has told all of them. -/
theorem Telling.complete_last (h : Telling first s t items done last) (hs : s.state ≠ .failed)
    (hb : s.buffer = []) : last.Complete := by
  obtain ⟨read, rest, hdata, hread, hrest⟩ := h.rest
  have hnil : rest = [] := by rw [← hrest hs, hb]
  simpa [PageRead.Complete, hdata, hnil] using hread

theorem telling_start (h : start first = .ok s) :
    Telling first s [] [] [] ⟨first, []⟩ := by
  have hc := create_of_start h
  unfold create at hc
  obtain ⟨-, columns, -, hs⟩ := absorb_of_ok hc
  refine ⟨by simp [History.of_start h], rfl, by simp, [], first.data, rfl, .nil, fun _ => ?_⟩
  rw [hs]
  rfl

/-- Where no page arrives and no row is handed out, nothing is told. -/
theorem Telling.keep (h : Telling first s t items done last)
    (hpages : (History.of first (t ++ d)).pages = (History.of first t).pages)
    (hkeep : s'.state ≠ .failed → s.state ≠ .failed ∧ s'.buffer = s.buffer) :
    Telling first s' (t ++ d) items done last := by
  obtain ⟨read, rest, hdata, hread, hrest⟩ := h.rest
  refine ⟨by rw [hpages, h.pages], h.items, h.complete, read, rest, hdata, hread, fun hs => ?_⟩
  obtain ⟨hs, hb⟩ := hkeep hs
  rw [hb, hrest hs]

theorem reads_of_decode {raw : RawRow} {r : Row} (h : s.decode raw = .ok r) : Row.Reads raw r := by
  rw [decode_eq_readRow] at h
  unfold Reading.readRow at h
  split_ifs at h with hlen
  cases hf : Reading.readFields s.columns raw with
  | error e => simp [hf, Except.map] at h
  | ok values =>
    simp only [hf, Except.map, Except.ok.injEq] at h
    subst h
    exact ⟨hlen, hf⟩

theorem Telling.deliver (h : Telling first s t items done last) (hs : s.state = .hasRows)
    {raw : RawRow} {rest : List RawRow} (hb : s.buffer = raw :: rest) :
    ∃ last', Telling first (s.deliver raw rest).1 t
      (items ++ (StreamEvent.ofResult (s.deliver raw rest).2).item?.toList) done last' := by
  obtain ⟨read, left, hdata, hread, hleft⟩ := h.rest
  have hleft : left = raw :: rest := by rw [← hleft (by simp [hs]), hb]
  rcases deliver_cases s raw rest with ⟨r, hr, hd, hbuf⟩ | ⟨e, hd, hfail⟩
  · refine ⟨⟨last.page, last.rows ++ [r]⟩, h.pages, ?_, h.complete, read ++ [raw], rest, ?_, ?_,
      fun _ => hbuf⟩
    · rw [hd, told_append_row, h.items]
      rfl
    · simp [hdata, hleft]
    · exact List.rel_append hread (.cons (reads_of_decode hr) .nil)
  · exact ⟨last, h.pages, by simp [hd, h.items], h.complete, read, left, hdata, hread,
      fun hf => absurd hfail hf⟩

theorem Telling.receive (h : Telling first s t items done last) (ht : Tracks first s t)
    {uri : String} (hs : s.state = .fetching uri) (page : Result QueryPage) :
    ∃ done' last', Telling first (s.receive page).1 (t ++ [.arrived uri page])
      (items ++ (StreamEvent.ofResult (s.receive page).2).item?.toList) done' last' := by
  have hb : s.buffer = [] := (ht.coherent.of_fetching hs).1
  rcases ht.receive_cases uri page with ⟨p, ha, hr, hpages⟩ | ⟨e, link, -, hr, hpages⟩
  · refine ⟨done ++ [last], ⟨p, []⟩, ?_, ?_, ?_, [], p.data, rfl, .nil, fun _ => ?_⟩
    · simp [hpages, h.pages]
    · rw [hr, told_append_page, h.items]
      rfl
    · intro q hq
      rcases List.mem_append.1 hq with hq | hq
      · exact h.complete q hq
      · rw [List.mem_singleton.1 hq]
        exact h.complete_last (by simp [hs]) hb
    · obtain ⟨-, columns, -, hs'⟩ := absorb_of_ok ha
      rw [hs', settle_buffer, hb, List.nil_append]
  · refine ⟨done, last, ?_⟩
    rw [hr]
    simpa using h.keep hpages fun hf => absurd rfl hf

end Telling

/-! ## Polls -/

section Poll

variable (src : PageSource σ) {first : QueryPage} {s : RowStream} {items : List StreamItem}

/-- A stream whose reader was told its pages so far. -/
def Tells (first : QueryPage) (s : RowStream) (t : Transcript) (items : List StreamItem) : Prop :=
  Tracks first s t ∧ ∃ done last, Telling first s t items done last

theorem tells_pollPage {w : Recorded σ} (h : Tells first s w.transcript items) {uri : String}
    (hs : s.state = .fetching uri) :
    let r := pollPage src.recorded s w uri
    ∃ done last, Telling first r.1 r.2.1.transcript (items ++ r.2.2.item?.toList) done last := by
  intro r
  obtain ⟨ht, done, last, htell⟩ := h
  rcases hp : src.poll w.source uri with ⟨v, _ | page⟩
  · have hr : r = (s, ⟨v, w.transcript ++ [.waited uri]⟩, .pending) := by
      simp [r, pollPage, src.recorded_poll_pending hp]
    rw [hr]
    have hpages : History.of first (w.transcript ++ [.waited uri])
        = History.of first w.transcript := History.of_append ..
    exact ⟨done, last, by simpa [StreamEvent.item?] using htell.keep (by rw [hpages]) fun h => ⟨h, rfl⟩⟩
  · have hr : r = ((s.receive page).1, ⟨v, w.transcript ++ [.arrived uri page]⟩,
        .ofResult (s.receive page).2) := by
      simp [r, pollPage, src.recorded_poll_ready hp]
    rw [hr]
    exact htell.receive ht hs page

theorem tells_pollItem {w : Recorded σ} (h : Tells first s w.transcript items) :
    let r := pollItem src.recorded s w
    Tells first r.1 r.2.1.transcript (items ++ r.2.2.item?.toList) := by
  intro r
  obtain ⟨ht, done, last, htell⟩ := h
  obtain ⟨d, hd, hm⟩ := moves_pollItem src ht.coherent w
  refine ⟨by rw [hd]; exact ht.moves hm, ?_⟩
  cases hs : s.state with
  | idle =>
    obtain ⟨hb, uri, hn⟩ := ht.coherent.of_idle hs
    have hr : r = pollPage src.recorded (s.asking uri) (src.recorded.fetch w uri) uri := by
      simp [r, pollItem, pollNext, hs, hn]
    -- To ask tells nothing, and what comes then is the poll of the page that was asked for.
    have hask := ht.move (.ask hs hn)
    have hpages : History.of first (w.transcript ++ [.asked uri])
        = History.of first w.transcript := History.of_append ..
    rw [hr]
    exact tells_pollPage src (w := src.recorded.fetch w uri)
      ⟨hask, done, last, htell.keep (by rw [hpages]) fun _ => ⟨by simp [hs], rfl⟩⟩ rfl
  | fetching uri =>
    have hr : r = pollPage src.recorded s w uri := by simp [r, pollItem, hs]
    rw [hr]
    exact tells_pollPage src ⟨ht, done, last, htell⟩ hs
  | hasRows =>
    obtain ⟨raw, rest, hb⟩ := List.exists_cons_of_ne_nil (ht.coherent.buffer_ne_nil hs)
    have hr : r = ((s.deliver raw rest).1, w, .ofResult (s.deliver raw rest).2) := by
      simp [r, pollItem, hs, hb]
    rw [hr]
    exact ⟨done, htell.deliver hs hb⟩
  | exhausted | failed | closed =>
    have hr : r = (s, w, .over) := pollItem_of_terminated src.recorded (by rw [hs]; rfl) w
    rw [hr]
    exact ⟨done, last, by simpa [StreamEvent.item?] using htell⟩

theorem tells_run (n : Nat) {w : Recorded σ} (h : Tells first s w.transcript items) :
    let r := s.run src.recorded w (List.replicate n .items)
    Tells first r.stream r.source.transcript (items ++ r.events.filterMap StreamEvent.item?) := by
  induction n generalizing s w items with
  | zero => simpa using h
  | succ n ih =>
    have hrest := ih (tells_pollItem src h)
    rw [List.replicate_succ, run_cons]
    simp only [ReadMode.poll]
    cases hi : (pollItem src.recorded s w).2.2.item? with
    | none => simpa [List.filterMap_cons, hi] using hrest
    | some item => simpa [List.filterMap_cons, hi] using hrest

end Poll

/-! ## Both readers -/

/-- A reader of items and a reader of rows agree. Read to the end, both leave the same stream and
have asked the source for the same, and the rows and the failure are those of the items without the
counters. So it is after any number of polls of either. What a reader of items is told at any time
are the pages taken over so far: all rows of the first one, and then the counters and the rows of
every later one. -/
theorem agreement_of_start (src : PageSource σ) (w : σ) {first : QueryPage} {s₀ : RowStream}
    (h : start first = .ok s₀) :
    let run (mode : ReadMode) (n : Nat) := s₀.run src.recorded ⟨w, []⟩ (List.replicate n mode)
    (match (items src.recorded).readAll s₀ ⟨w, []⟩ with
      | (s, v, seen, e) =>
        (rows src.recorded).readAll s₀ ⟨w, []⟩ = (s, v, seen.filterMap StreamItem.row?, e)
          ∧ TellsPages (History.of first v.transcript).pages seen)
      ∧ (∀ n, ∃ m, (run .items m).stream = (run .rows n).stream
          ∧ (run .items m).source = (run .rows n).source
          ∧ withoutStats (run .items m).events = (run .rows n).events)
      ∧ ∀ m, (∃ n, Abreast src.recorded (run .rows n) (run .items m))
        ∧ TellsPages (History.of first (run .items m).source.transcript).pages
            ((run .items m).events.filterMap StreamEvent.item?) := by
  intro run
  have hstart : Tells first s₀ [] [] := ⟨tracks_start h, [], ⟨first, []⟩, telling_start h⟩
  have htells (m : Nat) : TellsPages (History.of first (run .items m).source.transcript).pages
      ((run .items m).events.filterMap StreamEvent.item?) := by
    obtain ⟨-, done, last, htell⟩ := tells_run src (w := ⟨w, []⟩) m hstart
    simpa using htell.tellsPages
  refine ⟨⟨readAll_rows src.recorded s₀ ⟨w, []⟩, ?_⟩,
    fun n => exists_run_items src.recorded n s₀ ⟨w, []⟩,
    fun m => ⟨exists_abreast src.recorded m s₀ ⟨w, []⟩, htells m⟩⟩
  obtain ⟨n, -, hv, hitems, -⟩ := exists_run_of_readAll src.recorded s₀ ⟨w, []⟩
  have := htells n
  rwa [hv, hitems] at this

/-- A page without rows between two others. -/
theorem agreement_of_start_empty_page :
    let first : QueryPage :=
      { id := "q1", schema := [⟨"n", "Int8"⟩], data := [[some "7"]], nextUri := some "/p/1" }
    let f : Feed :=
      { script := [⟨1, .ok { id := "q1", nextUri := some "/p/2" }⟩,
          ⟨0, .ok { id := "q1", data := [[some "8"]] }⟩],
        exhausted := .emptyResult }
    ∃ s₀, start first = .ok s₀
      ∧ (rows Feed.source.recorded).readAll s₀ ⟨f, []⟩ =
        let (s, v, seen, e) := (items Feed.source.recorded).readAll s₀ ⟨f, []⟩
        (s, v, seen.filterMap StreamItem.row?, e) := by
  intro first f
  have hok : (start first).isOk = true := by decide +kernel
  obtain ⟨s₀, h⟩ := exists_start hok
  exact ⟨s₀, h, (agreement_of_start Feed.source f h).1.1⟩

end RowStream

end QueryClient
