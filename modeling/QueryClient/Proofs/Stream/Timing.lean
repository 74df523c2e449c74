import QueryClient.Proofs.Stream.Fetches
import QueryClient.Stream.Feed

/-!
# A stream does not depend on timing

`Feed.prompt` is a script without its waiting. A poll of a script that comes to an answer comes to
the same one on the prompt script, and a poll that has to wait leaves a stream whose next poll is
the prompt one (`RunsAlike`). So the answers of any run are those of a prompt run with as many polls
(`run_prompt`), and two scripts that differ in their waiting alone are read alike.
-/

namespace QueryClient

/-- The page without its waiting. -/
def FeedPage.prompt (p : FeedPage) : FeedPage :=
  { p with pending := 0 }

/-- The script without its waiting. -/
def Feed.prompt (f : Feed) : Feed :=
  { f with script := f.script.map FeedPage.prompt, current := f.current.map FeedPage.prompt }

namespace Feed

@[simp] theorem prompt_calls (f : Feed) : f.prompt.calls = f.calls := rfl

theorem prompt_fetch (f : Feed) (uri : String) : (f.fetch uri).prompt = f.prompt.fetch uri := by
  cases hs : f.script <;> simp [prompt, fetch, call, hs]

/-- What a script does when its page is not there yet. -/
theorem poll_of_pending {f f' : Feed} (h : f.poll = (f', .pending)) :
    ∃ n page, f.current = some ⟨n + 1, page⟩ ∧ f' = { f with current := some ⟨n, page⟩ } := by
  unfold poll at h
  split at h
  · simp at h
  · simp at h
  · next n page hc =>
    simp only [Prod.mk.injEq, and_true] at h
    exact ⟨n, page, hc, h.symm⟩

/-- What a script does when it answers. -/
theorem poll_of_ready {f f' : Feed} {page : Result QueryPage} (h : f.poll = (f', .ready page)) :
    f.current = none ∧ f' = f ∧ page = .error f.exhausted
      ∨ f.current = some ⟨0, page⟩ ∧ f' = { f with current := none } := by
  unfold poll at h
  split at h
  · next hc =>
    simp only [Prod.mk.injEq, PageAnswer.ready.injEq] at h
    exact .inl ⟨hc, h.1.symm, h.2.symm⟩
  · next hc =>
    simp only [Prod.mk.injEq, PageAnswer.ready.injEq] at h
    exact .inr ⟨by rw [hc, h.2], h.1.symm⟩
  · simp at h

theorem prompt_poll {f f' : Feed} {page : Result QueryPage} (h : f.poll = (f', .ready page)) :
    f.prompt.poll = (f'.prompt, .ready page) := by
  rcases poll_of_ready h with ⟨hc, rfl, rfl⟩ | ⟨hc, rfl⟩
  · simp [poll, prompt, hc]
  · simp [poll, prompt, hc, FeedPage.prompt]

theorem prompt_of_pending {f f' : Feed} (h : f.poll = (f', .pending)) : f'.prompt = f.prompt := by
  obtain ⟨n, page, hc, rfl⟩ := poll_of_pending h
  simp [prompt, hc, FeedPage.prompt]

end Feed

namespace RowStream

section Poll

variable {s : RowStream} {f f' : Feed} {uri : String}

theorem pollPage_of_pending (h : f.poll = (f', .pending)) :
    pollPage Feed.source s f uri = (s, f', .pending) := by
  simp [pollPage, Feed.source, h]

theorem pollPage_of_ready {page : Result QueryPage} (h : f.poll = (f', .ready page)) :
    pollPage Feed.source s f uri
      = ((s.receive page).1, f', .ofResult (s.receive page).2) := by
  simp [pollPage, Feed.source, h]

theorem pollNext_of_link (h : s.nextUri = some uri) (f : Feed) :
    pollNext Feed.source s f = pollPage Feed.source (s.asking uri) (f.fetch uri) uri := by
  simp only [pollNext, h]
  rfl

end Poll

/-- Whether polling a script and polling it without its waiting come to the same: an answer at once,
or the prompt answer in the next poll. -/
structure RunsAlike {α : Type} (poll : RowStream → Feed → RowStream × Feed × StreamEvent α)
    (s : RowStream) (f : Feed) : Prop where
  answer : (poll s f).2.2 ≠ .pending →
    poll s f.prompt = ((poll s f).1, (poll s f).2.1.prompt, (poll s f).2.2)
  pending : (poll s f).2.2 = .pending →
    poll (poll s f).1 (poll s f).2.1.prompt = poll s f.prompt

theorem pollPage_prompt (s : RowStream) (f : Feed) (uri : String) :
    (pollPage Feed.source s f uri).2.2 ≠ .pending ∧
        pollPage Feed.source s f.prompt uri
          = ((pollPage Feed.source s f uri).1, (pollPage Feed.source s f uri).2.1.prompt,
            (pollPage Feed.source s f uri).2.2)
      ∨ (pollPage Feed.source s f uri).2.2 = .pending
        ∧ (pollPage Feed.source s f uri).1 = s
        ∧ (pollPage Feed.source s f uri).2.1.prompt = f.prompt := by
  rcases hp : f.poll with ⟨f', _ | page⟩
  · refine .inr ?_
    simp [pollPage_of_pending hp, Feed.prompt_of_pending hp]
  · refine .inl ?_
    simp [pollPage_of_ready hp, pollPage_of_ready (Feed.prompt_poll hp)]

/-- Asking for the next page and polling it. -/
theorem runsAlike_of_pollNext {s : RowStream}
    (h : ∀ f, pollItem Feed.source s f = pollNext Feed.source s f) (f : Feed) :
    RunsAlike (pollItem Feed.source) s f := by
  cases hn : s.nextUri with
  | none => constructor <;> simp [h, pollNext, hn]
  | some uri =>
    have hask (f : Feed) : pollItem Feed.source s f
        = pollPage Feed.source (s.asking uri) (f.fetch uri) uri := by
      rw [h, pollNext_of_link hn]
    have hpoll (f : Feed) : pollItem Feed.source (s.asking uri) f
        = pollPage Feed.source (s.asking uri) f uri := by
      simp [pollItem, asking]
    rcases pollPage_prompt (s.asking uri) (f.fetch uri) uri with ⟨hne, hp⟩ | ⟨he, hs, hf⟩
    · refine ⟨fun _ => ?_, fun h => absurd (hask f ▸ h) hne⟩
      rw [hask, hask, ← Feed.prompt_fetch, hp]
    · refine ⟨fun h => absurd (hask f ▸ he) h, fun _ => ?_⟩
      rw [hask f, hs, hf, hpoll, hask, Feed.prompt_fetch]

theorem runsAlike_pollItem (s : RowStream) (f : Feed) : RunsAlike (pollItem Feed.source) s f := by
  cases hs : s.state with
  | idle => exact runsAlike_of_pollNext (fun f => by simp [pollItem, hs]) f
  | fetching uri =>
    have hpoll (f : Feed) : pollItem Feed.source s f = pollPage Feed.source s f uri := by
      simp [pollItem, hs]
    rcases pollPage_prompt s f uri with ⟨hne, h⟩ | ⟨he, hst, hf⟩
    · refine ⟨fun _ => ?_, fun hp => absurd (hpoll f ▸ hp) hne⟩
      rw [hpoll, hpoll, h]
    · refine ⟨fun hp => absurd (hpoll f ▸ he) hp, fun _ => ?_⟩
      rw [hpoll f, hst, hf]
  | hasRows =>
    cases hb : s.buffer with
    | nil => exact runsAlike_of_pollNext (fun f => by simp [pollItem, hs, hb]) f
    | cons raw rest => constructor <;> simp [pollItem, hs, hb]
  | exhausted | failed | closed => constructor <;> simp [pollItem, hs]

theorem poll_congr {σ : Type} (src : PageSource σ) {s s' : RowStream} {w w' : σ}
    (h : pollItem src s w = pollItem src s' w') : poll src s w = poll src s' w' := by
  rw [poll_eq, poll_eq src s', h]

theorem runsAlike_poll (s : RowStream) (f : Feed) : RunsAlike (poll Feed.source) s f := by
  fun_induction poll Feed.source s f with
  | case1 s f s' f' c hp hlt ih =>
    have hs := (runsAlike_pollItem s f).answer (by simp [hp])
    simp only [hp] at hs
    have hstep : poll Feed.source s f = poll Feed.source s' f' := by rw [poll_eq, hp]
    have hprompt : poll Feed.source s f.prompt = poll Feed.source s' f'.prompt := by
      rw [poll_eq, hs]
    exact ⟨by rw [hstep, hprompt]; exact ih.answer, by rw [hstep, hprompt]; exact ih.pending⟩
  | case2 s f s' f' r hp | case3 s f s' f' e hp | case5 s f s' f' hp =>
    have hs := (runsAlike_pollItem s f).answer (by simp [hp])
    simp only [hp] at hs
    constructor <;> simp [poll_eq Feed.source s, hp, hs]
  | case4 s f s' f' hp =>
    have hs := (runsAlike_pollItem s f).pending (by simp [hp])
    simp only [hp] at hs
    have hstep : poll Feed.source s f = (s', f', .pending) := by rw [poll_eq, hp]
    refine ⟨fun h => absurd (congrArg (·.2.2) hstep) h, fun _ => ?_⟩
    rw [hstep]
    exact poll_congr Feed.source hs

theorem runsAlike_mode_poll (mode : ReadMode) (s : RowStream) (f : Feed) :
    RunsAlike (mode.poll Feed.source) s f := by
  cases mode with
  | items => exact runsAlike_pollItem s f
  | rows =>
    have h := runsAlike_poll s f
    refine ⟨fun hne => ?_, fun he => ?_⟩
    · simp only [ReadMode.poll, ne_eq, StreamEvent.map_eq_pending] at hne ⊢
      rw [h.answer hne]
    · simp only [ReadMode.poll, StreamEvent.map_eq_pending] at he ⊢
      rw [h.pending he]

/-! ## Runs without waiting -/

/-- What polls came to, without those that had to wait. -/
def answers {α : Type} [DecidableEq α] (events : List (StreamEvent α)) : List (StreamEvent α) :=
  events.filter (· ≠ .pending)

section Answers

variable {α : Type} [DecidableEq α]

@[simp] theorem answers_pending (events : List (StreamEvent α)) :
    answers (.pending :: events) = answers events := by
  simp [answers]

theorem answers_cons {e : StreamEvent α} (he : e ≠ .pending) (events : List (StreamEvent α)) :
    answers (e :: events) = e :: answers events := by
  simp [answers, he]

theorem mem_answers {e : StreamEvent α} {events : List (StreamEvent α)} :
    e ∈ answers events ↔ e ∈ events ∧ e ≠ .pending := by
  simp [answers]

/-- Polls that came to nothing ended waiting. -/
theorem getLast?_of_answers_eq_nil {events : List (StreamEvent α)} (h : answers events = []) :
    (StreamEvent.pending :: events).getLast? = some .pending := by
  rw [List.getLast?_cons]
  cases hl : events.getLast? with
  | none => rfl
  | some e =>
    have he : e = .pending := by simpa using List.filter_eq_nil_iff.1 h e (List.mem_of_getLast? hl)
    simp [he]

omit [DecidableEq α] in
theorem getLast?_of_cons {e : StreamEvent α} {events : List (StreamEvent α)}
    (h : (e :: events).getLast? ≠ some .pending) : events.getLast? ≠ some .pending := by
  intro hl
  simp [List.getLast?_cons, hl] at h

end Answers

/-- A run depends on its first poll alone. -/
theorem run_congr {σ : Type} (src : PageSource σ) {s s' : RowStream} {w w' : σ} {mode : ReadMode}
    (h : mode.poll src s w = mode.poll src s' w') (modes : List ReadMode) :
    s.run src w (mode :: modes) = s'.run src w' (mode :: modes) := by
  rw [run_cons, run_cons, h]

/-- A run of a script comes to the answers of a prompt run, and where it does not end waiting it
ends where that run does. -/
theorem run_prompt (mode : ReadMode) (n : Nat) (s : RowStream) (f : Feed) :
    let r := s.run Feed.source f (List.replicate n mode)
    let p := s.run Feed.source f.prompt (List.replicate (answers r.events).length mode)
    answers r.events = p.events
      ∧ (r.events.getLast? ≠ some .pending →
          r.stream = p.stream ∧ r.source.prompt = p.source) := by
  induction n generalizing s f with
  | zero => exact ⟨rfl, fun _ => ⟨rfl, rfl⟩⟩
  | succ n ih =>
    have hnow := (runsAlike_mode_poll mode s f).answer
    have hnext := (runsAlike_mode_poll mode s f).pending
    simp only [List.replicate_succ, run_cons]
    rcases hp : mode.poll Feed.source s f with ⟨s', f', e⟩
    simp only [hp] at hnow hnext
    obtain ⟨hev, hend⟩ := ih s' f'
    by_cases he : e = .pending
    · subst he
      simp only [answers_pending]
      -- The poll that waited is left out; the prompt run starts where the next one looks.
      cases hk : (answers (s'.run Feed.source f' (List.replicate n mode)).events).length with
      | zero =>
        have hnil := List.eq_nil_of_length_eq_zero hk
        exact ⟨hnil, fun hl => absurd (getLast?_of_answers_eq_nil hnil) hl⟩
      | succ k =>
        rw [hk, List.replicate_succ, run_congr Feed.source (hnext rfl)] at hev hend
        exact ⟨hev, fun hl => hend (getLast?_of_cons hl)⟩
    · simp only [answers_cons he, List.length_cons, List.replicate_succ, run_cons, hnow he]
      exact ⟨by rw [← hev], fun hl => hend (getLast?_of_cons hl)⟩

/-! ## Runs to the end -/

section End

variable {σ : Type} (src : PageSource σ)

theorem nearer_mode_poll (mode : ReadMode) (s : RowStream) (w : σ)
    (h : (mode.poll src s w).2.2.isLast = false) :
    Nearer src (mode.poll src s w).1 (mode.poll src s w).2.1 s w := by
  have hgo {α : Type} {e : StreamEvent α} (he : e.isLast = false) :
      e = .pending ∨ ∃ a, e = .item a := by
    cases e <;> simp_all [StreamEvent.isLast]
  cases mode with
  | rows => exact nearer_poll src s w (hgo (by simpa [ReadMode.poll] using h))
  | items => exact nearer_pollItem src s w (hgo h)

/-- A stream that is polled again and again comes to its end. -/
theorem exists_over_run (mode : ReadMode) (s : RowStream) (w : σ) :
    ∃ n, .over ∈ (s.run src w (List.replicate n mode)).events := by
  cases hl : (mode.poll src s w).2.2.isLast with
  | true =>
    refine ⟨2, ?_⟩
    have ht := mode_poll_of_isLast src hl
    simp [List.replicate_succ, run_cons, mode_poll_of_terminated src ht]
  | false =>
    have hnear := nearer_mode_poll src mode s w hl
    obtain ⟨n, hn⟩ := exists_over_run mode (mode.poll src s w).1 (mode.poll src s w).2.1
    exact ⟨n + 1, by simp [List.replicate_succ, run_cons, hn]⟩
termination_by (src.remaining w, s.buffer.length)
decreasing_by exact StreamReader.lex_of_nearer hnear

theorem run_replicate_of_le (mode : ReadMode) (s : RowStream) (w : σ) {k n : Nat} (h : k ≤ n) :
    let r := s.run src w (List.replicate k mode)
    let later := r.stream.run src r.source (List.replicate (n - k) mode)
    s.run src w (List.replicate n mode)
      = ⟨later.stream, later.source, r.events ++ later.events⟩ := by
  intro r later
  rw [← Nat.add_sub_cancel' h, ← List.replicate_append_replicate, run_append]

/-- A run that came to its end stays there. -/
theorem run_replicate_of_over {mode : ReadMode} {s : RowStream} {w : σ} {k n : Nat} (h : k ≤ n)
    (ho : .over ∈ (s.run src w (List.replicate k mode)).events) :
    let r := s.run src w (List.replicate k mode)
    s.run src w (List.replicate n mode)
      = ⟨r.stream, r.source, r.events ++ List.replicate (n - k) .over⟩ := by
  intro r
  have ht : r.stream.state.isTerminated = true := run_of_isLast src ho rfl
  rw [run_replicate_of_le src mode s w h, run_of_terminated src ht, List.map_replicate]

end End

/-! ## How long a script can wait -/

end RowStream

namespace Feed

/-- How many polls a script can still leave waiting. -/
def waiting (f : Feed) : Nat :=
  f.total (·.pending)

theorem waiting_of_pending {f f' : Feed} (h : f.poll = (f', .pending)) :
    f'.waiting + 1 = f.waiting := by
  obtain ⟨n, page, hc, rfl⟩ := poll_of_pending h
  simp only [waiting, total, hc, Option.map_some, Option.getD_some]
  omega

theorem waiting_of_ready {f f' : Feed} {page : Result QueryPage} (h : f.poll = (f', .ready page)) :
    f'.waiting ≤ f.waiting := by
  rcases poll_of_ready h with ⟨hc, rfl, rfl⟩ | ⟨hc, rfl⟩
  · exact Nat.le_refl _
  · simp [waiting, total]

end Feed

namespace RowStream

/-- How many polls an event stands for that came to nothing. -/
def waits {α : Type} : StreamEvent α → Nat
  | .pending => 1
  | .item _ | .failure _ | .over => 0

@[simp] theorem waits_map {α β : Type} (g : α → β) (e : StreamEvent α) :
    waits (e.map g) = waits e := by
  cases e <;> rfl

@[simp] theorem waits_ofResult {α : Type} (r : Result α) : waits (.ofResult r) = 0 := by
  cases r <;> rfl

theorem waiting_pollPage (s : RowStream) (f : Feed) (uri : String) :
    (pollPage Feed.source s f uri).2.1.waiting + waits (pollPage Feed.source s f uri).2.2
      ≤ f.waiting := by
  rcases hp : f.poll with ⟨f', _ | page⟩
  · simpa [pollPage_of_pending hp, waits] using Nat.le_of_eq (Feed.waiting_of_pending hp)
  · simpa [pollPage_of_ready hp] using Feed.waiting_of_ready hp

theorem waiting_pollNext (s : RowStream) (f : Feed) :
    (pollNext Feed.source s f).2.1.waiting + waits (pollNext Feed.source s f).2.2
      ≤ f.waiting := by
  unfold pollNext
  split
  · next uri _ =>
    exact Nat.le_trans (waiting_pollPage _ _ _) (f.total_fetch_le _ uri)
  · simp [waits]

theorem waiting_pollItem (s : RowStream) (f : Feed) :
    (pollItem Feed.source s f).2.1.waiting + waits (pollItem Feed.source s f).2.2
      ≤ f.waiting := by
  unfold pollItem
  split
  · simp
  · exact waiting_pollNext s f
  · exact waiting_pollNext s f
  · exact waiting_pollPage s f _
  all_goals simp [waits]

theorem waiting_poll (s : RowStream) (f : Feed) :
    (poll Feed.source s f).2.1.waiting + waits (poll Feed.source s f).2.2 ≤ f.waiting := by
  fun_induction poll Feed.source s f with
  | case1 s f s' f' c hp hlt ih =>
    have hstep := waiting_pollItem s f
    simp only [hp] at hstep
    omega
  | case2 s f s' f' r hp | case3 s f s' f' e hp | case4 s f s' f' hp | case5 s f s' f' hp =>
    simpa [hp, waits] using waiting_pollItem s f

theorem waiting_mode_poll (mode : ReadMode) (s : RowStream) (f : Feed) :
    (mode.poll Feed.source s f).2.1.waiting + waits (mode.poll Feed.source s f).2.2
      ≤ f.waiting := by
  cases mode with
  | rows => simpa [ReadMode.poll] using waiting_poll s f
  | items => exact waiting_pollItem s f

/-- All polls come to an answer but those that the script leaves waiting. -/
theorem length_le_answers_add_waiting (modes : List ReadMode) (s : RowStream) (f : Feed) :
    modes.length ≤ (answers (s.run Feed.source f modes).events).length + f.waiting := by
  induction modes generalizing s f with
  | nil => exact Nat.zero_le _
  | cons mode modes ih =>
    have hstep := waiting_mode_poll mode s f
    have hrest := ih (mode.poll Feed.source s f).1 (mode.poll Feed.source s f).2.1
    rw [run_cons]
    by_cases he : (mode.poll Feed.source s f).2.2 = .pending
    · simp only [he, waits, answers_pending, List.length_cons] at hstep ⊢
      omega
    · simp only [answers_cons he, List.length_cons]
      omega

/-! ## Scripts that differ in their waiting -/

/-- Two runs read the same: as far as both go they come to the same answers, where they have come to
as many and none of them waits they have asked for the same and hold the same, and so they do at the
end. -/
structure SameReading (a b : StreamRun Feed) : Prop where
  answers : answers a.events <+: answers b.events ∨ answers b.events <+: answers a.events
  abreast : (RowStream.answers a.events).length = (RowStream.answers b.events).length →
    a.events.getLast? ≠ some .pending → b.events.getLast? ≠ some .pending →
      a.stream = b.stream ∧ a.source.calls = b.source.calls
  ended : .over ∈ a.events → .over ∈ b.events →
    (RowStream.answers a.events).filter (· ≠ .over)
        = (RowStream.answers b.events).filter (· ≠ .over)
      ∧ a.stream = b.stream ∧ a.source.calls = b.source.calls

theorem SameReading.symm {a b : StreamRun Feed} (h : SameReading a b) : SameReading b a where
  answers := h.answers.symm
  abreast hl hb ha := by
    obtain ⟨hs, hc⟩ := h.abreast hl.symm ha hb
    exact ⟨hs.symm, hc.symm⟩
  ended hb ha := by
    obtain ⟨he, hs, hc⟩ := h.ended ha hb
    exact ⟨he.symm, hs.symm, hc.symm⟩

theorem calls_eq_of_prompt {f g p : Feed} (hf : f.prompt = p) (hg : g.prompt = p) :
    f.calls = g.calls := by
  rw [← f.prompt_calls, ← g.prompt_calls, hf, hg]

theorem sameReading_of_le {f g : Feed} (hfg : f.prompt = g.prompt) (mode : ReadMode)
    (s : RowStream) (m n : Nat)
    (hle : (answers (s.run Feed.source f (List.replicate m mode)).events).length
      ≤ (answers (s.run Feed.source g (List.replicate n mode)).events).length) :
    SameReading (s.run Feed.source f (List.replicate m mode))
      (s.run Feed.source g (List.replicate n mode)) := by
  obtain ⟨hev, hend⟩ := run_prompt mode m s f
  obtain ⟨hev', hend'⟩ := run_prompt mode n s g
  rw [← hfg] at hev' hend'
  refine ⟨.inl ?_, fun hlen hm hn => ?_, fun hm hn => ?_⟩
  · rw [hev, hev', run_replicate_of_le Feed.source mode s _ hle]
    exact List.prefix_append _ _
  · obtain ⟨hs, hw⟩ := hend hm
    obtain ⟨hs', hw'⟩ := hend' hn
    rw [← hlen] at hs' hw'
    exact ⟨hs.trans hs'.symm, calls_eq_of_prompt hw hw'⟩
  · obtain ⟨hs, hw⟩ := hend (by rw [getLast?_run_of_over Feed.source hm]; simp)
    obtain ⟨hs', hw'⟩ := hend' (by rw [getLast?_run_of_over Feed.source hn]; simp)
    have ho := mem_answers.2 ⟨hm, by simp⟩
    rw [hev] at ho
    rw [run_replicate_of_over Feed.source hle ho] at hev' hs' hw'
    refine ⟨?_, hs.trans hs'.symm, calls_eq_of_prompt hw hw'⟩
    rw [hev', hev]
    simp

theorem sameReading_run {f g : Feed} (hfg : f.prompt = g.prompt) (mode : ReadMode) (s : RowStream)
    (m n : Nat) :
    SameReading (s.run Feed.source f (List.replicate m mode))
      (s.run Feed.source g (List.replicate n mode)) := by
  rcases Nat.le_total (answers (s.run Feed.source f (List.replicate m mode)).events).length
    (answers (s.run Feed.source g (List.replicate n mode)).events).length with h | h
  · exact sameReading_of_le hfg mode s m n h
  · exact (sameReading_of_le hfg.symm mode s n m h).symm

/-! ## All runs -/

/-- In every run pages are fetched lazily, one at a time and in the order of their links. Every
script can be read to its end, and scripts that differ in their waiting alone come to the same
answers, the same fetches and the same stream. -/
theorem fetchesInTurn_and_timing {first : QueryPage} {s₀ : RowStream} (h : start first = .ok s₀) :
    (∀ {σ : Type} (src : PageSource σ) (w : σ) (modes : List ReadMode),
        FetchesInTurn src first (s₀.run src.recorded ⟨w, []⟩ modes))
      ∧ ∀ f g : Feed, f.prompt = g.prompt → ∀ mode : ReadMode,
        (∃ n, .over ∈ (s₀.run Feed.source f (List.replicate n mode)).events)
          ∧ ∀ m n, SameReading (s₀.run Feed.source f (List.replicate m mode))
              (s₀.run Feed.source g (List.replicate n mode)) :=
  ⟨fun src w modes => fetchesInTurn_run src w h modes,
    fun f _ hfg mode =>
      ⟨exists_over_run Feed.source mode s₀ f, fun m n => sameReading_run hfg mode s₀ m n⟩⟩

theorem fetchesInTurn_and_timing_one_row :
    let first : QueryPage :=
      { id := "q1", schema := [⟨"n", "Int8"⟩], data := [[some "7"]], nextUri := some "/p/1" }
    let slow : Feed := { script := [⟨3, .ok { id := "q1" }⟩], exhausted := .emptyResult }
    let quick : Feed := { script := [⟨0, .ok { id := "q1" }⟩], exhausted := .emptyResult }
    ∃ s₀, start first = .ok s₀
      ∧ FetchesInTurn Feed.source first (s₀.run Feed.source.recorded ⟨slow, []⟩ [.rows, .rows])
      ∧ ∀ m n, SameReading (s₀.run Feed.source slow (List.replicate m .rows))
          (s₀.run Feed.source quick (List.replicate n .rows)) := by
  intro first slow quick
  have hok : (start first).isOk = true := by decide +kernel
  obtain ⟨s₀, h⟩ := exists_start hok
  have hboth := fetchesInTurn_and_timing h
  exact ⟨s₀, h, hboth.1 Feed.source slow [.rows, .rows], (hboth.2 slow quick rfl .rows).2⟩

end RowStream

end QueryClient
