import QueryClient.Proofs.Stream.History

/-!
# Cancelling a query

However a stream was read, letting go of it cancels the query if and only if the last page that was
taken over has a link whose page has not arrived and some such page said how to cancel; the link is
the one that was given last (`Tracks.pendingKill?_eq`). A stream that was closed is dropped
afterwards, and that drop calls nothing (`drop_closed`). Reading never cancels.
-/

namespace QueryClient

variable {σ : Type}

/-- The link that the query is to be cancelled with, if pages are still due. -/
def History.cancel? (h : History) : Option String :=
  h.due.bind fun _ => latestKill h.pages

theorem History.latestKill_isSome (pages : List QueryPage) :
    (latestKill pages).isSome ↔ ∃ page ∈ pages, page.killUri.isSome := by
  simp [latestKill, List.findSome?_isSome_iff]

theorem History.cancel?_isSome (h : History) :
    h.cancel?.isSome ↔ h.due.isSome ∧ ∃ page ∈ h.pages, page.killUri.isSome := by
  rw [← latestKill_isSome]
  cases hd : h.due <;> simp [cancel?, hd]

/-- How a reader lets go of a stream. -/
inductive Ending where
  | close
  | drop
  deriving DecidableEq, Repr

namespace Ending

/-- The source after the reader let go of a stream. A stream that was closed is dropped then. -/
def finish (src : PageSource σ) (ending : Ending) (s : RowStream) (w : σ) : σ :=
  match ending with
  | .close =>
    let (s, w, _) := RowStream.close src s w
    RowStream.drop src s w
  | .drop => RowStream.drop src s w

/-- The call that cancels a query. -/
def call (src : PageSource σ) (w : σ) (uri : String) : Ending → Exchange
  | .close => .killed uri (src.kill w uri).2
  | .drop => .killedDetached uri

end Ending

namespace RowStream

section Finish

variable (src : PageSource σ)

theorem drop_of_none {s : RowStream} (h : s.pendingKill? = none) (w : σ) : drop src s w = w := by
  simp [drop, h]

/-- A closed stream has nothing to cancel. -/
theorem drop_closed (s : RowStream) (w : σ) : drop src s.closed w = w :=
  drop_of_none src rfl w

theorem transcript_finish (ending : Ending) (s : RowStream) (w : Recorded σ) :
    (ending.finish src.recorded s w).transcript =
      w.transcript ++ s.pendingKill?.toList.map fun uri => ending.call src w.source uri := by
  cases ending with
  | close =>
    cases hk : s.pendingKill? with
    | none => simp [Ending.finish, close, hk, drop_closed]
    | some uri => simp [Ending.finish, close, hk, drop_closed, Ending.call]
  | drop =>
    cases hk : s.pendingKill? with
    | none => simp [Ending.finish, drop, hk]
    | some uri => simp [Ending.finish, drop, hk, Ending.call]

/-- A stream that was not taken over has no link, so nothing is cancelled. -/
theorem drop_create {first : QueryPage} {s : RowStream} {e : Error}
    (h : create first = (s, .error e)) (w : σ) : drop src s w = w := by
  unfold create at h
  refine drop_of_none src ?_ w
  rcases absorb_of_error h with rfl | rfl <;> rfl

end Finish

section Kills

variable {s s' : RowStream} {t d : Transcript} {first : QueryPage}

theorem Move.kills_eq_nil (h : Move s d s') : d.kills = [] := by
  cases h <;> rfl

theorem Moves.kills_eq_nil (h : Moves s d s') : d.kills = [] := by
  induction h with
  | refl => rfl
  | step before last ih => rw [Transcript.kills_append, ih, last.kills_eq_nil, List.nil_append]

/-- The cancellation that a stream has pending is the one of its history. -/
theorem Tracks.pendingKill?_eq (h : Tracks first s t) :
    s.pendingKill? = (History.of first t).cancel? := by
  rw [History.cancel?, h.due, ← h.killUri]
  cases hs : s.state with
  | idle | hasRows | failed =>
    rw [due_eq_nextUri (by simp [hs])]
    cases hn : s.nextUri <;> simp [pendingKill?, hs, hn]
  | fetching uri => simp [pendingKill?, hs, due_of_fetching hs]
  | exhausted =>
    rw [due_eq_nextUri (by simp [hs]), (h.coherent.of_exhausted hs).2]
    simp [pendingKill?, hs]
  | closed => exact absurd hs h.ne_closed

end Kills

theorem kills_call (src : PageSource σ) (ending : Ending) (w : σ) (o : Option String) :
    Transcript.kills (o.toList.map fun uri => ending.call src w uri) = o.toList := by
  cases o <;> cases ending <;> rfl

/-- A reader that lets go of a stream cancels the query at most once: if the last page that was
taken over has a link whose page has not arrived, and some such page said how to cancel. The last
one to say so counts. Closing waits for the outcome and dropping does not, and reading never
cancels. A first page that is not taken over leaves a stream that cancels nothing when it is
dropped. -/
theorem finish_of_run (src : PageSource σ) (w : σ) (first : QueryPage) :
    match create first with
    | (s, .error _) => drop src.recorded s ⟨w, []⟩ = ⟨w, []⟩
    | (s, .ok ()) => ∀ modes ending,
      let r := s.run src.recorded ⟨w, []⟩ modes
      let h := History.of first r.source.transcript
      let t := (Ending.finish src.recorded ending r.stream r.source).transcript
      t = r.source.transcript
          ++ h.cancel?.toList.map (fun uri => ending.call src r.source.source uri)
        ∧ r.source.transcript.kills = []
        ∧ t.kills = h.cancel?.toList
        ∧ t.kills.length ≤ 1
        ∧ (t.kills.length = 1 ↔
            h.due.isSome ∧ ∃ page ∈ h.pages, page.killUri.isSome) := by
  split
  · next hc => exact drop_create src.recorded hc _
  · next s hc =>
    intro modes ending r h t
    have hstart : start first = .ok s := by simp only [start, hc]
    have ht : Tracks first r.stream r.source.transcript := tracks_run src w hstart modes
    obtain ⟨d, hd, hm⟩ := moves_run src (coherent_start hstart) ⟨w, []⟩ modes
    have hnil : r.source.transcript.kills = [] := by
      simpa [r, hd] using hm.kills_eq_nil
    have hfin : t = r.source.transcript
        ++ h.cancel?.toList.map (fun uri => ending.call src r.source.source uri) := by
      rw [← ht.pendingKill?_eq]
      exact transcript_finish src ending r.stream r.source
    have hkills : t.kills = h.cancel?.toList := by
      rw [hfin, Transcript.kills_append, hnil, kills_call, List.nil_append]
    refine ⟨hfin, hnil, hkills, ?_, ?_⟩
    · rw [hkills]
      cases h.cancel? <;> simp
    · rw [hkills, ← h.cancel?_isSome]
      cases h.cancel? <;> simp

end RowStream

end QueryClient
