import QueryClient.Proofs.Load.Reading
import QueryClient.Proofs.Load.Rejection
import QueryClient.Proofs.Session.Upload

/-!
# The width of a load

A row is taken if it has the width in force (`Takes.fits`), and so all rows that are taken have one
width as long as nobody sets another one between them (`Takes.width?_eq`). Such a load is sent with
rows of the width that it ends with, or not at all. The width may be set at any time, though, and
then rows of the new width are taken after rows of the old one (`Takes.resized`).
-/

namespace QueryClient.Load

open Http

/-- The row that a call sends. -/
def Call.row? : Call → Option (List String)
  | .send row => some row
  | .columns _ | .dialect _ => none

/-- The width that a call sets. -/
def Call.set? : Call → Option Nat
  | .columns n => some n
  | .send _ | .dialect _ => none

/-- The rows that calls send, in order. -/
def rowsIn (cs : List Call) : List (List String) :=
  cs.filterMap Call.row?

/-- Whether no call sets another width once a row was sent. -/
def KeepsWidth (cs : List Call) : Prop :=
  ∀ before n after, cs = before ++ .columns n :: after → sends before ≠ 0 → width? before = some n

section Takes

variable {cs ds : List Call} {c : Call} {row : List String}

theorem mem_rowsIn : row ∈ rowsIn cs ↔ .send row ∈ cs := by
  simp only [rowsIn, List.mem_filterMap]
  constructor
  · rintro ⟨c, hc, hrow⟩
    cases c with
    | send r => exact Option.some.inj hrow ▸ hc
    | columns n => cases hrow
    | dialect d => cases hrow
  · exact fun h => ⟨_, h, rfl⟩

theorem takes_concat_iff : Takes (cs ++ [c]) ↔ Takes cs ∧ ∀ f, ¬ Rejects cs c f := by
  constructor
  · intro h
    generalize heq : cs ++ [c] = all at h
    cases h with
    | nil => simp at heq
    | concat h hc =>
      obtain ⟨rfl, hlast⟩ := List.append_inj' heq rfl
      obtain rfl := List.singleton_inj.1 hlast
      exact ⟨h, hc⟩
  · exact fun h => h.1.concat h.2

theorem Takes.of_append (h : Takes (cs ++ ds)) : Takes cs := by
  induction ds using List.reverseRecOn with
  | nil => simpa using h
  | append_singleton ds d ih =>
    rw [← List.append_assoc] at h
    exact ih (takes_concat_iff.1 h).1

theorem not_rejects_send_iff :
    (∀ f, ¬ Rejects cs (.send row) f)
      ↔ (width? cs).getD row.length = row.length ∧ row.length ≠ 0 := by
  constructor
  · intro h
    by_contra hbad
    exact h _ (.width rfl (by omega))
  · rintro ⟨hwidth, hne⟩ f ⟨rfl, hbad⟩
    omega

/-- A row that is taken has a field and the width in force. -/
theorem Takes.fits (h : Takes (cs ++ .send row :: ds)) :
    (width? cs).getD row.length = row.length ∧ row.length ≠ 0 := by
  rw [List.append_cons] at h
  exact not_rejects_send_iff.1 (takes_concat_iff.1 h.of_append).2

theorem keepsWidth_iff :
    KeepsWidth cs ↔ ∀ i : Fin cs.length, ∀ n ∈ cs[i].set?,
      sends (cs.take i) ≠ 0 → width? (cs.take i) = some n := by
  constructor
  · intro h i n hn
    have hcall : cs[i] = .columns n := by
      cases hc : cs[i] <;> simp [hc, Call.set?] at hn
      rw [hn]
    refine h (cs.take i) n (cs.drop (i + 1)) ?_
    rw [← hcall, Fin.getElem_fin, List.cons_getElem_drop_succ, List.take_append_drop]
  · rintro h before n after rfl
    simpa [Call.set?] using h ⟨before.length, by simp⟩ n

instance (cs : List Call) : Decidable (KeepsWidth cs) :=
  decidable_of_iff _ keepsWidth_iff.symm

theorem keepsWidth_concat_iff :
    KeepsWidth (cs ++ [c])
      ↔ KeepsWidth cs ∧ ∀ n, c = .columns n → sends cs ≠ 0 → width? cs = some n := by
  constructor
  · refine fun h => ⟨?_, fun n hc => h cs n [] (by rw [hc])⟩
    rintro before n after rfl
    exact h before n (after ++ [c]) (by simp)
  · rintro ⟨h, hlast⟩ before n after heq
    rcases List.eq_nil_or_concat' after with rfl | ⟨init, last, rfl⟩
    · obtain ⟨rfl, hc⟩ := List.append_inj' heq rfl
      exact hlast n (List.singleton_inj.1 hc)
    · rw [← List.cons_append, ← List.append_assoc] at heq
      obtain ⟨rfl, -⟩ := List.append_inj' heq rfl
      exact h before n init rfl

/-- Rows that are taken have the width that is in force in the end, unless the width was changed
after one of them. -/
theorem Takes.width?_eq (h : Takes cs) (hk : KeepsWidth cs) (hrow : .send row ∈ cs) :
    width? cs = some row.length := by
  induction h with
  | nil => cases hrow
  | @concat cs c h hc ih =>
    obtain ⟨hk, hlast⟩ := keepsWidth_concat_iff.1 hk
    have hwidth (hmem : .send row ∈ cs) : width? cs = some row.length := ih hk hmem
    rw [width?_concat]
    rcases List.mem_append.1 hrow with hmem | hsent
    · cases c with
      | columns n =>
        rw [← hwidth hmem, hlast n rfl (sends_ne_zero_iff.2 ⟨row, hmem⟩)]
        rfl
      | dialect d => exact hwidth hmem
      | send r =>
        rw [Call.width?, hwidth hmem]
        rfl
    · obtain rfl := List.mem_singleton.1 hsent
      obtain ⟨hfits, -⟩ := not_rejects_send_iff.1 hc
      cases hw : width? cs with
      | none => simp [Call.width?]
      | some n =>
        rw [hw, Option.getD_some] at hfits
        simp [Call.width?, hfits]

/-- Setting the width lets a row of that width follow rows of any other. -/
theorem Takes.resized (h : Takes cs) (hrow : row ≠ []) :
    Takes (cs ++ [.columns row.length] ++ [.send row]) := by
  have hset : Takes (cs ++ [.columns row.length]) := h.concat nofun
  refine hset.concat (not_rejects_send_iff.2 ?_)
  rw [width?_concat]
  exact ⟨rfl, mt List.eq_nil_of_length_eq_zero hrow⟩

end Takes

namespace Batch

variable {cs : List Call} {sql : String} {d : Dialect}

theorem accepted_append (b : Batch) (cs ds : List Call) :
    b.accepted (cs ++ ds) = b.accepted cs ++ (b.calls cs).accepted ds := by
  induction cs generalizing b with
  | nil => rfl
  | cons c cs ih =>
    rw [List.cons_append, accepted, accepted, ih, List.append_assoc]
    rfl

/-- A load that takes every call has every row. -/
theorem accepted_of_takes (sql : String) (d : Dialect) (h : Takes cs) :
    accepted { sql, dialect := d } cs = rowsIn cs := by
  induction h with
  | nil => rfl
  | @concat cs c h hc ih =>
    have hrows : rowsIn (cs ++ [c]) = rowsIn cs ++ c.row?.toList := by
      cases c <;> simp [rowsIn, Call.row?]
    rw [accepted_append, ih, hrows]
    congr 1
    cases c with
    | columns n | dialect d => rfl
    | send row =>
      have hsent : ((calls { sql, dialect := d } cs).send row).2 = .ok () := by
        rw [fault_send]
        have hnone := (fault_calls_eq_none_iff sql d _).2 (h.concat hc)
        rwa [calls_append] at hnone
      simp only [accepted, accepted?, hsent, Call.row?, Option.toList_some, List.append_nil]

theorem finalize_of_not_takes (sql : String) (d : Dialect) (h : ¬ Takes cs) (s : Session) :
    ∃ f : BatchFault, s.finalize (calls { sql, dialect := d } cs) = (s, .error f.toError) := by
  rcases takes_or_rejects cs with ht | ⟨taken, c, f, after, rfl, ht, hf⟩
  · exact absurd ht h
  · exact ⟨f, (spoiledBy_calls sql d ht hf after).finalize s⟩

theorem sent_of_takes (sql : String) (d : Dialect) (h : Takes cs) (s : Session) :
    let b := calls { sql, dialect := d } cs
    let written := b.dialect.records ((rowsIn cs).map fieldBytes)
    (s.finalize b).1.network.sent = s.network.sent
      ∨ ∃ r, (s.finalize b).1.network.sent = r :: s.network.sent
        ∧ r.body = .form ⟨"upload", "upload.csv", written, written.length⟩ := by
  intro b written
  have ht : b.Tallies (rowsIn cs) := by
    rw [← accepted_of_takes sql d h]
    exact (tallies_new sql d).calls cs
  exact s.sent_finalize ht

/-- A load that is sent has taken every row, each of the width in force when it was sent. If the
width was not set again after a row, that is the width the load ends with, and a row of any other
width keeps the whole load from being sent. -/
theorem uniform_of_calls (sql : String) (d : Dialect) (cs : List Call) (s : Session) :
    let b := calls { sql, dialect := d } cs
    let rows := rowsIn cs
    let written := b.dialect.records (rows.map fieldBytes)
    ((s.finalize b).1.network.sent ≠ s.network.sent →
        (∃ r, (s.finalize b).1.network.sent = r :: s.network.sent
          ∧ r.body = .form ⟨"upload", "upload.csv", written, written.length⟩)
        ∧ (b.dialect.IsDistinct → b.dialect.read written = some (rows.map fieldBytes))
        ∧ (∀ before row after, cs = before ++ .send row :: after →
          (width? before).getD row.length = row.length ∧ row ≠ [])
        ∧ (KeepsWidth cs → ∀ row ∈ rows, b.columns = some row.length))
      ∧ (KeepsWidth cs → ∀ row ∈ rows, b.columns ≠ some row.length →
        ∃ f : BatchFault, s.finalize b = (s, .error f.toError)) := by
  intro b rows written
  have hwidth (h : Takes cs) (hk : KeepsWidth cs) {row : List String} (hrow : row ∈ rows) :
      b.columns = some row.length := by
    rw [(Follows.calls sql d h).columns]
    exact h.width?_eq hk (mem_rowsIn.1 hrow)
  refine ⟨fun hsent => ?_, fun hk row hrow hne => ?_⟩
  · have h : Takes cs := by
      by_contra hnot
      obtain ⟨f, hf⟩ := finalize_of_not_takes sql d hnot s
      exact hsent (by rw [hf])
    have hfits : ∀ before row after, cs = before ++ .send row :: after →
        (width? before).getD row.length = row.length ∧ row ≠ [] := by
      rintro before row after rfl
      obtain ⟨hwidth, hne⟩ := h.fits
      exact ⟨hwidth, fun hnil => hne (by rw [hnil, List.length_nil])⟩
    have hne : ∀ row ∈ rows.map fieldBytes, row ≠ [] := by
      intro row hrow
      obtain ⟨r, hr, rfl⟩ := List.mem_map.1 hrow
      obtain ⟨before, after, hsplit⟩ := List.append_of_mem (mem_rowsIn.1 hr)
      simpa [fieldBytes] using (hfits before r after hsplit).2
    exact ⟨(sent_of_takes sql d h s).resolve_left hsent, fun hd => Dialect.read_records hd hne,
      hfits, fun hk row hrow => hwidth h hk hrow⟩
  · by_cases h : Takes cs
    · exact absurd (hwidth h hk hrow) hne
    · exact finalize_of_not_takes sql d h s

/-- A width that is set three times, and a width that is set to what the first row gave it. -/
theorem uniform_of_calls_two_rows :
    let c : Config := { transport := .http, host := "[::1]", port := some 8000 }
    let network : Network := { host := "[::1]", port := 8000, script := [.close] }
    let sql := "INSERT INTO t VALUES"
    let sent : List Call := [.columns 3, .columns 2, .send ["a", "b"], .columns 2, .send ["c", ""]]
    let refused : List Call := [.send ["a"], .columns 1, .send ["b", "c"]]
    let b : Batch := calls { sql } sent
    let b' : Batch := calls { sql } refused
    ∃ s, Session.start c "client" network = .ok s
      ∧ (s.finalize b).1.network.sent ≠ s.network.sent
      ∧ KeepsWidth sent ∧ KeepsWidth refused
      ∧ (∃ r content, (s.finalize b).1.network.sent = r :: s.network.sent
        ∧ r.body = .form ⟨"upload", "upload.csv", content, content.length⟩
        ∧ b.dialect.read content = some [[[97], [98]], [[99], []]])
      ∧ b.columns = some 2
      ∧ b'.columns ≠ some 2
      ∧ ∃ f : BatchFault, s.finalize b' = (s, .error f.toError) := by
  intro c network sql sent refused
  dsimp only
  have heval : ((Session.start c "client" network).toOption.map fun s =>
      ((s.finalize (calls { sql } sent)).1.network.sent.length, s.network.sent.length))
      = some (1, 0) := by decide +kernel
  have hrefused : (calls { sql } refused).columns ≠ some 2 := by decide
  have hd : (calls { sql } sent).dialect.IsDistinct := ⟨by decide, by decide, by decide⟩
  have hrows : (rowsIn sent).map fieldBytes = [[[97], [98]], [[99], []]] := by decide
  have hk : KeepsWidth sent := by decide
  have hk' : KeepsWidth refused := by decide
  cases h : Session.start c "client" network with
  | error e => rw [h] at heval; cases heval
  | ok s =>
    rw [h] at heval
    simp only [Except.toOption, Option.map_some, Option.some.injEq, Prod.mk.injEq] at heval
    have hsent : (s.finalize (calls { sql } sent)).1.network.sent ≠ s.network.sent := by
      intro he
      rw [he] at heval
      omega
    obtain ⟨hboth, -⟩ := uniform_of_calls sql {} sent s
    obtain ⟨-, hrefuses⟩ := uniform_of_calls sql {} refused s
    rw [hrows] at hboth
    obtain ⟨⟨r, hr, hbody⟩, hread, -, hwidth⟩ := hboth hsent
    exact ⟨s, rfl, hsent, hk, hk', ⟨r, _, hr, hbody, hread hd⟩,
      hwidth hk ["a", "b"] (by decide), hrefused, hrefuses hk' ["b", "c"] (by decide) hrefused⟩

/-- A width that is set after a row: rows of both widths are sent, and the service is asked to take
them as a load of the second one. -/
theorem mixed_widths_sent :
    let c : Config := { transport := .http, host := "[::1]", port := some 8000 }
    let receipt := Text.Utf8.encode "\x7b\"stats\":\x7b\"rows\":2\x7d\x7d".toList
    let network : Network :=
      { host := "[::1]", port := 8000, script := [.answer ⟨200, some receipt⟩] }
    let b : Batch := calls { sql := "INSERT INTO t VALUES" }
      [.send ["a"], .columns 2, .send ["b", "c"]]
    ∃ s r content, Session.start c "client" network = .ok s
      ∧ b.columns = some 2
      ∧ (s.finalize b).1.network.sent = r :: s.network.sent
      ∧ r.body = .form ⟨"upload", "upload.csv", content, content.length⟩
      ∧ b.dialect.read content = some [[[97]], [[98], [99]]]
      ∧ (s.finalize b).2.isOk = true := by
  intro c receipt network b
  have heval : ((Session.start c "client" network).toOption.map fun s =>
      (s.network.sent.length, (s.finalize b).1.network.sent.length, (s.finalize b).2.isOk))
      = some (0, 1, true) := by decide +kernel
  cases h : Session.start c "client" network with
  | error e => rw [h] at heval; cases heval
  | ok s =>
    rw [h] at heval
    simp only [Except.toOption, Option.map_some, Option.some.injEq, Prod.mk.injEq] at heval
    obtain ⟨hnone, hone, hok⟩ := heval
    have ht : b.Tallies [["a"], ["b", "c"]] :=
      (tallies_new "INSERT INTO t VALUES" {}).calls [.send ["a"], .columns 2, .send ["b", "c"]]
    obtain ⟨r, hr, hbody⟩ := (s.sent_finalize ht).resolve_left fun he => by
      rw [he, hnone] at hone
      cases hone
    exact ⟨s, r, _, rfl, by decide, hr, hbody, by decide, hok⟩

end Batch

end QueryClient.Load
