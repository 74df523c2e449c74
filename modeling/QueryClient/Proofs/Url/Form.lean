import QueryClient.Proofs.Text.Split
import QueryClient.Proofs.Url.Percent
import QueryClient.Url.Form

/-!
# Forms and back

Neither a name nor a value holds an `&` or a `=` once it is encoded, so the pairs of a form are read as
they were written (`pairs_encodePairs`).
-/

namespace QueryClient.Url.Form

open QueryClient.Text Percent

/-- A blank is a plus, and all else is written as elsewhere in a URL. -/
theorem mem_encode {s : String} {c : Char} (h : c ∈ encode s) :
    c = '+' ∨ isWritten formSet c = true := by
  obtain ⟨d, -, hd⟩ := List.mem_flatMap.1 h
  split at hd
  · exact .inl (List.mem_singleton.1 hd)
  · exact .inr (isWritten_of_mem_encodeChar hd)

theorem ne_of_mem_encode {s : String} {c : Char} (h : c ∈ encode s) :
    c ≠ '&' ∧ c ≠ '=' ∧ c ≠ '#' := by
  rcases mem_encode h with rfl | h
  · decide
  · exact of_isWritten (P := fun c => c ≠ '&' ∧ c ≠ '=' ∧ c ≠ '#') (by decide +kernel) h

theorem map_encode (s : String) :
    ((encode s).map fun c => if c = '+' then ' ' else c)
      = s.toList.flatMap fun c => if c = ' ' then [' '] else encodeChar formSet c := by
  have hplus {c d : Char} (h : d ∈ encodeChar formSet c) : d ≠ '+' :=
    of_isWritten (P := (· ≠ '+')) (by decide +kernel) (isWritten_of_mem_encodeChar h)
  rw [encode, List.map_flatMap]
  congr 1
  funext c
  split
  · rfl
  · refine (List.map_congr_left fun d hd => if_neg (hplus hd)).trans ?_
    rw [List.map_id']

theorem decodeBytes_blanks (s : List Char) :
    decodeBytes (Utf8.encode (s.flatMap fun c => if c = ' ' then [' '] else encodeChar formSet c))
      = Utf8.encode s := by
  induction s with
  | nil => rfl
  | cons c s ih =>
    rw [List.flatMap_cons, Utf8.encode_append]
    have hsplit : Utf8.encode (c :: s) = Utf8.encode [c] ++ Utf8.encode s := by
      simp [Utf8.encode]
    by_cases hc : c = ' '
    · subst hc
      have hblank : Utf8.encode [' '] = [0x20] := by decide
      rw [if_pos rfl, hsplit, hblank, List.singleton_append, List.singleton_append,
        decodeBytes_cons_of_ne (by decide), ih]
    · rw [if_neg hc, hsplit, decodeBytes_encodeChar (by decide), ih]

theorem decode_encode (s : String) : decode (encode s) = s := by
  rw [decode, map_encode, Percent.decode, decodeBytes_blanks, Utf8.decodeLossy_encode,
    String.ofList_toList]

theorem pair_encodePair (p : String × String) : pair (encodePair p) = p := by
  have hname : ∀ c ∈ encode p.1, decide (c ≠ '=') = true := fun c hc =>
    decide_eq_true (ne_of_mem_encode hc).2.1
  have htake := takeWhile_append_cons hname (d := '=') (by decide) (encode p.2)
  have hdrop := dropWhile_append_cons hname (d := '=') (by decide) (encode p.2)
  rw [pair, encodePair, htake, hdrop, List.tail_cons, decode_encode, decode_encode]

theorem mem_encodePair {p : String × String} {c : Char} (h : c ∈ encodePair p) :
    c = '=' ∨ c = '+' ∨ isWritten formSet c = true := by
  rcases List.mem_append.1 h with h | h
  · exact .inr (mem_encode h)
  · rcases List.mem_cons.1 h with rfl | h
    · exact .inl rfl
    · exact .inr (mem_encode h)

theorem pairs_encodePairs (l : List (String × String)) : pairs (encodePairs l) = l := by
  have hsep : ∀ piece ∈ l.map encodePair, '&' ∉ piece := by
    intro piece hpiece hmem
    obtain ⟨p, -, rfl⟩ := List.mem_map.1 hpiece
    rcases List.mem_append.1 hmem with hmem | hmem
    · exact (ne_of_mem_encode hmem).1 rfl
    · rcases List.mem_cons.1 hmem with hmem | hmem
      · cases hmem
      · exact (ne_of_mem_encode hmem).1 rfl
  have hne : ∀ piece ∈ l.map encodePair, decide (piece ≠ []) = true := by
    intro piece hpiece
    obtain ⟨p, -, rfl⟩ := List.mem_map.1 hpiece
    simp [encodePair]
  by_cases hl : l = []
  · subst hl
    rfl
  · have hsplit : ((encodePairs l).toList.splitOnP (· = '&')) = l.map encodePair := by
      rw [encodePairs, String.toList_ofList]
      exact List.splitOn_intercalate '&' hsep (by simpa using hl)
    rw [pairs, hsplit, List.filter_eq_self.2 hne, List.map_map]
    exact (List.map_congr_left fun p _ => pair_encodePair p).trans (List.map_id' l)

/-- The characters of a form, all of which a query leaves as they are. -/
theorem mem_encodePairs {l : List (String × String)} {c : Char} (h : c ∈ (encodePairs l).toList) :
    Leaves querySet c ∧ 0x20 < c.toNat := by
  rw [encodePairs, String.toList_ofList] at h
  rcases mem_intercalate h with rfl | ⟨piece, hpiece, h⟩
  · unfold Leaves
    decide
  · obtain ⟨p, -, rfl⟩ := List.mem_map.1 hpiece
    unfold Leaves
    rcases mem_encodePair h with rfl | rfl | h
    · decide
    · decide
    · exact of_isWritten (P := fun c => (c.toNat < 0x80 ∧ querySet c = false) ∧ 0x20 < c.toNat)
        (by decide +kernel) h

theorem encodePairs_eq_empty_iff {l : List (String × String)} : encodePairs l = "" ↔ l = [] := by
  constructor
  · intro h
    rw [← pairs_encodePairs l, h]
    rfl
  · rintro rfl
    rfl

end QueryClient.Url.Form
