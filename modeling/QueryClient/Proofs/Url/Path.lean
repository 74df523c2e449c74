import QueryClient.Proofs.Url.Parse
import QueryClient.Proofs.Url.Percent
import Mathlib.Data.List.TakeWhile

/-!
# Paths

A dot segment is one that is decoded to dots (`isSingleDot_iff`, `isDoubleDot_iff`), and no path has one
(`mem_resolve`). What is left of a path without the slashes around it is a segment, if it has no slash
itself (`mem_of_trimWhile`).
-/

namespace QueryClient.Url

open QueryClient.Text Percent

/-! ## Dots -/

section Dots

variable {s t : List Char}

theorem decode_of_dot? (h : dot? s = some t) : decode s = 0x2e :: decode t := by
  have htriple : byte? 0x32 0x45 = some 0x2e ∧ byte? 0x32 0x65 = some 0x2e := by decide
  have hchars : String.utf8EncodeChar '.' = [0x2e] ∧ String.utf8EncodeChar '%' = [0x25]
      ∧ String.utf8EncodeChar '2' = [0x32] ∧ String.utf8EncodeChar 'e' = [0x65]
      ∧ String.utf8EncodeChar 'E' = [0x45] := by decide
  obtain ⟨hdot, hpercent, htwo, hlow, hup⟩ := hchars
  unfold dot? at h
  split at h
  · obtain rfl := Option.some.inj h
    rw [decode, Utf8.encode_cons, hdot]
    exact decodeBytes_cons_of_ne (by decide) _
  · obtain rfl := Option.some.inj h
    rw [decode, Utf8.encode_cons, Utf8.encode_cons, Utf8.encode_cons, hpercent, htwo, hlow]
    exact decodeBytes_triple htriple.2 _
  · obtain rfl := Option.some.inj h
    rw [decode, Utf8.encode_cons, Utf8.encode_cons, Utf8.encode_cons, hpercent, htwo, hup]
    exact decodeBytes_triple htriple.1 _
  · cases h

theorem digits_of_byte? {hi lo : UInt8} (h : byte? hi lo = some 0x2e) :
    hi = 0x32 ∧ (lo = 0x45 ∨ lo = 0x65) := by
  have hdigit {b : UInt8} {n : Nat} (h : hexValue? b = some n) :
      n < 16 ∧ (n = 2 → b.toNat = 0x32) ∧ (n = 14 → b.toNat = 0x45 ∨ b.toNat = 0x65) := by
    unfold hexValue? at h
    dsimp only at h
    split at h
    · obtain rfl := Option.some.inj h
      omega
    · split at h
      · obtain rfl := Option.some.inj h
        omega
      · split at h
        · obtain rfl := Option.some.inj h
          omega
        · cases h
  obtain ⟨x, hx, h⟩ := Option.bind_eq_some_iff.1 h
  obtain ⟨y, hy, h⟩ := Option.bind_eq_some_iff.1 h
  obtain ⟨hx, hhi, -⟩ := hdigit hx
  obtain ⟨hy, -, hlo⟩ := hdigit hy
  have hvalue : x * 16 + y = 0x2e := by
    have hn := congrArg UInt8.toNat (Option.some.inj h)
    have hb : (UInt8.ofNat (x * 16 + y)).toNat = x * 16 + y :=
      UInt8.toNat_ofNat_of_lt (show x * 16 + y < 256 by omega)
    exact hb ▸ hn
  refine ⟨UInt8.toNat_inj.1 (hhi (by omega)), (hlo (by omega)).imp ?_ ?_⟩
  · exact fun h => UInt8.toNat_inj.1 h
  · exact fun h => UInt8.toNat_inj.1 h

theorem exists_dot? {bs : List UInt8} (h : decode s = 0x2e :: bs) :
    ∃ t, dot? s = some t ∧ decode t = bs := by
  obtain ⟨unit, rest, hunit, hs, hrest⟩ := spells_of_decodeBytes h
  cases hunit with
  | byte =>
    obtain ⟨t, rfl, ht⟩ := Utf8.encode_eq_cons (by decide) hs
    exact ⟨t, rfl, by rw [decode, ht]; exact hrest⟩
  | triple hx =>
    obtain ⟨rfl, hlo⟩ := digits_of_byte? hx
    obtain ⟨t, rfl, ht⟩ := Utf8.encode_eq_cons (by decide) hs
    obtain ⟨u, rfl, hu⟩ := Utf8.encode_eq_cons (by decide) ht
    rcases hlo with rfl | rfl
    · obtain ⟨v, rfl, hv⟩ := Utf8.encode_eq_cons (by decide) hu
      exact ⟨v, rfl, by rw [decode, hv]; exact hrest⟩
    · obtain ⟨v, rfl, hv⟩ := Utf8.encode_eq_cons (by decide) hu
      exact ⟨v, rfl, by rw [decode, hv]; exact hrest⟩

theorem isSingleDot_iff : isSingleDot s = true ↔ decode s = [0x2e] := by
  constructor
  · intro h
    have hdot : dot? s = some [] := by simpa [isSingleDot] using h
    rw [decode_of_dot? hdot]
    rfl
  · intro h
    obtain ⟨t, ht, hnil⟩ := exists_dot? h
    obtain rfl := decode_eq_nil_iff.1 hnil
    simp [isSingleDot, ht]

theorem isDoubleDot_iff : isDoubleDot s = true ↔ decode s = [0x2e, 0x2e] := by
  constructor
  · intro h
    unfold isDoubleDot at h
    cases hdot : dot? s with
    | none => simp [hdot] at h
    | some t =>
      rw [hdot, Option.any_some] at h
      rw [decode_of_dot? hdot, isSingleDot_iff.1 h]
  · intro h
    obtain ⟨t, ht, hnext⟩ := exists_dot? h
    simp [isDoubleDot, ht, isSingleDot_iff.2 hnext]

theorem mem_of_dot? (h : dot? s = some t) {c : Char} (hc : c ∈ s) :
    c ∈ ".%2eE".toList ∨ c ∈ t := by
  unfold dot? at h
  split at h
  case h_1 =>
    obtain rfl := Option.some.inj h
    rcases List.mem_cons.1 hc with rfl | hc
    · exact .inl (by decide)
    · exact .inr hc
  case h_2 | h_3 =>
    obtain rfl := Option.some.inj h
    simp only [List.mem_cons] at hc
    rcases hc with rfl | rfl | rfl | hc
    · exact .inl (by decide)
    · exact .inl (by decide)
    · exact .inl (by decide)
    · exact .inr hc
  case h_4 => cases h

theorem not_mem_of_isSingleDot (h : isSingleDot s = true) : '/' ∉ s := by
  intro hs
  have hdot : dot? s = some [] := by simpa [isSingleDot] using h
  rcases mem_of_dot? hdot hs with hmem | hmem
  · revert hmem
    decide
  · cases hmem

theorem not_mem_of_isDoubleDot (h : isDoubleDot s = true) : '/' ∉ s := by
  intro hs
  obtain ⟨t, hdot, ht⟩ := (Option.any_eq_true _ _).1 h
  rcases mem_of_dot? hdot hs with hmem | hmem
  · revert hmem
    decide
  · exact not_mem_of_isSingleDot ht hmem

end Dots

/-! ## Segments -/

theorem mem_leave {s : List Char} {done : List (List Char)} (h : s ∈ leave done) : s ∈ done := by
  unfold leave at h
  split at h
  · cases h
  · split at h
    · exact h
    · exact List.mem_cons_of_mem _ h

/-- What holds of an empty segment and of those that are no dots holds of all segments of a path. -/
theorem forall_mem_resolve {P : List Char → Prop} (hnil : P []) {done parts : List (List Char)}
    (hdone : ∀ s ∈ done, P s)
    (hparts : ∀ s ∈ parts, isDoubleDot s = false → isSingleDot s = false → P s) :
    ∀ s ∈ resolve done parts, P s := by
  have hleave {done : List (List Char)} (h : ∀ s ∈ done, P s) : ∀ s ∈ leave done, P s :=
    fun s hs => h s (mem_leave hs)
  have hlast {s : List Char} {done : List (List Char)} (hs : P s) (h : ∀ s ∈ done, P s) :
      ∀ t ∈ (s :: done).reverse, P t :=
    fun t ht => List.forall_mem_cons.2 ⟨hs, h⟩ t (List.mem_reverse.1 ht)
  fun_induction resolve done parts with
  | case1 done => simpa using hdone
  | case2 done s hdouble => exact hlast hnil (hleave hdone)
  | case3 done s hdouble hsingle => exact hlast hnil hdone
  | case4 done s hdouble hsingle =>
    exact hlast (hparts s List.mem_cons_self (by simpa using hdouble) (by simpa using hsingle)) hdone
  | case5 done s rest _ hdouble ih =>
    exact ih (hleave hdone) (List.forall_mem_cons.1 hparts).2
  | case6 done s rest _ hdouble hsingle ih => exact ih hdone (List.forall_mem_cons.1 hparts).2
  | case7 done s rest _ hdouble hsingle ih =>
    obtain ⟨hs, hrest⟩ := List.forall_mem_cons.1 hparts
    have hs := hs (by simpa using hdouble) (by simpa using hsingle)
    exact ih (List.forall_mem_cons.2 ⟨hs, hdone⟩) hrest

theorem dropEndWhile_segments (segments : List (List Char)) :
    dropEndWhile (· = '/') (segments.flatMap ('/' :: ·)) = []
      ∨ ∃ t, dropEndWhile (· = '/') (segments.flatMap ('/' :: ·)) = '/' :: t := by
  have hstart := dropEndWhile_prefix (· = '/') (segments.flatMap ('/' :: ·))
  cases segments with
  | nil => exact .inl rfl
  | cons s rest =>
    rw [List.flatMap_cons, List.cons_append] at hstart ⊢
    cases hd : dropEndWhile (· = '/') ('/' :: (s ++ rest.flatMap ('/' :: ·))) with
    | nil => exact .inl rfl
    | cons c t =>
      rw [hd, List.cons_prefix_cons] at hstart
      exact .inr ⟨t, by rw [hstart.1]⟩

theorem mem_of_trimWhile {segments : List (List Char)} (hslash : ∀ s ∈ segments, '/' ∉ s)
    {s : List Char} (hs : trimWhile (· = '/') (segments.flatMap ('/' :: ·)) = s) (hne : s ≠ [])
    (hfree : '/' ∉ s) : s ∈ segments := by
  induction segments with
  | nil => exact absurd hs.symm hne
  | cons seg rest ih =>
    obtain ⟨hseg, hrest⟩ := List.forall_mem_cons.1 hslash
    cases seg with
    | nil =>
      -- An empty segment leaves one slash more to drop.
      refine List.mem_cons_of_mem _ (ih hrest ?_)
      rw [← hs]
      simp [trimWhile]
    | cons c seg =>
      have hc : ¬ c = '/' := fun hc => hseg (hc ▸ List.mem_cons_self)
      have hkeep : ∀ d ∈ c :: seg, decide (d = '/') = false := fun d hd =>
        decide_eq_false fun h => hseg (h ▸ hd)
      have hstart : ((c :: seg) :: rest).flatMap ('/' :: ·)
          = '/' :: ((c :: seg) ++ rest.flatMap ('/' :: ·)) := rfl
      have htrim : trimWhile (· = '/') (((c :: seg) :: rest).flatMap ('/' :: ·))
          = (c :: seg) ++ dropEndWhile (· = '/') (rest.flatMap ('/' :: ·)) := by
        rw [hstart, trimWhile, ← dropEndWhile_append hkeep]
        simp [hc]
      rw [htrim] at hs
      rcases dropEndWhile_segments rest with hend | ⟨t, hend⟩
      · rw [hend, List.append_nil] at hs
        exact hs ▸ List.mem_cons_self
      · refine absurd ?_ hfree
        rw [← hs, hend]
        simp

/-! ## Whole paths -/

/-- A segment as it can stand in a path. -/
structure IsSegment (s : List Char) : Prop where
  slash : '/' ∉ s
  dots : s ≠ [] → isDoubleDot s = false ∧ isSingleDot s = false

theorem isSegment_of_pathAfter {s : List Char} {l : List String}
    (h : pathAfter .other s = .segments l) : ∀ t ∈ l, IsSegment t.toList := by
  have hfrom (s : List Char) {l : List String} (h : segmentsFrom .other [] s = .segments l) :
      ∀ t ∈ l, IsSegment t.toList := by
    obtain rfl := Path.segments.inj h
    intro t ht
    obtain ⟨seg, hseg, rfl⟩ := List.mem_map.1 ht
    rw [String.toList_ofList]
    refine forall_mem_resolve ⟨List.not_mem_nil, fun h => absurd rfl h⟩
      (fun _ h => absurd h List.not_mem_nil) (fun part hpart hdouble hsingle => ?_) seg hseg
    obtain ⟨piece, hpiece, rfl⟩ := List.mem_map.1 hpart
    refine ⟨fun hslash => ?_, fun _ => ⟨hdouble, hsingle⟩⟩
    rcases Percent.mem_encode hslash with ⟨hmem, -⟩ | ⟨-, htriple⟩
    · have := not_of_mem_splitOnP hpiece '/' hmem
      revert this
      decide
    · revert htriple
      decide
  cases s with
  | nil =>
    obtain rfl := Path.segments.inj h
    exact fun _ h => absurd h List.not_mem_nil
  | cons c s => exact hfrom _ h

theorem toList_text_segments (l : List String) :
    (Path.segments l).text.toList = (l.map String.toList).flatMap ('/' :: ·) := by
  rw [Path.text]
  induction l with
  | nil => rfl
  | cons s l ih => simp [ih]

section Finish

variable {scheme : String} {db : List Char} {query : Option (List Char)}

theorem splitPath_segment (hdb : ∀ c ∈ db, Leaves pathSet c) :
    splitPath ('/' :: (db ++ query.elim [] ('?' :: ·))) = ('/' :: db, query.elim [] ('?' :: ·)) := by
  have hpath : ∀ c ∈ '/' :: db, (c ≠ '?' && c ≠ '#') = true := by
    intro c hc
    rcases List.mem_cons.1 hc with rfl | hc
    · decide
    · have hleaves := hdb c hc
      simp [Leaves.ne hleaves (d := '?') (by decide), Leaves.ne hleaves (d := '#') (by decide)]
  unfold splitPath
  cases query with
  | none =>
    rw [Option.elim_none, List.append_nil]
    simp only [List.takeWhile_eq_self_iff.2 hpath, List.dropWhile_eq_nil_iff.2 hpath]
  | some q =>
    have htake := takeWhile_append_cons hpath (d := '?') (by decide) q
    have hdrop := dropWhile_append_cons hpath (d := '?') (by decide) q
    rw [List.cons_append] at htake hdrop
    simp only [Option.elim_some, htake, hdrop]

theorem pathAfter_segment (hdb : ∀ c ∈ db, Leaves pathSet c) (h : IsSegment db) :
    pathAfter .other ('/' :: db) = .segments [String.ofList db] := by
  have hsplit : db.splitOnP (isSlash .other) = [db] := by
    refine List.splitOnP_eq_singleton fun c hc => ?_
    have hne : c ≠ '/' := fun hslash => h.slash (hslash ▸ hc)
    simp [isSlash, SchemeKind.isSpecial, hne]
  have hresolve : resolve [] [db] = [db] := by
    by_cases hnil : db = []
    · subst hnil
      rfl
    · obtain ⟨hdouble, hsingle⟩ := h.dots hnil
      simp [resolve, hdouble, hsingle]
  have hslash : isSlash .other '/' = true := by decide
  simp [pathAfter, segmentsFrom, hslash, hsplit, encode_eq_self hdb, hresolve]

theorem finish_segment (hk : SchemeKind.ofScheme scheme = .other) (authority : Option Authority)
    (hdb : ∀ c ∈ db, Leaves pathSet c) (h : IsSegment db)
    (hq : ∀ q ∈ query, ∀ c ∈ q, Leaves querySet c) :
    finish scheme authority (pathAfter .other) ('/' :: (db ++ query.elim [] ('?' :: ·)))
      = ⟨scheme, authority, .segments [String.ofList db], query.map String.ofList, none⟩ := by
  simp only [finish, hk, splitPath_segment hdb, pathAfter_segment hdb h]
  cases query with
  | none => rfl
  | some q =>
    have hq := hq q rfl
    have hhash : ∀ c ∈ '?' :: q, decide (c ≠ '#') = true := by
      intro c hc
      rcases List.mem_cons.1 hc with rfl | hc
      · decide
      · exact decide_eq_true ((hq c hc).ne (by decide))
    simp only [Option.elim_some, query?, fragment?, List.takeWhile_eq_self_iff.2 hhash,
      List.dropWhile_eq_nil_iff.2 hhash, encodeText]
    rw [if_neg (by decide), encode_eq_self hq]
    rfl

end Finish

end QueryClient.Url
