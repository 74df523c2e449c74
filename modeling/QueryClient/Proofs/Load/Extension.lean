import QueryClient.Load.Path
import QueryClient.Proofs.Text.Split
import QueryClient.Proofs.Text.Utf8

/-!
# File names and extensions

The file name of a path stands behind its last slash but for what leads nowhere: more slashes, and
single points between them (`fileName?_eq_some_iff`). An extension is the end of a file name behind a
point, if there is something on either side of the point and no other one follows
(`extension?_eq_some_iff`).
-/

namespace QueryClient.Load.Path

open QueryClient.Text

/-- Whether bytes behind a file name lead nowhere. -/
def IsIdleEnd (rest : List UInt8) : Prop :=
  ∃ parts : List (List UInt8), (∀ part ∈ parts, part = [] ∨ part = [point])
    ∧ rest = parts.flatMap (slash :: ·)

/-- Whether a path leads to a file of a name. -/
def HasFileName (p : Path) (name : List UInt8) : Prop :=
  name ≠ [] ∧ name ≠ [point] ∧ name ≠ [point, point] ∧ slash ∉ name
    ∧ ∃ directory rest, p.bytes = directory ++ name ++ rest
      ∧ (directory = [] ∨ ∃ d, directory = d ++ [slash]) ∧ IsIdleEnd rest

/-- Whether the name of the file at a path ends in a point and an extension. -/
def HasExtension (p : Path) (ext : String) : Prop :=
  ∃ stem ending, p.HasFileName (stem ++ point :: ending) ∧ stem ≠ [] ∧ ending ≠ [] ∧ point ∉ ending
    ∧ ending = Utf8.encode ext.toList

theorem isIdle_iff {part : List UInt8} : isIdle part = true ↔ part = [] ∨ part = [point] := by
  simp [isIdle]

section Parts

variable {bytes name : List UInt8} {before after : List (List UInt8)}

theorem splitOn_append_flatMap (hname : slash ∉ name) (hafter : ∀ part ∈ after, slash ∉ part) :
    (name ++ after.flatMap (slash :: ·)).splitOn slash = name :: after := by
  have hno {part : List UInt8} (h : slash ∉ part) : ∀ b ∈ part, (b == slash) = false :=
    fun b hb => beq_eq_false_iff_ne.2 fun he => h (he ▸ hb)
  induction after generalizing name with
  | nil =>
    rw [List.flatMap_nil, List.append_nil]
    exact List.splitOnP_eq_singleton (hno hname)
  | cons part after ih =>
    obtain ⟨hpart, hafter⟩ := List.forall_mem_cons.1 hafter
    rw [List.flatMap_cons, List.cons_append]
    unfold List.splitOn
    rw [List.splitOnP_append_cons_of_forall_mem (hno hname) slash (beq_self_eq_true _)]
    exact congrArg (name :: ·) (ih hpart hafter)

theorem splitOn_of_directory {directory : List UInt8}
    (h : directory = [] ∨ ∃ d, directory = d ++ [slash]) (rest : List UInt8) :
    ∃ before, (directory ++ rest).splitOn slash = before ++ rest.splitOn slash := by
  rcases h with rfl | ⟨d, rfl⟩
  · exact ⟨[], rfl⟩
  · refine ⟨d.splitOn slash, ?_⟩
    rw [List.append_assoc, List.singleton_append]
    exact List.splitOnP_append_cons d rest (beq_self_eq_true _)

theorem intercalate_append_cons :
    [slash].intercalate (before ++ name :: after)
      = before.flatMap (· ++ [slash]) ++ name ++ after.flatMap (slash :: ·) := by
  have htail (part : List UInt8) :
      [slash].intercalate (part :: after) = part ++ after.flatMap (slash :: ·) := by
    induction after generalizing part with
    | nil => simp
    | cons next after ih => rw [List.intercalate_cons_cons, ih]; simp
  induction before with
  | nil => exact htail name
  | cons part before ih =>
    obtain ⟨next, rest, hne⟩ := List.exists_cons_of_ne_nil
      (List.append_ne_nil_of_right_ne_nil before (List.cons_ne_nil name after))
    rw [List.cons_append, hne, List.intercalate_cons_cons, ← hne, ih]
    simp

theorem slash_not_mem_of_mem_splitOn {part : List UInt8} (h : part ∈ bytes.splitOn slash) :
    slash ∉ part := by
  intro hmem
  have := not_of_mem_splitOnP h slash hmem
  simp at this

/-- The parts of a path behind the last one that counts are what leads nowhere. -/
theorem hasFileName_iff_splitOn {p : Path} :
    p.HasFileName name ↔ name ≠ [] ∧ name ≠ [point] ∧ name ≠ [point, point]
      ∧ ∃ before after, p.bytes.splitOn slash = before ++ name :: after
        ∧ ∀ part ∈ after, part = [] ∨ part = [point] := by
  constructor
  · rintro ⟨hempty, hpoint, habove, hslash, directory, rest, hbytes, hd, after, hafter, rfl⟩
    refine ⟨hempty, hpoint, habove, ?_⟩
    obtain ⟨before, hbefore⟩ := splitOn_of_directory hd (name ++ after.flatMap (slash :: ·))
    refine ⟨before, after, ?_, hafter⟩
    rw [hbytes, List.append_assoc, hbefore, splitOn_append_flatMap hslash]
    intro part hpart
    rcases hafter part hpart with rfl | rfl <;> decide
  · rintro ⟨hempty, hpoint, habove, before, after, hsplit, hafter⟩
    have hslash : slash ∉ name :=
      slash_not_mem_of_mem_splitOn (show name ∈ p.bytes.splitOn slash by rw [hsplit]; simp)
    refine ⟨hempty, hpoint, habove, hslash, before.flatMap (· ++ [slash]),
      after.flatMap (slash :: ·), ?_, ?_, after, hafter, rfl⟩
    · rw [← intercalate_append_cons, ← hsplit, List.intercalate_splitOn]
    · rcases List.eq_nil_or_concat before with rfl | ⟨init, last, rfl⟩
      · exact .inl rfl
      · exact .inr ⟨init.flatMap (· ++ [slash]) ++ last, by simp⟩

end Parts

theorem fileName?_eq_some_iff {p : Path} {name : List UInt8} :
    p.fileName? = some name ↔ p.HasFileName name := by
  rw [hasFileName_iff_splitOn, fileName?, Option.filter_eq_some_iff, List.find?_eq_some_iff_append]
  simp only [Bool.not_eq_true', Bool.not_not, ← Bool.not_eq_true, isIdle_iff, not_or,
    decide_eq_true_eq]
  constructor
  · rintro ⟨⟨⟨hempty, hpoint⟩, after, before, hsplit, hafter⟩, habove⟩
    refine ⟨hempty, hpoint, habove, before.reverse, after.reverse, ?_, by simpa using hafter⟩
    rw [← List.reverse_reverse (p.bytes.splitOn slash), hsplit]
    simp
  · rintro ⟨hempty, hpoint, habove, before, after, hsplit, hafter⟩
    exact ⟨⟨⟨hempty, hpoint⟩, after.reverse, before.reverse, by rw [hsplit]; simp,
      by simpa using hafter⟩, habove⟩

/-! ## Extensions -/

section Ending

variable {stem ending name : List UInt8}

theorem ending_of_append (h : point ∉ ending) :
    ((stem ++ point :: ending).reverse.takeWhile (· ≠ point)).reverse = ending := by
  have hall : ∀ b ∈ ending.reverse, decide (b ≠ point) = true := fun b hb =>
    decide_eq_true fun he => h (he ▸ List.mem_reverse.1 hb)
  rw [List.reverse_append, List.reverse_cons, List.append_assoc,
    List.takeWhile_append_of_pos hall]
  simp

/-- What follows the last point of a name, if it is shorter than the name. -/
theorem exists_stem (h : ending = (name.reverse.takeWhile (· ≠ point)).reverse)
    (hlen : ending.length < name.length) : ∃ stem, name = stem ++ point :: ending := by
  have hsplit := List.takeWhile_append_dropWhile (p := (· ≠ point)) (l := name.reverse)
  cases hrest : name.reverse.dropWhile (· ≠ point) with
  | nil =>
    rw [hrest, List.append_nil] at hsplit
    rw [h, hsplit, List.reverse_reverse] at hlen
    exact absurd hlen (Nat.lt_irrefl _)
  | cons b rest =>
    have hb : b = point := by
      have hhead := List.head?_dropWhile_not (· ≠ point) name.reverse
      rw [hrest] at hhead
      simpa using hhead
    rw [hrest, hb] at hsplit
    refine ⟨rest.reverse, ?_⟩
    calc name = name.reverse.reverse := (List.reverse_reverse name).symm
      _ = (name.reverse.takeWhile (· ≠ point) ++ point :: rest).reverse := by
        rw [hsplit]
      _ = rest.reverse ++ point :: ending := by
        rw [h, List.reverse_append, List.reverse_cons, List.append_assoc, List.singleton_append]

theorem point_not_mem_ending (h : ending = (name.reverse.takeWhile (· ≠ point)).reverse) :
    point ∉ ending := by
  intro hmem
  rw [h, List.mem_reverse] at hmem
  have hall := List.all_eq_true.1 (List.all_takeWhile (p := (· ≠ point)) (l := name.reverse))
  exact absurd rfl (of_decide_eq_true (hall _ hmem))

end Ending

theorem extension?_eq_some_iff {p : Path} {ext : String} :
    p.extension? = some ext ↔ p.HasExtension ext := by
  unfold extension?
  rw [Option.bind_eq_bind, Option.bind_eq_some_iff]
  constructor
  · rintro ⟨name, hname, h⟩
    dsimp only at h
    split at h
    · cases h
    · next hlen =>
      rw [not_or, Nat.not_le] at hlen
      obtain ⟨s, hs, rfl⟩ := Option.map_eq_some_iff.1 h
      obtain ⟨stem, hstem⟩ := exists_stem rfl (Nat.lt_of_succ_lt hlen.1)
      refine ⟨stem, _, hstem ▸ fileName?_eq_some_iff.1 hname, ?_, hlen.2,
        point_not_mem_ending rfl, ?_⟩
      · rintro rfl
        have := congrArg List.length hstem
        rw [List.nil_append, List.length_cons] at this
        omega
      · rw [String.toList_ofList]
        exact Utf8.decode?_eq_some_iff.1 hs
  · rintro ⟨stem, ending, hname, hstem, hending, hpoint, hext⟩
    refine ⟨_, fileName?_eq_some_iff.2 hname, ?_⟩
    have hlen : 0 < stem.length := List.length_pos_iff.2 hstem
    dsimp only
    rw [ending_of_append hpoint, if_neg, hext, Utf8.decode?_encode, Option.map_some,
      String.ofList_toList]
    rw [not_or, List.length_append, List.length_cons]
    exact ⟨by omega, hending⟩

/-- A name that begins with its only point has no extension, and slashes at the end do not count. -/
example : extension? ".csv" = none ∧ extension? "a/b.csv/./" = some "csv" := by decide +kernel

end QueryClient.Load.Path
