import Mathlib.Data.List.Infix
import QueryClient.ColumnType
import QueryClient.Proofs.Text.Trim
import QueryClient.Proofs.Text.Utf8

/-!
# Type tags

A tag is the name of a base type with any number of wrappers around it, and blanks around each
(`Strips`). A tag stands for its base type, which allows nulls if it was wrapped; a tag whose inmost
text is no name is refused with that text (`ofChars_of_strips`). So what is read is in normal form,
and a type in normal form is read from its own text (`ofText_text`).
-/

namespace QueryClient.ColumnType

open QueryClient.Text

/-- The names of a base type, in lower case. -/
def tags : ColumnType → List String
  | null => ["null"]
  | signed .w8 => ["int8", "tinyint"]
  | signed .w16 => ["int16", "smallint"]
  | signed .w32 => ["int32", "int", "integer"]
  | signed .w64 => ["int64", "bigint"]
  | unsigned .w8 => ["uint8", "tinyint unsigned"]
  | unsigned .w16 => ["uint16", "smallint unsigned"]
  | unsigned .w32 => ["uint32", "int unsigned", "integer unsigned"]
  | unsigned .w64 => ["uint64", "bigint unsigned"]
  | float32 => ["float32", "float"]
  | float64 => ["float64", "double"]
  | string => ["string", "varchar", "text"]
  | date => ["date"]
  | timestamp => ["datetime", "timestamp"]
  | nullable _ => []

/-- A base type, or a wrapper around a base type that does not allow nulls itself. -/
def IsNormal : ColumnType → Prop
  | nullable t => t.isNullable = false
  | _ => True

/-- A text in a wrapper: the word `nullable` in any case and the text in parentheses, with blanks
around both. -/
inductive Wraps : List Char → List Char → Prop
  | intro {l word m body r : List Char} (hl : ∀ c ∈ l, isBlank c = true)
    (hword : lowered word = "nullable") (hm : ∀ c ∈ m, isBlank c = true)
    (hr : ∀ c ∈ r, isBlank c = true) :
    Wraps (l ++ word ++ m ++ '(' :: (body ++ ')' :: r)) body

/-- What is left of a text when a number of wrappers are taken away, and then the blanks. -/
inductive Strips : Nat → List Char → List Char → Prop
  | blanks {l tag r : List Char} (hl : ∀ c ∈ l, isBlank c = true) (hr : ∀ c ∈ r, isBlank c = true) :
    Strips 0 (l ++ tag ++ r) tag
  | wrapper {n : Nat} {s body tag : List Char} (hw : Wraps s body) (h : Strips n body tag) :
    Strips (n + 1) s tag

/-- Whether nothing more can be taken away. -/
structure IsInmost (tag : List Char) : Prop where
  trimmed : IsTrimmed isBlank tag
  bare : ∀ body, ¬ Wraps tag body

/-! ## Names -/

section Names

variable {name : String} {base : ColumnType} {s tag : List Char}

theorem ofName?_of_mem_tags (h : name ∈ base.tags) : ofName? name = some base := by
  cases base with
  | signed w | unsigned w => cases w <;> revert name <;> decide
  | nullable t => cases h
  | null | float32 | float64 | string | date | timestamp => revert name; decide

theorem ofName?_eq_some_iff : ofName? name = some base ↔ name ∈ base.tags := by
  refine ⟨fun h => ?_, ofName?_of_mem_tags⟩
  unfold ofName? at h
  split at h <;> cases h <;> simp [tags]

theorem ne_nullable_of_mem_tags (h : name ∈ base.tags) (t : ColumnType) : base ≠ .nullable t := by
  rintro rfl
  cases h

/-- A name has a letter or a digit at both ends, and no parenthesis. -/
theorem isTrimmed_of_mem_tags (h : name ∈ base.tags) :
    IsTrimmed isBlank name.toList ∧ '(' ∉ name.toList := by
  cases base with
  | signed w | unsigned w => cases w <;> revert name <;> decide
  | nullable t => cases h
  | null | float32 | float64 | string | date | timestamp => revert name; decide

theorem toList_lowered (s : List Char) : (lowered s).toList = s.map Char.toLower :=
  String.toList_ofList

theorem toLower_of_isBlank {c : Char} (h : isBlank c = true) : c.toLower = c := by
  have hcase : ¬ (0x41 ≤ c.toNat ∧ c.toNat ≤ 0x5a) := by
    simp only [isBlank, Bool.or_eq_true, Bool.and_eq_true, decide_eq_true_eq, beq_iff_eq] at h
    omega
  exact dif_neg hcase

theorem isTrimmed_of_lowered (h : IsTrimmed isBlank (lowered s).toList) : IsTrimmed isBlank s := by
  have hvisible {c : Char} (hc : isBlank c.toLower = false) : isBlank c = false := by
    by_contra hblank
    rw [Bool.not_eq_false] at hblank
    rw [toLower_of_isBlank hblank, hblank] at hc
    cases hc
  rw [toList_lowered] at h
  refine ⟨fun c hc => hvisible (h.head _ ?_), fun c hc => hvisible (h.last _ ?_)⟩
  · rw [List.head?_map]
    exact Option.mem_map_of_mem _ hc
  · rw [List.getLast?_map]
    exact Option.mem_map_of_mem _ hc

theorem mem_lowered {c : Char} (h : c ∈ s) : c.toLower ∈ (lowered s).toList := by
  rw [toList_lowered]
  exact List.mem_map_of_mem h

end Names

/-! ## Wrappers -/

section Wrappers

variable {n : Nat} {s body tag : List Char}

theorem Wraps.mem (h : Wraps s body) : '(' ∈ s := by
  cases h
  simp

theorem wrapped?_eq_some_iff : wrapped? s = some body ↔ ∃ name, '(' ∉ name
    ∧ lowered (trim name) = "nullable" ∧ s = name ++ '(' :: (body ++ [')']) := by
  constructor
  · intro h
    have hs : s.takeWhile (· ≠ '(') ++ s.dropWhile (· ≠ '(') = s := List.takeWhile_append_dropWhile
    have hhead := head?_dropWhile (fun c => decide (c ≠ '(')) s
    have hname : '(' ∉ s.takeWhile (· ≠ '(') := fun hc => by simpa using List.mem_takeWhile_imp hc
    unfold wrapped? at h
    split at h
    · cases h
    · next c rest hrest =>
      split at h
      · next hguard =>
        rw [hrest] at hs hhead
        obtain rfl : c = '(' := by simpa using hhead c rfl
        obtain rfl := Option.some.inj h
        refine ⟨_, hname, hguard.1, ?_⟩
        rw [List.dropLast_append_getLast? _ hguard.2, hs]
      · cases h
  · rintro ⟨name, hname, hword, rfl⟩
    have hne : ∀ c ∈ name, decide (c ≠ '(') = true := fun c hc => by
      rw [decide_eq_true_iff]
      rintro rfl
      exact hname hc
    unfold wrapped?
    rw [dropWhile_append_cons hne (by decide), takeWhile_append_cons hne (by decide)]
    simp [hword]

/-- The word of a wrapper is visible at both ends. -/
theorem of_lowered_eq_nullable {word : List Char} (h : lowered word = "nullable") :
    IsTrimmed isBlank word ∧ '(' ∉ word ∧ word ≠ [] := by
  refine ⟨isTrimmed_of_lowered ?_, fun hc => ?_, ?_⟩
  · rw [h]
    decide
  · have hopen := mem_lowered hc
    rw [h] at hopen
    exact absurd hopen (by decide)
  · rintro rfl
    exact absurd h (by decide)

theorem trim_wrapper {l word m r : List Char} (hl : ∀ c ∈ l, isBlank c = true)
    (hword : lowered word = "nullable") (hr : ∀ c ∈ r, isBlank c = true) :
    trim (l ++ word ++ m ++ '(' :: (body ++ ')' :: r)) = word ++ m ++ '(' :: (body ++ [')']) := by
  obtain ⟨htrimmed, -, hne⟩ := of_lowered_eq_nullable hword
  obtain ⟨c, rest, rfl⟩ := List.exists_cons_of_ne_nil hne
  have hends := isTrimmed_cons_append (htrimmed.head c rfl) (show isBlank ')' = false by decide)
    (rest ++ m ++ '(' :: body)
  have htrim := trimWhile_append hl hends hr
  simpa [trim] using htrim

theorem wrapped?_trim_eq_some_iff : wrapped? (trim s) = some body ↔ Wraps s body := by
  rw [wrapped?_eq_some_iff]
  constructor
  · rintro ⟨name, -, hword, hs⟩
    obtain ⟨l, r, hl, hr, hsplit⟩ := exists_trim s
    obtain ⟨l', m, hl', hm, hname⟩ := exists_trim name
    rw [hs] at hsplit
    generalize trim name = word at hword hname
    have htext : s = l ++ l' ++ word ++ m ++ '(' :: (body ++ ')' :: r) := by
      rw [hsplit, hname]
      simp
    rw [htext]
    exact .intro (fun c hc => (List.mem_append.1 hc).elim (hl c) (hl' c)) hword hm hr
  · intro h
    cases h with
    | @intro l word m body r hl hword hm hr =>
      obtain ⟨htrimmed, hopen, -⟩ := of_lowered_eq_nullable hword
      have hname : '(' ∉ word ++ m := by
        rw [List.mem_append, not_or]
        exact ⟨hopen, fun hc => absurd (hm _ hc) (by decide)⟩
      have htrim : trim (word ++ m) = word := by
        rw [trim, ← List.nil_append word]
        exact trimWhile_append (by simp) htrimmed hm
      exact ⟨word ++ m, hname, by rw [htrim, hword], trim_wrapper hl hword hr⟩

theorem wrapped?_trim_eq_none_iff : wrapped? (trim s) = none ↔ ∀ body, ¬ Wraps s body := by
  simp only [Option.eq_none_iff_forall_not_mem, Option.mem_def, wrapped?_trim_eq_some_iff]

theorem isInmost_of_mem_tags {base : ColumnType} (h : lowered tag ∈ base.tags) : IsInmost tag := by
  obtain ⟨htrimmed, hopen⟩ := isTrimmed_of_mem_tags h
  exact ⟨isTrimmed_of_lowered htrimmed, fun body hw => hopen (mem_lowered hw.mem)⟩

end Wrappers

/-! ## Reading -/

section Reading

variable {n : Nat} {s body tag : List Char} {base t : ColumnType} {e : Error}

/-- What a tag without wrappers and blanks is read as. -/
def ofBare (tag : List Char) : Result ColumnType :=
  match ofName? (lowered tag) with
  | some t => .ok t
  | none => .error (.transport (.unsupportedType (String.ofList tag)))

theorem ofBare_eq_ok_iff : ofBare tag = .ok base ↔ lowered tag ∈ base.tags := by
  rw [← ofName?_eq_some_iff, ofBare]
  split
  · next t ht => simp [ht]
  · next ht => simp [ht]

theorem ofBare_eq_error_iff : ofBare tag = .error e ↔ (∀ t : ColumnType, lowered tag ∉ t.tags)
    ∧ e = .transport (.unsupportedType (String.ofList tag)) := by
  simp only [← ofName?_eq_some_iff, ofBare]
  split
  · next t ht => simp [ht]
  · next ht => simp [ht, eq_comm]

theorem ofChars_of_wraps (h : Wraps s body) : ofChars s = (ofChars body).map wrap := by
  rw [← wrapped?_trim_eq_some_iff] at h
  rw [ofChars]
  split
  · next body' h' =>
    obtain rfl := Option.some.inj (h.symm.trans h')
    rfl
  · next h' => simp [h] at h'

theorem ofChars_of_bare (h : ∀ body, ¬ Wraps s body) : ofChars s = ofBare (trim s) := by
  rw [← wrapped?_trim_eq_none_iff] at h
  rw [ofChars]
  split
  · next body' h' => simp [h] at h'
  · rfl

theorem wrap_wrap (t : ColumnType) : t.wrap.wrap = t.wrap := by
  cases t <;> rfl

theorem wrap_of_ne_nullable (h : ∀ t, base ≠ .nullable t) :
    base.wrap = if base = .null then base else .nullable base := by
  cases base <;> simp_all [wrap]

/-- A tag is read as what it comes down to, and allows nulls if it was wrapped. -/
theorem ofChars_of_strips (h : Strips n s tag) (ht : IsInmost tag) :
    ofChars s = (ofBare tag).map fun t => if n = 0 then t else t.wrap := by
  -- On the wrappers. The inmost one makes the type allow nulls, and the others change nothing.
  induction h with
  | @blanks l tag r hl hr =>
    have htrim : trim (l ++ tag ++ r) = tag := trimWhile_append hl ht.trimmed hr
    have hself : trim tag = tag := trimWhile_of_isTrimmed ht.trimmed
    have hbare : ∀ body, ¬ Wraps (l ++ tag ++ r) body := by
      rw [← wrapped?_trim_eq_none_iff, htrim, ← hself, wrapped?_trim_eq_none_iff]
      exact ht.bare
    rw [ofChars_of_bare hbare, htrim]
    cases ofBare tag <;> rfl
  | @wrapper n s body tag hw _ ih =>
    rw [ofChars_of_wraps hw, ih ht]
    cases ofBare tag with
    | error e => rfl
    | ok t =>
      simp only [Except.map, Nat.add_one_ne_zero, if_false]
      split
      · rfl
      · rw [wrap_wrap]

/-- Every text comes down to something. -/
theorem exists_strips (s : List Char) : ∃ n tag, Strips n s tag ∧ IsInmost tag := by
  induction s using ofChars.induct with
  | case1 s body h _ ih =>
    obtain ⟨n, tag, hs, ht⟩ := ih
    exact ⟨n + 1, tag, .wrapper (wrapped?_trim_eq_some_iff.1 h) hs, ht⟩
  | case2 s h _ _ | case3 s h _ =>
    obtain ⟨l, r, hl, hr, hsplit⟩ := exists_trim s
    have hself : trim (trim s) = trim s := trimWhile_of_isTrimmed (isTrimmed_trimWhile _ _)
    have hstrips : Strips 0 (l ++ trim s ++ r) (trim s) := .blanks hl hr
    rw [← hsplit] at hstrips
    refine ⟨0, trim s, hstrips, isTrimmed_trimWhile _ _, ?_⟩
    rwa [← wrapped?_trim_eq_none_iff, hself]

theorem message_unsupportedType (tag : String) : (Error.transport (.unsupportedType tag)).message
    = "Transport error (protocol violation): unsupported column type `" ++ tag ++ "`" := by
  have htext : "Transport error (" ++ "protocol violation" ++ "): " ++ "unsupported column type `"
      = "Transport error (protocol violation): unsupported column type `" := by decide
  rw [← htext, String.append_assoc, String.append_assoc]
  rfl

theorem ofChars_eq_ok_iff : ofChars s = .ok t ↔ ∃ n tag base, Strips n s tag
    ∧ lowered tag ∈ base.tags ∧ t = if n = 0 ∨ base = .null then base else .nullable base := by
  have hwrap {n : Nat} {name : String} {base : ColumnType} (h : name ∈ base.tags) :
      (if n = 0 then base else base.wrap)
        = if n = 0 ∨ base = .null then base else .nullable base := by
    rw [wrap_of_ne_nullable (ne_nullable_of_mem_tags h), ite_or]
  constructor
  · intro h
    obtain ⟨n, tag, hs, ht⟩ := exists_strips s
    rw [ofChars_of_strips hs ht] at h
    cases hread : ofBare tag with
    | error e => rw [hread] at h; cases h
    | ok base =>
      have hbase := ofBare_eq_ok_iff.1 hread
      rw [hread] at h
      exact ⟨n, tag, base, hs, hbase, (Except.ok.inj h).symm.trans (hwrap hbase)⟩
  · rintro ⟨n, tag, base, hs, hbase, rfl⟩
    rw [ofChars_of_strips hs (isInmost_of_mem_tags hbase), ofBare_eq_ok_iff.2 hbase, ← hwrap hbase]
    rfl

theorem ofChars_eq_error_iff : ofChars s = .error e ↔ ∃ n tag, Strips n s tag ∧ IsInmost tag
    ∧ (∀ base : ColumnType, lowered tag ∉ base.tags)
    ∧ e = .transport (.unsupportedType (String.ofList tag)) := by
  constructor
  · intro h
    obtain ⟨n, tag, hs, ht⟩ := exists_strips s
    rw [ofChars_of_strips hs ht] at h
    cases hread : ofBare tag with
    | error e' =>
      rw [hread] at h
      obtain rfl := Except.error.inj h
      exact ⟨n, tag, hs, ht, ofBare_eq_error_iff.1 hread⟩
    | ok base => rw [hread] at h; cases h
  · rintro ⟨n, tag, hs, ht, hnone, rfl⟩
    rw [ofChars_of_strips hs ht, ofBare_eq_error_iff.2 ⟨hnone, rfl⟩]
    rfl

theorem isNormal_of_ofChars (h : ofChars s = .ok t) : t.IsNormal := by
  obtain ⟨n, tag, base, -, hbase, rfl⟩ := ofChars_eq_ok_iff.1 h
  have hne := ne_nullable_of_mem_tags hbase
  split_ifs with hn
  · cases base <;> simp_all [IsNormal]
  · cases base <;> simp_all [IsNormal, isNullable]

end Reading

/-! ## Writing -/

theorem lowered_text_mem_tags {base : ColumnType} (h : ∀ t, base ≠ .nullable t) :
    lowered base.text.toList ∈ base.tags := by
  cases base with
  | signed w | unsigned w => cases w <;> decide
  | nullable t => exact absurd rfl (h t)
  | null | float32 | float64 | string | date | timestamp => decide

theorem strips_self (s : List Char) : Strips 0 s s := by
  have h : Strips 0 ([] ++ s ++ []) s := .blanks (by simp) (by simp)
  simpa using h

theorem wraps_text (t : ColumnType) : Wraps (ColumnType.nullable t).text.toList t.text.toList := by
  have h : Wraps ([] ++ "Nullable".toList ++ [] ++ '(' :: (t.text.toList ++ ')' :: []))
      t.text.toList := .intro (by simp) (by decide) (by simp) (by simp)
  simpa [text] using h

/-- A type in normal form is read from its own text. -/
theorem ofText_text {t : ColumnType} (h : t.IsNormal) : ofText t.text = .ok t := by
  rw [ofText, ofChars_eq_ok_iff]
  by_cases hwrapped : ∃ u, t = .nullable u
  · obtain ⟨u, rfl⟩ := hwrapped
    have hu : u ≠ .null ∧ ∀ v, u ≠ .nullable v := by
      cases u <;> simp_all [IsNormal, isNullable]
    exact ⟨1, _, u, .wrapper (wraps_text u) (strips_self _), lowered_text_mem_tags hu.2,
      by simp [hu.1]⟩
  · exact ⟨0, _, t, strips_self _, lowered_text_mem_tags fun u hu => hwrapped ⟨u, hu⟩, by simp⟩

/-! ## Positions -/

/-- The position after the first opening parenthesis of a text, in bytes. -/
def insideStart (s : List Char) : Nat :=
  (Utf8.encode (s.takeWhile (· ≠ '('))).length + 1

/-- The position of the last character of a text, in bytes, if that is a parenthesis. -/
def insideEnd (s : List Char) : Nat :=
  (Utf8.encode s).length - 1

/-- The inside of a wrapper is a range of its bytes, and the bytes of a text. -/
theorem inside_of_wrapped? {s body : List Char} (h : wrapped? s = some body) :
    insideStart s ≤ insideEnd s
      ∧ (Utf8.encode s).extract (insideStart s) (insideEnd s) = Utf8.encode body := by
  obtain ⟨name, hname, -, rfl⟩ := wrapped?_eq_some_iff.1 h
  have hne : ∀ c ∈ name, decide (c ≠ '(') = true := fun c hc => by
    rw [decide_eq_true_iff]
    rintro rfl
    exact hname hc
  have hopen : Utf8.encode ['('] = [0x28] := rfl
  have hclose : Utf8.encode [')'] = [0x29] := rfl
  have hbytes : Utf8.encode (name ++ '(' :: (body ++ [')']))
      = (Utf8.encode name ++ [0x28]) ++ (Utf8.encode body ++ [0x29]) := by
    rw [← hopen, ← hclose, ← Utf8.encode_append, ← Utf8.encode_append, ← Utf8.encode_append]
    simp
  have hstart :
      insideStart (name ++ '(' :: (body ++ [')'])) = (Utf8.encode name ++ [0x28]).length := by
    rw [insideStart, takeWhile_append_cons hne (by decide), List.length_append]
    rfl
  have hend : insideEnd (name ++ '(' :: (body ++ [')']))
      = (Utf8.encode name ++ [0x28]).length + (Utf8.encode body).length := by
    rw [insideEnd, hbytes]
    simp only [List.length_append, List.length_cons, List.length_nil]
    omega
  rw [hstart, hend, hbytes, List.extract_eq_take_drop, List.drop_left, Nat.add_sub_cancel_left,
    List.take_left]
  exact ⟨Nat.le_add_right _ _, rfl⟩

/-! ## Tags and their types -/

/-- A tag is read if and only if it comes down to the name of a base type, as that type, which
allows nulls if there was a wrapper; otherwise it is refused with what it comes down to. What is
read is in normal form, and normal forms are read from their own texts. On the way a text is cut
only between two bytes that it has, in this order, and only where one of its characters ends. -/
theorem ofText_normalForm :
    (∀ text t, ofText text = .ok t ↔ ∃ n tag base, Strips n text.toList tag
        ∧ lowered tag ∈ base.tags ∧ t = if n = 0 ∨ base = .null then base else .nullable base)
      ∧ (∀ text e, ofText text = .error e ↔ ∃ n tag, Strips n text.toList tag ∧ IsInmost tag
        ∧ (∀ base : ColumnType, lowered tag ∉ base.tags)
        ∧ e = .transport (.unsupportedType (String.ofList tag))
        ∧ e.message = "Transport error (protocol violation): unsupported column type `"
          ++ String.ofList tag ++ "`")
      ∧ (∀ text t, ofText text = .ok t → t.IsNormal ∧ ofText t.text = .ok t)
      ∧ (∀ t : ColumnType, t.IsNormal → ofText t.text = .ok t)
      ∧ ∀ s body, wrapped? s = some body → insideStart s ≤ insideEnd s
        ∧ (Utf8.encode s).extract (insideStart s) (insideEnd s) = Utf8.encode body := by
  refine ⟨fun text t => ofChars_eq_ok_iff, fun text e => ?_, fun text t h => ?_,
    fun t => ofText_text, fun s body => inside_of_wrapped?⟩
  · rw [ofText, ofChars_eq_error_iff]
    constructor
    · rintro ⟨n, tag, hs, ht, hnone, rfl⟩
      exact ⟨n, tag, hs, ht, hnone, rfl, message_unsupportedType _⟩
    · rintro ⟨n, tag, hs, ht, hnone, he, -⟩
      exact ⟨n, tag, hs, ht, hnone, he⟩
  · have hnormal : t.IsNormal := isNormal_of_ofChars h
    exact ⟨hnormal, ofText_text hnormal⟩

/-- A tag in two wrappers with blanks, and one with a parenthesis too many. -/
theorem ofText_normalForm_nested :
    let type := ColumnType.nullable (.unsigned .w64)
    ofText "NULLABLE (nullable(Bigint Unsigned)\t) " = .ok type ∧ type.IsNormal
      ∧ ofText type.text = .ok type
      ∧ (∃ e, ofText "Nullable(Int32))" = .error e ∧ e.message
        = "Transport error (protocol violation): unsupported column type `" ++ "Int32)" ++ "`")
      ∧ wrapped? "Nullable(Date)".toList = some "Date".toList
      ∧ insideStart "Nullable(Date)".toList ≤ insideEnd "Nullable(Date)".toList := by
  intro type
  obtain ⟨hok, herror, hnormal, htext, hinside⟩ := ofText_normalForm
  have houter : Wraps "NULLABLE (nullable(Bigint Unsigned)\t) ".toList
      "nullable(Bigint Unsigned)\t".toList := wrapped?_trim_eq_some_iff.1 (by decide)
  have hinner : Wraps "nullable(Bigint Unsigned)\t".toList "Bigint Unsigned".toList :=
    wrapped?_trim_eq_some_iff.1 (by decide)
  have hread : ofText "NULLABLE (nullable(Bigint Unsigned)\t) " = .ok type :=
    (hok _ _).2 ⟨2, _, .unsigned .w64, .wrapper houter (.wrapper hinner (strips_self _)),
      by decide, by decide⟩
  have hshut : Wraps "Nullable(Int32))".toList "Int32)".toList :=
    wrapped?_trim_eq_some_iff.1 (by decide)
  have hinmost : IsInmost "Int32)".toList :=
    ⟨by decide, fun body hw => absurd hw.mem (by decide)⟩
  have hnone (base : ColumnType) : lowered "Int32)".toList ∉ base.tags := by
    rw [← ofName?_eq_some_iff]
    exact nofun
  have hrefused := (herror "Nullable(Int32))" _).2
    ⟨1, _, .wrapper hshut (strips_self _), hinmost, hnone, rfl, message_unsupportedType _⟩
  have hbody : wrapped? "Nullable(Date)".toList = some "Date".toList := by decide
  exact ⟨hread, (hnormal _ _ hread).1, htext type (hnormal _ _ hread).1,
    ⟨_, hrefused, message_unsupportedType _⟩, hbody, (hinside _ _ hbody).1⟩

end QueryClient.ColumnType
