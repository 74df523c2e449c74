import QueryClient.Load.FileOptions
import QueryClient.Proofs.Load.Extension
import QueryClient.Proofs.SortedMap
import QueryClient.Proofs.Text.Letters

/-!
# What a file load adds to its options

A file load has a format if its options name one or its path has an extension (`HasFormat`). Its
headers are then the options and what the format supplies for those that are missing
(`exists_fileHeaders`), so that they are settled: taken for options again they stay as they are, and so
they do if what is supplied was given before (`fileHeaders_settled`).
-/

namespace QueryClient.Load

open QueryClient.Text

/-- The format of a file load: the one that the options name, or else the extension in capitals. -/
inductive HasFormat (path : Path) (options : SortedMap String) : String → Prop
  | named {format : String} (h : options.get? "format_type" = some format) :
    HasFormat path options format
  | ofExtension {ext : String} (h : options.get? "format_type" = none)
    (hext : path.HasExtension ext) : HasFormat path options (raised ext)

/-- The format of separated values in letters of either case. -/
def csvSpellings : List String :=
  ["csv", "csV", "cSv", "cSV", "Csv", "CsV", "CSv", "CSV"]

/-- What a format supplies under a name: itself, and the default dialect of separated values. -/
def supplied (format name : String) : Option String :=
  if name = "format_type" then some format
  else if format ∈ csvSpellings then ({} : Dialect).headers.lookup name
  else none

/-! ## Formats -/

theorem raised_raised (s : String) : raised (raised s) = raised s := by
  simp only [raised, String.toList_ofList, List.map_map]
  exact congrArg String.ofList (List.map_congr_left fun c _ => toUpper_toUpper c)

theorem isSeparatedValues_iff (format : String) :
    isSeparatedValues format = true ↔ format ∈ csvSpellings := by
  constructor
  · intro h
    have hlist : format.toList.map Char.toUpper = ['C', 'S', 'V'] := by
      have := congrArg String.toList (of_decide_eq_true h)
      rwa [raised, String.toList_ofList] at this
    obtain ⟨c, rest, hformat, hc, hrest⟩ := List.map_eq_cons_iff.1 hlist
    obtain ⟨s, rest, rfl, hs, hrest⟩ := List.map_eq_cons_iff.1 hrest
    obtain ⟨v, rest, rfl, hv, hrest⟩ := List.map_eq_cons_iff.1 hrest
    obtain rfl := List.map_eq_nil_iff.1 hrest
    rw [← String.ofList_toList (s := format), hformat]
    rcases eq_or_of_toUpper (l := 'c') (by decide) hc with rfl | rfl <;>
      rcases eq_or_of_toUpper (l := 's') (by decide) hs with rfl | rfl <;>
      rcases eq_or_of_toUpper (l := 'v') (by decide) hv with rfl | rfl <;> decide
  · intro h
    revert format
    decide

/-- An extension that says separated values says so in capitals as a format. -/
theorem raised_of_mem {ext : String} (h : raised ext ∈ csvSpellings) : raised ext = "CSV" := by
  rw [← raised_raised]
  exact of_decide_eq_true ((isSeparatedValues_iff _).2 h)

theorem lookup_headers_iff {name value : String} :
    ({} : Dialect).headers.lookup name = some value ↔ (name, value) ∈ ({} : Dialect).headers :=
  ⟨SortedMap.mem_of_lookup, SortedMap.lookup_of_mem (by decide)⟩

section Formats

variable {path : Path} {options : SortedMap String} {format : String}

theorem hasFormat_unique {other : String} (h : HasFormat path options format)
    (ho : HasFormat path options other) : format = other := by
  cases h with
  | named h =>
    cases ho with
    | named ho => exact Option.some.inj (h.symm.trans ho)
    | ofExtension ho _ => rw [h] at ho; cases ho
  | ofExtension h hext =>
    cases ho with
    | named ho => rw [h] at ho; cases ho
    | ofExtension _ hext' =>
      rw [← Path.extension?_eq_some_iff] at hext hext'
      rw [Option.some.inj (hext.symm.trans hext')]

theorem or_of_hasFormat (h : HasFormat path options format) :
    (options.get? "format_type").or (some format) = some format := by
  cases h with
  | named h => rw [h, Option.some_or]
  | ofExtension h _ => rw [h, Option.none_or]

theorem withFormat_of_hasFormat (h : HasFormat path options format) :
    ∃ m, withFormat path options = .ok m
      ∧ ∀ name, m.get? name
        = (options.get? name).or (if name = "format_type" then some format else none) := by
  cases h with
  | named h =>
    refine ⟨options, ?_, fun name => ?_⟩
    · rw [withFormat, if_pos (SortedMap.contains_of_get? h)]
    · split
      · next hname => rw [hname, h, Option.some_or]
      · rw [Option.or_none]
  | @ofExtension ext h hext =>
    refine ⟨options.insert "format_type" (raised ext), ?_, fun name => ?_⟩
    · rw [withFormat, SortedMap.contains_eq_false_iff.2 h, Path.extension?_eq_some_iff.2 hext]
      rfl
    · rw [SortedMap.get?_insert]
      split
      · next hname => rw [hname, h, Option.none_or]
      · rw [Option.or_none]

theorem no_format_iff : (∀ format, ¬ HasFormat path options format)
    ↔ options.get? "format_type" = none ∧ ∀ ext, ¬ path.HasExtension ext := by
  constructor
  · intro h
    have hno : options.get? "format_type" = none :=
      Option.eq_none_iff_forall_ne_some.2 fun v hv => h v (.named hv)
    exact ⟨hno, fun ext hext => h _ (.ofExtension hno hext)⟩
  · rintro ⟨hno, hext⟩ format (h | ⟨-, h⟩)
    · rw [hno] at h
      cases h
    · exact hext _ h

theorem fileHeaders_of_no_format (h : ∀ format, ¬ HasFormat path options format) :
    fileHeaders path options = .error (.invalidArgument (.unknownFormat path.text)) := by
  obtain ⟨hno, hext⟩ := no_format_iff.1 h
  have hnone : path.extension? = none :=
    Option.eq_none_iff_forall_ne_some.2 fun ext he => hext ext (Path.extension?_eq_some_iff.1 he)
  rw [fileHeaders, withFormat, SortedMap.contains_eq_false_iff.2 hno, hnone]
  rfl

end Formats

/-! ## Headers -/

/-- What is there stays, and of what is added the first entry of a key counts. -/
theorem get?_addMissing (m : SortedMap String) (entries : List (String × String)) (name : String) :
    (addMissing m entries).get? name = (m.get? name).or (entries.lookup name) := by
  unfold addMissing
  induction entries generalizing m with
  | nil => simp
  | cons e entries ih =>
    rw [List.foldl_cons, ih, SortedMap.lookup_cons_eq_ite]
    by_cases hname : name = e.1
    · subst hname
      rw [if_pos rfl]
      split
      · next h =>
        obtain ⟨v, hv⟩ := SortedMap.contains_eq_true_iff.1 h
        rw [hv, Option.some_or, Option.some_or]
      · next h =>
        rw [SortedMap.get?_insert, if_pos rfl, Option.some_or,
          SortedMap.contains_eq_false_iff.1 (by simpa using h), Option.none_or]
    · rw [if_neg hname]
      split
      · rfl
      · rw [SortedMap.get?_insert, if_neg hname]

section Headers

variable {path : Path} {options headers : SortedMap String} {format : String}

/-- A load with a format has headers: the options, and what its format supplies for the missing. -/
theorem exists_fileHeaders (h : HasFormat path options format) :
    ∃ headers, fileHeaders path options = .ok headers
      ∧ ∀ name, headers.get? name = (options.get? name).or (supplied format name) := by
  obtain ⟨m, hm, hget⟩ := withFormat_of_hasFormat h
  have hformat : m.get? "format_type" = some format := by
    rw [hget, if_pos rfl]
    exact or_of_hasFormat h
  have hbind : fileHeaders path options
      = if isSeparatedValues format then .ok (addMissing m ({} : Dialect).headers) else .ok m := by
    rw [fileHeaders, hm]
    change (if (m.get? "format_type").any isSeparatedValues then _ else _) = _
    rw [hformat]
    rfl
  rw [hbind]
  by_cases hcsv : format ∈ csvSpellings
  · refine ⟨_, if_pos ((isSeparatedValues_iff format).2 hcsv), fun name => ?_⟩
    rw [get?_addMissing, hget, supplied, if_pos hcsv, Option.or_assoc]
    split
    · rw [Option.some_or]
    · rw [Option.none_or]
  · refine ⟨_, if_neg (mt (isSeparatedValues_iff format).1 hcsv), fun name => ?_⟩
    rw [hget, supplied, if_neg hcsv]

theorem get?_fileHeaders (h : fileHeaders path options = .ok headers) :
    ∃ format, HasFormat path options format
      ∧ ∀ name, headers.get? name = (options.get? name).or (supplied format name) := by
  by_cases hf : ∃ format, HasFormat path options format
  · obtain ⟨format, hf⟩ := hf
    obtain ⟨headers', h', hget⟩ := exists_fileHeaders hf
    obtain rfl := Except.ok.inj (h.symm.trans h')
    exact ⟨format, hf, hget⟩
  · rw [fileHeaders_of_no_format fun format hformat => hf ⟨format, hformat⟩] at h
    cases h

theorem fileHeaders_eq_ok {more : SortedMap String} (h : HasFormat path more format)
    (hget : ∀ name, headers.get? name = (more.get? name).or (supplied format name)) :
    fileHeaders path more = .ok headers := by
  obtain ⟨headers', h', hget'⟩ := exists_fileHeaders h
  rw [h', SortedMap.eq_of_get? fun name => (hget' name).trans (hget name).symm]

theorem fileHeaders_eq_error_iff {e : Error} : fileHeaders path options = .error e
    ↔ (∀ format, ¬ HasFormat path options format)
      ∧ e = .invalidArgument (.unknownFormat path.text) := by
  constructor
  · intro h
    have hno : ∀ format, ¬ HasFormat path options format := by
      intro format hf
      obtain ⟨headers, h', -⟩ := exists_fileHeaders hf
      rw [h] at h'
      cases h'
    refine ⟨hno, ?_⟩
    rw [fileHeaders_of_no_format hno] at h
    exact (Except.error.inj h).symm
  · rintro ⟨h, rfl⟩
    exact fileHeaders_of_no_format h

/-- What is supplied without a format among the options is the default dialect as a whole. -/
theorem supplied_of_mem {name value : String} (hcsv : format ∈ csvSpellings)
    (h : HasFormat path options format) (hno : options.get? name = none)
    (hmem : (name, value) ∈ ({} : Dialect).headers) : supplied format name = some value := by
  unfold supplied
  by_cases hname : name = "format_type"
  · subst hname
    cases h with
    | named h => rw [hno] at h; cases h
    | ofExtension _ _ =>
      rw [if_pos rfl, raised_of_mem hcsv]
      exact lookup_headers_iff.2 hmem
  · rw [if_neg hname, if_pos hcsv, lookup_headers_iff.2 hmem]

/-- Options that are given beyond the others leave the format of separated values. -/
theorem hasFormat_of_more {more : SortedMap String} (h : HasFormat path options format)
    (hcsv : format ∈ csvSpellings)
    (hmore : ∀ name, more.get? name = options.get? name ∨ options.get? name = none
      ∧ ∃ value, more.get? name = some value ∧ (name, value) ∈ ({} : Dialect).headers) :
    HasFormat path more format := by
  rcases hmore "format_type" with hname | ⟨hno, value, hname, hmem⟩
  · cases h with
    | named h => exact .named (hname.trans h)
    | ofExtension h hext => exact .ofExtension (hname.trans h) hext
  · have hvalue := supplied_of_mem hcsv h hno hmem
    rw [supplied, if_pos rfl] at hvalue
    exact .named (hname.trans hvalue.symm)

end Headers

/-- The name of the format has to be among the options or at the end of the path. Then every option is
a header, and what is left out is supplied by the format, which is nothing but itself unless it is that
of separated values. The headers are options that nothing is missing of, for a file of any name, and
to give what would be supplied does not change them. -/
theorem fileHeaders_settled (path : Path) (options : SortedMap String) :
    (∀ e, fileHeaders path options = .error e
        ↔ (options.get? "format_type" = none ∧ ∀ ext, ¬ path.HasExtension ext)
          ∧ e = .invalidArgument (.unknownFormat path.text))
      ∧ ∀ headers, fileHeaders path options = .ok headers →
        (headers.entries.map Prod.fst).Pairwise (· < ·)
          ∧ (∀ name value, options.get? name = some value → headers.get? name = some value)
          ∧ (∀ path' : Path, fileHeaders path' headers = .ok headers)
          ∧ ∃ format, HasFormat path options format ∧ headers.get? "format_type" = some format
            ∧ (∀ name value, options.get? name = none → name ≠ "format_type" →
              (headers.get? name = some value
                ↔ format ∈ csvSpellings ∧ (name, value) ∈ ({} : Dialect).headers))
            ∧ (format ∈ csvSpellings → ∀ more : SortedMap String,
              (∀ name, more.get? name = options.get? name
                ∨ options.get? name = none
                  ∧ ∃ value, more.get? name = some value ∧ (name, value) ∈ ({} : Dialect).headers) →
              fileHeaders path more = .ok headers) := by
  refine ⟨fun e => fileHeaders_eq_error_iff.trans (and_congr_left fun _ => no_format_iff), ?_⟩
  intro headers h
  obtain ⟨format, hf, hget⟩ := get?_fileHeaders h
  have hformat : headers.get? "format_type" = some format := by
    rw [hget, supplied, if_pos rfl]
    exact or_of_hasFormat hf
  have hkeep {name value : String} (ho : options.get? name = some value) :
      headers.get? name = some value := by rw [hget, ho, Option.some_or]
  refine ⟨List.pairwise_map.2 headers.sorted, fun name value => hkeep, fun path' => ?_, format, hf,
    hformat, fun name value hno hne => ?_, fun hcsv more hmore => ?_⟩
  · -- What a format supplies is there already.
    refine fileHeaders_eq_ok (.named hformat) fun name => ?_
    rw [hget, Option.or_assoc, Option.or_self]
  · rw [hget, hno, Option.none_or, supplied, if_neg hne]
    split
    · next hcsv => rw [lookup_headers_iff, and_iff_right hcsv]
    · next hcsv => simp [hcsv]
  · refine fileHeaders_eq_ok (hasFormat_of_more hf hcsv hmore) fun name => ?_
    rw [hget]
    rcases hmore name with hname | ⟨hno, value, hname, hmem⟩
    · rw [hname]
    · rw [hno, hname, Option.none_or, Option.some_or, supplied_of_mem hcsv hf hno hmem]

/-- Two options of a file whose extension is written in letters of both cases. -/
theorem fileHeaders_settled_books :
    let options : SortedMap String := .ofList [("skip_header", "1"), ("field_delimiter", "|")]
    ∃ headers, fileHeaders "tmp/books.Csv/" options = .ok headers
      ∧ headers.entries = [("field_delimiter", "|"), ("format_type", "CSV"), ("quote", "\""),
        ("record_delimiter", "\\n"), ("skip_header", "1")]
      ∧ fileHeaders "books" headers = .ok headers := by
  intro options
  have heval : (fileHeaders "tmp/books.Csv/" options).toOption.map SortedMap.entries
      = some [("field_delimiter", "|"), ("format_type", "CSV"), ("quote", "\""),
        ("record_delimiter", "\\n"), ("skip_header", "1")] := by decide +kernel
  cases h : fileHeaders "tmp/books.Csv/" options with
  | error e => rw [h] at heval; cases heval
  | ok headers =>
    rw [h] at heval
    obtain ⟨-, hsettled⟩ := fileHeaders_settled "tmp/books.Csv/" options
    obtain ⟨-, -, hagain, -⟩ := hsettled headers h
    exact ⟨headers, rfl, Option.some.inj heval, hagain "books"⟩

end QueryClient.Load
