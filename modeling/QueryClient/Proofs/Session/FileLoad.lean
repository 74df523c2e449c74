import QueryClient.Proofs.Load.FileOptions
import QueryClient.Proofs.Session.Upload

/-!
# File loads on the wire

The options of a file load travel as fields of its one request, with what the format supplies for those
that are missing (`fileLoad_of_start`). Options are compared as they are written and fields are not: an
option of the format that is not written in small letters counts as missing, and as it comes first in
the order of names, what is supplied replaces it (`capital_option_replaced`).
-/

namespace QueryClient

open Http Load

/-- The names that the options of a format have. -/
def Load.formatNames : List String :=
  ["format_type", "field_delimiter", "record_delimiter", "quote", "skip_header"]

/-- The names of the fields that an upload has for what is in it: its statement and its form. -/
def Load.contentNames : List String :=
  ["insert_sql", "content-type", "content-length"]

namespace Load

section Names

variable {format name value : String}

theorem mem_formatNames (h : supplied format name = some value) : name ∈ formatNames := by
  unfold supplied at h
  split at h
  · next hname =>
    rw [hname]
    decide
  · split at h
    · exact List.mem_map_of_mem (f := Prod.fst) (SortedMap.mem_of_lookup h)
    · cases h

theorem formatName_canonical (h : name ∈ formatNames) :
    isName name = true ∧ canonicalName name = name ∧ name ∉ contentNames := by
  revert name
  decide

end Names

/-! ## Options as fields -/

section Options

variable {options headers : SortedMap String} {format name value : String}
  (hget : ∀ name, headers.get? name = (options.get? name).or (supplied format name))

include hget

theorem mem_headers {f : String × String} (hf : f ∈ headers.entries) :
    options.get? f.1 = some f.2 ∨ options.get? f.1 = none ∧ supplied format f.1 = some f.2 := by
  rw [← Option.or_eq_some_iff, ← hget]
  exact SortedMap.get?_eq_some_iff.2 hf

theorem lastNamed_of_supplied (hno : options.get? name = none)
    (h : supplied format name = some value) : lastNamed name headers.entries = some value := by
  refine lastNamed_of_get? (formatName_canonical (mem_formatNames h)).2.1 ?_
  rw [hget, hno, Option.none_or, h]

theorem lastNamed_of_given (hname : canonicalName name = name) (h : options.get? name = some value) :
    lastNamed name headers.entries = some value := by
  refine lastNamed_of_get? hname ?_
  rw [hget, h, Option.some_or]

/-- An option is the only field of its name if nothing is supplied under that name. -/
theorem lastNamed_of_apart
    (hapart : ∀ a, options.contains a = true → canonicalName a = canonicalName name → a = name)
    (hnone : supplied format (canonicalName name) = none) (h : options.get? name = some value) :
    lastNamed (canonicalName name) headers.entries = some value := by
  have hmem : (name, value) ∈ headers.entries := by
    rw [← SortedMap.get?_eq_some_iff, hget, h, Option.some_or]
  refine lastNamed_eq_some hmem rfl fun g hg hname => ?_
  rcases mem_headers hget hg with ho | ⟨-, hs⟩
  · have hsame : g.1 = name := hapart g.1 (SortedMap.contains_of_get? ho) hname
    rw [hsame, h] at ho
    exact Prod.ext hsame (Option.some.inj ho).symm
  · -- What is supplied has its name in small letters.
    rw [← hname, (formatName_canonical (mem_formatNames hs)).2.1, hs] at hnone
    cases hnone

theorem lastNamed_of_missing (hno : ∀ a, options.contains a = true → canonicalName a ≠ name) :
    lastNamed name headers.entries = supplied format name := by
  have hmissing {a v : String} (ha : options.get? a = some v) : canonicalName a ≠ name :=
    hno a (SortedMap.contains_of_get? ha)
  rcases hs : supplied format name with _ | value
  · refine lastNamed_eq_none fun f hf hname => ?_
    rcases mem_headers hget hf with ho | ⟨-, hf⟩
    · exact hmissing ho hname
    · rw [← hname, (formatName_canonical (mem_formatNames hf)).2.1, hf] at hs
      cases hs
  · refine lastNamed_of_supplied hget (Option.eq_none_iff_forall_ne_some.2 fun v hv => ?_) hs
    exact hmissing hv (formatName_canonical (mem_formatNames hs)).2.1

end Options

end Load

namespace Session

theorem formatName_not_own {s : Session} {name : String} (h : name ∈ formatNames) :
    lastNamed name (s.identity ++ s.routing) = none := by
  have hown : ∀ own ∈ ["user-agent", "authorization", "x-databend-query-id", "x-databend-tenant",
      "x-databend-warehouse"], canonicalName own ∉ formatNames := by decide
  refine lastNamed_eq_none fun f hf hname => ?_
  have hmem : f.1 ∈ ["user-agent", "authorization", "x-databend-query-id", "x-databend-tenant",
      "x-databend-warehouse"] := by
    rcases List.mem_append.1 hf with hf | hf
    · exact List.mem_append_left ["x-databend-tenant", "x-databend-warehouse"]
        (List.mem_map_of_mem (f := Prod.fst) hf)
    · rcases mem_routing hf with hf | hf <;> rw [hf] <;> decide
  exact hown f.1 hmem (hname ▸ h)

/-- The upload of what was found at a path. -/
def foundUpload (sql : String) (path : Load.Path) (content : List UInt8) (headers : SortedMap String) :
    Upload :=
  ⟨sql, headers.entries, content, content.length, uploadName path⟩

section Carried

variable {s : Session} {r : Request} {sql : String} {path : Load.Path} {content : List UInt8}
  {options headers : SortedMap String} {name value : String}

theorem loadFound_of_error {e : Error} (h : fileHeaders path options = .error e) :
    s.loadFound (.ok content) sql path options = (s, .error e) := by
  rw [loadFound, fileUpload, h]
  rfl

theorem loadFound_of_ok (h : fileHeaders path options = .ok headers) :
    s.loadFound (.ok content) sql path options
      = ((s.load (foundUpload sql path content headers)).1,
        (s.load (foundUpload sql path content headers)).2.map fun receipt =>
          ⟨receipt.stats.rows, receipt.stats.bytes⟩) := by
  rw [loadFound, fileUpload, h]
  rfl

/-- A field of the caller's is found in the request, unless the content has it. -/
theorem get?_of_uploads (h : s.Uploads (foundUpload sql path content headers) r)
    (hname : name ∉ contentNames) : r.headers.get? name
      = (lastNamed name headers.entries).or (lastNamed name (s.identity ++ s.routing)) := by
  have hne : canonicalName "insert_sql" ≠ name := by
    rintro rfl
    revert hname
    decide
  have htype : name ≠ "content-type" := by
    rintro rfl
    revert hname
    decide
  rw [h.fields name htype, lastNamed, if_neg hne, Option.or_none]
  rfl

end Carried

/-- What the request of a file load carries: the file, its statement, its options and its format. -/
structure CarriesFile (sql : String) (path : Load.Path) (content : List UInt8)
    (options : SortedMap String) (format : String) (r : Request) : Prop where
  method : r.method = .put
  target : r.url.target = "/v1/streaming_load"
  body : r.body = .form ⟨"upload", uploadName path, content, content.length⟩
  insertSql : r.headers.get? "insert_sql"
    = some (String.ofList (sql.toList.map fun c => if c = '\r' ∨ c = '\n' then ' ' else c))
  /-- An option is sent, unless it is an option of the format with capital letters in its name. -/
  given : ∀ name value, options.get? name = some value →
    (canonicalName name ∈ formatNames → canonicalName name = name) →
    r.headers.get? (canonicalName name) = some value
  /-- Under a name that was not given is sent what the format supplies. -/
  missing : ∀ name ∈ formatNames, (∀ a, options.contains a = true → canonicalName a ≠ name) →
    r.headers.get? name = supplied format name
  /-- An option of the format that is not written in small letters is sent if nothing is supplied. -/
  replaced : ∀ name value, options.get? name = some value → canonicalName name ∈ formatNames →
    canonicalName name ≠ name →
    r.headers.get? (canonicalName name) = some ((supplied format (canonicalName name)).getD value)

section FileLoad

variable {s : Session} {r : Request} {sql : String} {path : Load.Path} {content : List UInt8}
  {options headers : SortedMap String} {format : String}

theorem carriesFile_of_uploads (h : s.Uploads (foundUpload sql path content headers) r)
    (hget : ∀ name, headers.get? name = (options.get? name).or (supplied format name))
    (hnames : ∀ name, options.contains name = true → canonicalName name ∉ contentNames)
    (hapart : ∀ a b, options.contains a = true → options.contains b = true →
      canonicalName a = canonicalName b → a = b) :
    CarriesFile sql path content options format r := by
  have hsql : lastNamed "insert_sql" headers.entries = none := by
    refine lastNamed_eq_none fun f hf hname => ?_
    have hmem : canonicalName f.1 ∈ contentNames := hname ▸ List.mem_cons_self
    rcases mem_headers hget hf with ho | ⟨-, hs⟩
    · exact hnames f.1 (SortedMap.contains_of_get? ho) hmem
    · obtain ⟨-, hcanonical, hnot⟩ := formatName_canonical (mem_formatNames hs)
      exact hnot (hcanonical ▸ hmem)
  have hsent {name value : String} (ho : options.get? name = some value)
      {sent : String} (hlast : lastNamed (canonicalName name) headers.entries = some sent) :
      r.headers.get? (canonicalName name) = some sent := by
    rw [get?_of_uploads h (hnames name (SortedMap.contains_of_get? ho)), hlast,
      Option.some_or]
  have halone {name value : String} (ho : options.get? name = some value) (a : String)
      (ha : options.contains a = true) (hname : canonicalName a = canonicalName name) : a = name :=
    hapart a name ha (SortedMap.contains_of_get? ho) hname
  refine ⟨h.method, h.target, h.body, h.insertSql hsql, fun name value ho hsmall => ?_,
    fun name hname hno => ?_, fun name value ho hformat hne => ?_⟩
  · rcases hs : supplied format (canonicalName name) with _ | v
    · exact hsent ho (lastNamed_of_apart hget (halone ho) hs ho)
    · have hcanonical := hsmall (mem_formatNames hs)
      refine hsent ho ?_
      rw [hcanonical]
      exact lastNamed_of_given hget hcanonical ho
  · obtain ⟨-, -, hnot⟩ := formatName_canonical hname
    rw [get?_of_uploads h hnot, lastNamed_of_missing hget hno, formatName_not_own hname,
      Option.or_none]
  · rcases hs : supplied format (canonicalName name) with _ | v
    · exact hsent ho (lastNamed_of_apart hget (halone ho) hs ho)
    · -- The option is not found under its name in small letters, so something is supplied there.
      have hno : options.get? (canonicalName name) = none := by
        refine Option.eq_none_iff_forall_ne_some.2 fun w hw => hne ?_
        exact halone ho _ (SortedMap.contains_of_get? hw)
          (formatName_canonical hformat).2.1
      exact hsent ho (lastNamed_of_supplied hget hno hs)

end FileLoad

/-- Whatever was done with a connection before, a file whose format is not told is not loaded, and
neither is one with a field that cannot be sent. Otherwise one request is made, and it carries the
statement and the options. What the format supplies is sent for the names that were not given, but an
option of the format counts as not given if its name is not in small letters. -/
theorem fileLoad_of_start {c : Config} {userAgent : String} {network : Network} {s₀ : Session}
    (h : start c userAgent network = .ok s₀) (before : List Operation) (sql : String)
    (path : Load.Path) (content : List UInt8) {options : SortedMap String}
    (hnames : ∀ name, options.contains name = true →
      isName name = true ∧ canonicalName name ∉ contentNames)
    (hapart : ∀ a b, options.contains a = true → options.contains b = true →
      canonicalName a = canonicalName b → a = b) :
    let s := (Operation.runAll ⟨s₀, []⟩ before).session
    let loaded := s.loadFound (.ok content) sql path options
    (∀ e, fileHeaders path options = .error e → loaded = (s, .error e))
      ∧ ∀ headers, fileHeaders path options = .ok headers →
        let fields := ("insert_sql", headerSql sql) :: headers.entries
          ++ optionalHeader "x-databend-tenant" s.tenant
          ++ optionalHeader "x-databend-warehouse" s.warehouse
        (∀ f, fields.find? (fun f => HoldsControl f.2) = some f →
          loaded = (s, .error (.invalidArgument (.headerValue (canonicalName f.1)))))
        ∧ ((∀ f ∈ fields, ¬ HoldsControl f.2) → ∃ r format,
          loaded.1 = { s with network := (s.network.send r).1, nextId := s.nextId + 1 }
            ∧ HasFormat path options format ∧ CarriesFile sql path content options format r) := by
  intro s loaded
  refine ⟨fun e => loadFound_of_error, fun headers hheaders => ?_⟩
  intro fields
  have hready : s.IsReady := (isReady_start h).runAll (c := ⟨s₀, []⟩) before
  obtain ⟨format, hformat, hget⟩ := get?_fileHeaders hheaders
  have hloaded : loaded = _ := loadFound_of_ok hheaders
  have hfields : s.uploadFields (foundUpload sql path content headers) = fields := by
    simp only [uploadFields, foundUpload, routing, fields, List.append_assoc]
  have hsendable : ∀ f ∈ (foundUpload sql path content headers).headers, isName f.1 = true := by
    intro f hf
    rcases mem_headers hget hf with ho | ⟨-, hs⟩
    · exact (hnames f.1 (SortedMap.contains_of_get? ho)).1
    · exact (formatName_canonical (mem_formatNames hs)).1
  rcases load_cases hready hsendable with ⟨f, hf, hload⟩ | ⟨hnone, r, hr, hload⟩
  · rw [hfields] at hf
    refine ⟨fun g hg => ?_, fun hall => ?_⟩
    · obtain rfl : f = g := Option.some.inj (hf.symm.trans hg)
      rw [hloaded, hload]
      rfl
    · exact absurd (by simpa using List.find?_some hf) (hall f (List.mem_of_find?_eq_some hf))
  · rw [hfields] at hnone
    refine ⟨fun f hf => ?_, fun _ => ⟨r, format, ?_, hformat, ?_⟩⟩
    · rw [hnone] at hf
      cases hf
    · rw [hloaded, hload]
    · exact carriesFile_of_uploads hr hget (fun name hname => (hnames name hname).2) hapart

/-- A file with an option of its format, a note, and a statement on two lines. -/
theorem fileLoad_of_start_books :
    let c : Config := { transport := .http, host := "[::1]", port := some 8000 }
    let network : Network := { host := "[::1]", port := 8000, script := [.close] }
    let options : SortedMap String := .ofList [("field_delimiter", "|"), ("X-Note", "1|2")]
    let sql := "INSERT INTO t\r\nVALUES"
    ∃ s r, start c "client" network = .ok s
      ∧ (s.loadFound (.ok [49, 124, 50]) sql "tmp/books.csv" options).1
        = { s with network := (s.network.send r).1, nextId := s.nextId + 1 }
      ∧ r.headers.get? "insert_sql" = some "INSERT INTO t  VALUES"
      ∧ r.headers.get? "x-note" = some "1|2"
      ∧ r.headers.get? "field_delimiter" = some "|"
      ∧ r.headers.get? "format_type" = some "CSV" := by
  intro c network options sql
  have hoptions : options.entries = [("X-Note", "1|2"), ("field_delimiter", "|")] := by
    decide +kernel
  have hheaders : (fileHeaders "tmp/books.csv" options).toOption.map SortedMap.entries
      = some [("X-Note", "1|2"), ("field_delimiter", "|"), ("format_type", "CSV"),
        ("quote", "\""), ("record_delimiter", "\\n"), ("skip_header", "0")] := by decide +kernel
  have heval : (start c "client" network).toOption.map (fun s => (s.tenant, s.warehouse))
      = some (none, none) := by decide +kernel
  have hmem : ∀ name, options.contains name = true → name ∈ ["X-Note", "field_delimiter"] := by
    intro name hname
    obtain ⟨value, hvalue⟩ := SortedMap.contains_eq_true_iff.1 hname
    have hentry := SortedMap.get?_eq_some_iff.1 hvalue
    rw [hoptions] at hentry
    exact List.mem_map_of_mem (f := Prod.fst) hentry
  have hnames : ∀ name ∈ ["X-Note", "field_delimiter"],
      isName name = true ∧ canonicalName name ∉ contentNames := by decide
  have hapart : ∀ a ∈ ["X-Note", "field_delimiter"], ∀ b ∈ ["X-Note", "field_delimiter"],
      canonicalName a = canonicalName b → a = b := by decide
  have hmissing : ∀ name ∈ ["X-Note", "field_delimiter"], canonicalName name ≠ "format_type" := by
    decide
  have hno : options.get? "format_type" = none := by decide +kernel
  have hextension : Path.HasExtension "tmp/books.csv" "csv" :=
    Path.extension?_eq_some_iff.1 (by decide +kernel)
  cases h : start c "client" network with
  | error e => rw [h] at heval; cases heval
  | ok s =>
    rw [h] at heval
    simp only [Except.toOption, Option.map_some, Option.some.injEq, Prod.mk.injEq] at heval
    obtain ⟨htenant, hwarehouse⟩ := heval
    cases hfile : fileHeaders "tmp/books.csv" options with
    | error e => rw [hfile] at hheaders; cases hheaders
    | ok headers =>
      rw [hfile] at hheaders
      have hentries := Option.some.inj hheaders
      obtain ⟨-, hsent⟩ := fileLoad_of_start h [] sql "tmp/books.csv" [49, 124, 50]
        (fun name hname => hnames name (hmem name hname))
        (fun a b ha hb => hapart a (hmem a ha) b (hmem b hb))
      obtain ⟨-, hrequest⟩ := hsent headers hfile
      obtain ⟨r, format, hs, hformat, hr⟩ := hrequest (by
        simp only [Operation.runAll, List.foldl_nil, htenant, hwarehouse, hentries]
        decide)
      have hgiven {name value : String} (h : (name, value) ∈ options.entries) :
          options.get? name = some value := SortedMap.get?_eq_some_iff.2 h
      refine ⟨s, r, rfl, hs, hr.insertSql.trans (by decide), ?_, ?_, ?_⟩
      · exact hr.given "X-Note" "1|2" (hgiven (by rw [hoptions]; decide)) (by decide)
      · exact hr.given "field_delimiter" "|" (hgiven (by rw [hoptions]; decide)) (by decide)
      · rw [hr.missing "format_type" (by decide) fun a ha => hmissing a (hmem a ha),
          hasFormat_unique hformat (.ofExtension hno hextension)]
        decide

/-- An option of the format in capitals gives way to what the format supplies. -/
theorem capital_option_replaced :
    let c : Config := { transport := .http, host := "[::1]", port := some 8000 }
    let network : Network := { host := "[::1]", port := 8000, script := [.close] }
    let options := SortedMap.empty.insert "FIELD_DELIMITER" "|"
    ((start c "client" network).toOption.map fun s =>
      (s.loadFile ⟨[("f.csv", [49, 124, 50])]⟩ "INSERT INTO t" "f.csv" options).1.network.sent.map
        fun r => (r.method, r.headers.get? (canonicalName "FIELD_DELIMITER")))
      = some [(.put, some ",")] := by
  decide +kernel

end Session

end QueryClient
