import QueryClient.Proofs.Load.Records
import QueryClient.Proofs.Text.Utf8
import Mathlib.Data.List.Forall2
import Mathlib.Data.List.Infix
import Mathlib.Tactic.Tauto

/-!
# Reading separated values

A reader of a dialect takes one byte at a time. Outside quotes a delimiter ends a field, and the end of
a record ends a record; an empty line is none. In quotes all bytes belong to the field, and a quote
is one of them when it comes twice. Where delimiter, quote and record end are told apart, reading gives
back the rows that were written (`run_records`).
-/

namespace QueryClient.Load

open QueryClient.Text

/-! ## Readers -/

/-- Where a reader is. -/
inductive Place where
  /-- Between records. -/
  | fresh
  /-- Before a field that is not the first one. -/
  | between
  /-- In a field without quotes. -/
  | bare
  /-- In quotes. -/
  | enclosed
  /-- After a quote, which is the last one of a field or the first of two. -/
  | closed
  /-- In the middle of the end of a record, or of an empty line. -/
  | ending (isBlank : Bool)
  deriving DecidableEq

/-- Whether what was read may be a whole field. -/
def Place.isAfterField : Place → Bool
  | .fresh | .between | .bare | .closed => true
  | .enclosed | .ending _ => false

/-- The records that were read, the fields of the record after them, and the bytes of the field after
those. -/
structure Reader where
  place : Place := .fresh
  field : List UInt8 := []
  fields : List (List UInt8) := []
  rows : List (List (List UInt8)) := []

namespace Reader

def push (r : Reader) (place : Place) (b : UInt8) : Reader :=
  { r with place, field := r.field ++ [b] }

def endField (r : Reader) : Reader :=
  { r with place := .between, field := [], fields := r.fields ++ [r.field] }

def endRecord (r : Reader) : Reader :=
  { rows := r.rows ++ [r.fields ++ [r.field]] }

/-- The end of a line, which is a record unless it is blank. -/
def endLine (r : Reader) (isBlank : Bool) : Reader :=
  if isBlank then { r with place := .fresh } else r.endRecord

end Reader

/-- The byte that a record end starts with. -/
def RecordEnd.first : RecordEnd → UInt8
  | .newline => 10
  | .crlf => 13
  | .byte b => b

namespace Dialect

/-- A byte outside quotes. -/
def stepOut (d : Dialect) (r : Reader) (b : UInt8) : Option Reader :=
  if b = d.fieldDelimiter then some r.endField
  else if b = d.recordEnd.first then
    if d.recordEnd = .crlf then some { r with place := .ending (r.place = .fresh) }
    else some (r.endLine (r.place = .fresh))
  else if b = d.quote ∨ r.place = .closed then none
  else some (r.push .bare b)

def step (d : Dialect) (r : Reader) (b : UInt8) : Option Reader :=
  match r.place with
  | .fresh | .between => if b = d.quote then some { r with place := .enclosed } else d.stepOut r b
  | .bare => d.stepOut r b
  | .enclosed => some (if b = d.quote then { r with place := .closed } else r.push .enclosed b)
  | .closed => if b = d.quote then some (r.push .enclosed b) else d.stepOut r b
  | .ending isBlank => if b = 10 then some (r.endLine isBlank) else none

def run (d : Dialect) (r : Reader) (bytes : List UInt8) : Option Reader :=
  bytes.foldlM d.step r

/-- The records of a text, all of which have an end. -/
def read (d : Dialect) (bytes : List UInt8) : Option (List (List (List UInt8))) :=
  (d.run {} bytes).bind fun r => if r.place = .fresh then some r.rows else none

/-! ## Reading what was written -/

end Dialect

/-- The bytes that neither a delimiter nor a quote may be. -/
def RecordEnd.reserved : RecordEnd → List UInt8
  | .newline | .crlf => [10, 13]
  | .byte b => [b]

/-- Whether delimiter, quote and record end can be told apart. -/
structure Dialect.IsDistinct (d : Dialect) : Prop where
  delimiter_ne_quote : d.fieldDelimiter ≠ d.quote
  delimiter : d.fieldDelimiter ∉ d.recordEnd.reserved
  quote : d.quote ∉ d.recordEnd.reserved

theorem RecordEnd.first_mem_reserved (e : RecordEnd) : e.first ∈ e.reserved := by
  cases e <;> simp [first, reserved]

theorem RecordEnd.isMarked_first (e : RecordEnd) : e.isMarked e.first = true := by
  cases e with
  | newline | crlf => rfl
  | byte b =>
    simp only [isMarked, first]
    split
    · next hb => rcases hb with rfl | rfl <;> rfl
    · simp

theorem RecordEnd.isMarked_iff (e : RecordEnd) (b : UInt8) :
    e.isMarked b = true ↔ e.bytes = [b] ∨ e.bytes ∈ [[10], [13], [13, 10]] ∧ (b = 10 ∨ b = 13) := by
  cases e with
  | newline =>
    simp [isMarked, bytes]
    tauto
  | crlf => simp [isMarked, bytes]
  | byte c =>
    by_cases hc : c = 10 ∨ c = 13
    · simp only [isMarked, bytes, hc, if_true]
      rcases hc with rfl | rfl <;> simp <;> tauto
    · simp [isMarked, bytes, hc, eq_comm]

theorem RecordEnd.exists_isMarked_iff (e : RecordEnd) (f : List UInt8) :
    (∃ b ∈ f, e.isMarked b = true)
      ↔ e.bytes <:+: f ∨ e.bytes ∈ [[10], [13], [13, 10]] ∧ (10 ∈ f ∨ 13 ∈ f) := by
  simp only [isMarked_iff]
  constructor
  · rintro ⟨b, hb, he | ⟨he, rfl | rfl⟩⟩
    · exact .inl (he ▸ (List.singleton_infix_iff b f).2 hb)
    · exact .inr ⟨he, .inl hb⟩
    · exact .inr ⟨he, .inr hb⟩
  · rintro (hpart | ⟨he, hb | hb⟩)
    · cases e with
      | newline => exact ⟨10, hpart.subset (by simp [bytes]), .inl rfl⟩
      | crlf => exact ⟨13, hpart.subset (by simp [bytes]), .inr ⟨by decide, .inr rfl⟩⟩
      | byte b => exact ⟨b, hpart.subset (by simp [bytes]), .inl rfl⟩
    · exact ⟨10, hb, .inr ⟨he, .inl rfl⟩⟩
    · exact ⟨13, hb, .inr ⟨he, .inr rfl⟩⟩

namespace Dialect

variable {d : Dialect}

theorem IsDistinct.delimiter_ne_first (h : d.IsDistinct) : d.fieldDelimiter ≠ d.recordEnd.first :=
  fun heq => h.delimiter (heq ▸ d.recordEnd.first_mem_reserved)

theorem IsDistinct.quote_ne_first (h : d.IsDistinct) : d.quote ≠ d.recordEnd.first :=
  fun heq => h.quote (heq ▸ d.recordEnd.first_mem_reserved)

@[simp] theorem run_nil (r : Reader) : d.run r [] = some r := rfl

theorem run_cons (r : Reader) (b : UInt8) (bytes : List UInt8) :
    d.run r (b :: bytes) = (d.step r b).bind (d.run · bytes) := rfl

theorem run_append (r : Reader) (a b : List UInt8) :
    d.run r (a ++ b) = (d.run r a).bind (d.run · b) := by
  simp only [run, List.foldlM_append]
  rfl

section Field

variable {r : Reader} {f : List UInt8}

/-- In quotes every byte is read as it was, and a quote for every two. -/
theorem run_doubled (hr : r.place = .enclosed) :
    d.run r (f.flatMap fun b => if b = d.quote then [b, b] else [b])
      = some { r with field := r.field ++ f } := by
  induction f generalizing r with
  | nil => simp
  | cons b f ih =>
    have hrest := ih (r := r.push .enclosed b) rfl
    simp only [Reader.push, List.append_assoc, List.singleton_append] at hrest
    rw [List.flatMap_cons, run_append]
    by_cases hb : b = d.quote
    · simp only [hb, if_true] at hrest ⊢
      simp only [run_cons, run_nil, step, hr, if_true, Option.bind_some, Reader.push, hrest]
    · simp only [hb, if_false]
      simp only [run_cons, run_nil, step, hr, hb, if_false, Option.bind_some, Reader.push, hrest]

theorem run_enclosed (hr : r.place = .fresh ∨ r.place = .between) (hf : r.field = []) :
    d.run r (d.enclosed f) = some { r with place := .closed, field := f } := by
  have hopen : d.step r d.quote = some { r with place := .enclosed } := by
    rcases hr with hr | hr <;> simp [step, hr]
  rw [enclosed, List.cons_append, run_cons, hopen, Option.bind_some, run_append,
    run_doubled rfl, Option.bind_some, run_cons]
  simp [step, hf]

/-- Without quotes no byte has a meaning of its own. -/
theorem run_plain (hr : r.place = .bare) (hf : f.any d.isSpecial = false) :
    d.run r f = some { r with field := r.field ++ f } := by
  induction f generalizing r with
  | nil => simp
  | cons b f ih =>
    obtain ⟨hb, hrest⟩ : d.isSpecial b = false ∧ f.any d.isSpecial = false := by
      simpa using hf
    simp only [isSpecial, Bool.or_eq_false_iff, decide_eq_false_iff_not] at hb
    obtain ⟨⟨hdelimiter, hquote⟩, hmarked⟩ := hb
    have hfirst : b ≠ d.recordEnd.first := by
      rintro rfl
      simp [d.recordEnd.isMarked_first] at hmarked
    have hstep : d.step r b = some (r.push .bare b) := by
      simp [step, stepOut, hr, hdelimiter, hquote, hfirst]
    rw [run_cons, hstep, Option.bind_some, ih rfl hrest]
    simp [Reader.push, ← hr]

/-- A reader after a field, which stays between records if it read nothing of the first one. -/
theorem run_field (f : List UInt8) (hr : r.place = .fresh ∨ r.place = .between)
    (hf : r.field = []) :
    ∃ place, d.run r (d.field f) = some { r with place, field := f }
      ∧ (place = .bare ∨ place = .closed ∨ place = r.place ∧ f = []) := by
  unfold field
  split
  · exact ⟨.closed, run_enclosed hr hf, .inr (.inl rfl)⟩
  · next hplain =>
    cases f with
    | nil =>
      have hsame : { r with field := [] } = r := by rw [← hf]
      exact ⟨r.place, by rw [hsame, run_nil], .inr (.inr ⟨rfl, rfl⟩)⟩
    | cons b rest =>
      -- The first byte leads into the field, the others are read there.
      have hall : (b :: rest).any d.isSpecial = false := by simpa using hplain
      have hbare := run_plain (r := { r with place := .bare }) rfl hall
      have hfirst : d.step r b = d.step { r with place := .bare } b := by
        have hb : d.isSpecial b = false := by simp_all
        simp only [isSpecial, Bool.or_eq_false_iff, decide_eq_false_iff_not] at hb
        have hne : b ≠ d.recordEnd.first := by
          rintro rfl
          simp [d.recordEnd.isMarked_first] at hb
        rcases hr with hr | hr <;>
          simp [step, stepOut, hr, hb.1.1, hb.1.2, hne, Reader.push]
      refine ⟨.bare, ?_, .inl rfl⟩
      rw [run_cons, hfirst, ← run_cons, hbare]
      simp [hf]

end Field

section Record

variable {r : Reader}

theorem step_delimiter (h : d.IsDistinct) (hr : r.place.isAfterField = true) :
    d.step r d.fieldDelimiter = some r.endField := by
  have hne := h.delimiter_ne_quote
  cases hp : r.place <;> simp [hp, Place.isAfterField] at hr <;> simp [step, stepOut, hp, hne]

theorem run_end (h : d.IsDistinct) (hr : r.place.isAfterField = true) (hfresh : r.place ≠ .fresh) :
    d.run r d.recordEnd.bytes = some r.endRecord := by
  have hfirst : d.step r d.recordEnd.first = d.stepOut r d.recordEnd.first := by
    have hne : d.recordEnd.first ≠ d.quote := h.quote_ne_first.symm
    cases hp : r.place <;> simp [hp, Place.isAfterField] at hr <;> simp [step, hp, hne]
  have hne : d.recordEnd.first ≠ d.fieldDelimiter := h.delimiter_ne_first.symm
  cases he : d.recordEnd with
  | newline | byte b =>
    simp only [he, RecordEnd.first] at hfirst hne
    simp [RecordEnd.bytes, run_cons, hfirst, stepOut, he, RecordEnd.first, hne, Reader.endLine,
      hfresh]
  | crlf =>
    simp only [he, RecordEnd.first] at hfirst hne
    have hcr : d.step r 13 = some { r with place := .ending false } := by
      simp [hfirst, stepOut, he, RecordEnd.first, hne, hfresh]
    rw [RecordEnd.bytes, run_cons, hcr, Option.bind_some, run_cons]
    simp [step, Reader.endLine, Reader.endRecord]

theorem run_joined (h : d.IsDistinct) {fields : List (List UInt8)} (hne : fields ≠ [])
    (hr : r.place = .fresh ∨ r.place = .between) (hf : r.field = []) :
    ∃ r', d.run r (d.joined fields) = some r' ∧ r'.place.isAfterField = true
      ∧ r'.rows = r.rows ∧ r'.fields ++ [r'.field] = r.fields ++ fields
      ∧ (r'.place = .fresh → r.place = .fresh ∧ fields = [[]]) := by
  induction fields generalizing r with
  | nil => exact absurd rfl hne
  | cons f rest ih =>
    obtain ⟨place, hrun, hplace⟩ := d.run_field f hr hf
    have hafter : place.isAfterField = true := by
      rcases hplace with rfl | rfl | ⟨rfl, -⟩
      · rfl
      · rfl
      · rcases hr with hr | hr <;> rw [hr] <;> rfl
    cases rest with
    | nil =>
      refine ⟨{ r with place, field := f }, ?_, hafter, rfl, rfl, ?_⟩
      · rw [joined_singleton, hrun]
      · rintro rfl
        rcases hplace with hp | hp | ⟨hp, rfl⟩
        · cases hp
        · cases hp
        · exact ⟨hp.symm, rfl⟩
    | cons g rest =>
      let w : Reader := { r with place, field := f }
      obtain ⟨r', hrun', hafter', hrows, hfields, hfresh⟩ :=
        ih (r := w.endField) (List.cons_ne_nil g rest) (.inr rfl) rfl
      refine ⟨r', ?_, hafter', hrows, ?_, ?_⟩
      · rw [joined_cons_cons, run_append, hrun, Option.bind_some, run_cons,
          step_delimiter h hafter, Option.bind_some]
        exact hrun'
      · rw [hfields]
        simp [w, Reader.endField]
      · intro hp
        cases (hfresh hp).1

theorem run_record (h : d.IsDistinct) {row : List (List UInt8)} (hne : row ≠ [])
    (rows : List (List (List UInt8))) :
    d.run { rows } (d.record row) = some { rows := rows ++ [row] } := by
  by_cases hl : row = [[]]
  · subst hl
    rw [record_lone_empty, run_append, run_enclosed (.inl rfl) rfl, Option.bind_some,
      run_end h rfl (by simp)]
    rfl
  · obtain ⟨r', hrun, hafter, hrows, hfields, hfresh⟩ :=
      run_joined (r := { rows }) h hne (.inl rfl) rfl
    rw [d.record_of_ne hne hl, run_append, hrun, Option.bind_some,
      run_end h hafter fun hp => hl (hfresh hp).2]
    simp [Reader.endRecord, hrows, hfields]

theorem run_records (h : d.IsDistinct) {more : List (List (List UInt8))}
    (hne : ∀ row ∈ more, row ≠ []) (rows : List (List (List UInt8))) :
    d.run { rows } (d.records more) = some { rows := rows ++ more } := by
  induction more generalizing rows with
  | nil => simp [records]
  | cons row more ih =>
    obtain ⟨hrow, hmore⟩ := List.forall_mem_cons.1 hne
    have hsplit : d.records (row :: more) = d.record row ++ d.records more := rfl
    rw [hsplit, run_append, run_record h hrow, Option.bind_some, ih hmore, List.append_assoc]
    rfl

theorem read_records (h : d.IsDistinct) {rows : List (List (List UInt8))}
    (hne : ∀ row ∈ rows, row ≠ []) : d.read (d.records rows) = some rows := by
  simp [read, run_records h hne []]

end Record

/-! ## Quotes -/

/-- Whether a field holds a byte that a reader could take for something else. -/
def NeedsQuotes (d : Dialect) (f : List UInt8) : Prop :=
  d.fieldDelimiter ∈ f ∨ d.quote ∈ f ∨ d.recordEnd.bytes <:+: f
    ∨ d.recordEnd.bytes ∈ [[10], [13], [13, 10]] ∧ (10 ∈ f ∨ 13 ∈ f)

theorem any_isSpecial_iff (d : Dialect) (f : List UInt8) :
    f.any d.isSpecial = true ↔ d.NeedsQuotes f := by
  unfold NeedsQuotes
  rw [← RecordEnd.exists_isMarked_iff]
  simp only [List.any_eq_true, isSpecial, Bool.or_eq_true, decide_eq_true_eq, or_assoc, and_or_left,
    exists_or, exists_eq_right]

/-- How a field is written in a record: in quotes if it needs them, or if there would be nothing. -/
def IsWritten (d : Dialect) (fields : List (List UInt8)) (f written : List UInt8) : Prop :=
  (d.NeedsQuotes f ∨ fields = [[]] → written = d.enclosed f)
    ∧ (¬ (d.NeedsQuotes f ∨ fields = [[]]) → written = f)

theorem record_written (d : Dialect) {fields : List (List UInt8)} (h : fields ≠ []) :
    ∃ written, List.Forall₂ (d.IsWritten fields) fields written
      ∧ d.record fields = [d.fieldDelimiter].intercalate written ++ d.recordEnd.bytes := by
  by_cases hl : fields = [[]]
  · subst hl
    refine ⟨[d.enclosed []], .cons ⟨fun _ => rfl, fun hn => absurd (.inr rfl) hn⟩ .nil, ?_⟩
    simpa using d.record_lone_empty
  · refine ⟨fields.map d.field, ?_, d.record_of_ne h hl⟩
    rw [List.forall₂_map_right_iff, List.forall₂_same]
    intro f _
    unfold IsWritten field
    rw [← any_isSpecial_iff]
    by_cases hf : f.any d.isSpecial = true <;> simp [hf, hl]

end Dialect

/-! ## Headers -/

/-- A text in which a backslash and a letter stand for a control. -/
def unescape : List Char → List Char
  | '\\' :: 'n' :: rest => '\n' :: unescape rest
  | '\\' :: 'r' :: rest => '\r' :: unescape rest
  | '\\' :: 't' :: rest => '\t' :: unescape rest
  | c :: rest => c :: unescape rest
  | [] => []

/-- The bytes that a header value stands for. -/
def headerBytes (value : String) : List UInt8 :=
  Utf8.encode (unescape value.toList)

def headerByte? (value : String) : Option UInt8 :=
  match headerBytes value with
  | [b] => some b
  | _ => none

def RecordEnd.ofHeader? (value : String) : Option RecordEnd :=
  match headerBytes value with
  | [13, 10] => some .crlf
  | [10] => some .newline
  | [b] => some (.byte b)
  | _ => none

/-- The dialect that headers tell. -/
def Dialect.ofHeaders? (headers : List (String × String)) : Option Dialect := do
  let fieldDelimiter ← headerByte? (← headers.lookup "field_delimiter")
  let recordEnd ← RecordEnd.ofHeader? (← headers.lookup "record_delimiter")
  let quote ← headerByte? (← headers.lookup "quote")
  return { fieldDelimiter, recordEnd, quote }

/-- A line feed that ends records is a newline. -/
def RecordEnd.canonical (e : RecordEnd) : RecordEnd :=
  if e = .byte 10 then .newline else e

@[simp] theorem unescape_singleton (c : Char) : unescape [c] = [c] := by
  unfold unescape
  split <;> simp_all [unescape]

theorem headerBytes_headerByte {b : UInt8} (h : b < 128) :
    headerBytes (Dialect.headerByte b) = [b] := by
  unfold Dialect.headerByte
  split
  · next hb => subst hb; rfl
  · split
    · next hb => subst hb; rfl
    · split
      · next hb => subst hb; rfl
      · have hlt : b.toNat < 128 := h
        have hc : (Char.ofNat b.toNat).toNat = b.toNat := Utf8.toNat_ofNat (.inl (by omega))
        rw [headerBytes, String.toList_singleton, unescape_singleton, Utf8.encode_cons,
          Utf8.encodeChar_of_lt (by omega), hc, UInt8.ofNat_toNat]
        rfl

theorem RecordEnd.ofHeader?_header {e : RecordEnd} (h : ∀ b ∈ e.bytes, b < 128) :
    RecordEnd.ofHeader? e.header = some e.canonical := by
  cases e with
  | newline | crlf => rfl
  | byte b =>
    have hb : headerBytes (RecordEnd.byte b).header = [b] :=
      headerBytes_headerByte (h b (by simp [bytes]))
    by_cases hlf : b = 10
    · subst hlf
      rfl
    · simp [ofHeader?, hb, canonical, hlf]

theorem Dialect.ofHeaders?_headers {d : Dialect} (hd : d.fieldDelimiter < 128)
    (hq : d.quote < 128) (he : ∀ b ∈ d.recordEnd.bytes, b < 128) :
    Dialect.ofHeaders? d.headers = some { d with recordEnd := d.recordEnd.canonical } := by
  have hdelimiter : headerByte? (headerByte d.fieldDelimiter) = some d.fieldDelimiter := by
    simp [headerByte?, headerBytes_headerByte hd]
  have hquote : headerByte? (headerByte d.quote) = some d.quote := by
    simp [headerByte?, headerBytes_headerByte hq]
  have hlookup : d.headers.lookup "field_delimiter" = some (headerByte d.fieldDelimiter)
      ∧ d.headers.lookup "record_delimiter" = some d.recordEnd.header
      ∧ d.headers.lookup "quote" = some (headerByte d.quote) := ⟨rfl, rfl, rfl⟩
  simp [ofHeaders?, hlookup, hdelimiter, hquote, RecordEnd.ofHeader?_header he]

/-! ## A body and its headers -/

/-- What is uploaded can be read: the rows from the body, the dialect from the headers. -/
theorem Dialect.uploads_readable (d : Dialect) :
    (d.IsDistinct → ∀ rows : List (List (List UInt8)), (∀ row ∈ rows, row ≠ []) →
      d.read (d.records rows) = some rows)
    ∧ (∀ row, d.record row ≠ d.recordEnd.bytes)
    ∧ (∀ fields, fields ≠ [] →
      ∃ written, List.Forall₂ (d.IsWritten fields) fields written
        ∧ d.record fields = [d.fieldDelimiter].intercalate written ++ d.recordEnd.bytes)
    ∧ (d.fieldDelimiter < 128 → d.quote < 128 → (∀ b ∈ d.recordEnd.bytes, b < 128) →
      Dialect.ofHeaders? d.headers = some { d with recordEnd := d.recordEnd.canonical }) :=
  ⟨fun h _ hne => read_records h hne, d.record_ne_end, fun _ hne => d.record_written hne,
    ofHeaders?_headers⟩

/-- Tabs, carriage returns with line feeds and apostrophes, in fields as well. -/
theorem Dialect.uploads_readable_tab_crlf :
    let d : Dialect := { fieldDelimiter := 9, recordEnd := .crlf, quote := 39 }
    let rows : List (List (List UInt8)) :=
      [[Utf8.encode "it's\t".toList, [], [13, 10]], [[]], [Utf8.encode "é".toList, [0, 255]]]
    d.IsDistinct ∧ (∀ row ∈ rows, row ≠ []) ∧ d.read (d.records rows) = some rows
      ∧ d.record [[]] ≠ [13, 10]
      ∧ (∃ written, List.Forall₂ (d.IsWritten [[]]) [[]] written
        ∧ d.record [[]] = [9].intercalate written ++ [13, 10])
      ∧ Dialect.ofHeaders? d.headers = some d := by
  intro d rows
  have hd : d.IsDistinct := ⟨by decide, by decide, by decide⟩
  have hrows : ∀ row ∈ rows, row ≠ [] := by simp [rows]
  obtain ⟨hread, hend, hwritten, hheaders⟩ := d.uploads_readable
  exact ⟨hd, hrows, hread hd rows hrows, hend [[]], hwritten [[]] (by simp),
    hheaders (by decide) (by decide) (by decide +kernel)⟩

end QueryClient.Load
