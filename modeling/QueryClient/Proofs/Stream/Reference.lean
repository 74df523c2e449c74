import Mathlib.Tactic.SplitIfs
import QueryClient.Stream.Basic

/-!
# What a query reads as

`Reading.of` says what the rows of a query are without a stream: the pages in the order of their
links, each read under the first schema that is not empty so far, up to the first failure. It looks
all earlier pages up again where a stream remembers the columns and the number of rows; `readOn` is
the same with these two alone (`readPages_eq_readOn`).
-/

namespace QueryClient

/-- Rows, and the failure after them if there is one. -/
structure Reading where
  rows : List Row := []
  error : Option Error := none
  deriving DecidableEq, Repr

namespace Reading

def failed (e : Error) : Reading := { error := some e }

def cons (r : Row) (a : Reading) : Reading := { a with rows := r :: a.rows }

/-- One reading after another, unless the first one fails. -/
def andThen (a b : Reading) : Reading :=
  match a.error with
  | some _ => a
  | none => { b with rows := a.rows ++ b.rows }

@[simp] theorem nil_andThen (a : Reading) : ({} : Reading).andThen a = a := rfl

@[simp] theorem failed_andThen (e : Error) (a : Reading) : (failed e).andThen a = failed e := rfl

@[simp] theorem andThen_nil (a : Reading) : a.andThen {} = a := by
  unfold andThen
  cases a with
  | mk rows error => cases error <;> simp

@[simp] theorem cons_andThen (r : Row) (a b : Reading) :
    (a.cons r).andThen b = (a.andThen b).cons r := by
  cases he : a.error <;> simp [andThen, cons, he]

/-! ## Rows -/

/-- The values of the fields under their columns, or the failure of the first one that has none. -/
def readFields (columns : List Column) (raw : RawRow) : Result (List Value) :=
  (columns.zip raw).zipIdx.mapM fun ((c, field), i) => Value.decode c.type field i

/-- The row of some fields, after `n` other ones. -/
def readRow (columns : List Column) (n : Nat) (raw : RawRow) : Result Row :=
  if raw.length = columns.length then (readFields columns raw).map fun values => ⟨columns, values⟩
  else .error (.transport (.rowWidth n raw.length columns.length))

/-- Rows up to the first one that fails, after `n` other ones. -/
def readRows (columns : List Column) (n : Nat) : List RawRow → Reading
  | [] => {}
  | raw :: rest =>
    match readRow columns n raw with
    | .ok row => (readRows columns (n + 1) rest).cons row
    | .error e => failed e

/-! ## Pages -/

/-- The schema in force for the last of some pages: the first one that is not empty. -/
def inForce (pages : List QueryPage) : List SchemaField :=
  match pages.find? (·.schema ≠ []) with
  | some page => page.schema
  | none => []

/-- A page after others, and after `n` rows. -/
def readPage (earlier : List QueryPage) (n : Nat) (page : QueryPage) : Reading :=
  match page.error with
  | some rejection => failed (.remote rejection.code rejection.message)
  | none =>
    match (inForce (earlier ++ [page])).mapM Column.ofField with
    | .ok columns => readRows columns n page.data
    | .error e => failed e

/-- Pages after others, and after `n` rows, up to the first failure. -/
def readPages (earlier : List QueryPage) (n : Nat) : List (Result QueryPage) → Reading
  | [] => {}
  | .error e :: _ => failed e
  | .ok page :: later =>
    let here := readPage earlier n page
    here.andThen (readPages (earlier ++ [page]) (n + here.rows.length) later)

/-- What comes behind a link, page by page, when `later` is what fetches come to and `missing` what
they fail with afterwards. -/
def linked (missing : Error) : Option String → List (Result QueryPage) → List (Result QueryPage)
  | none, _ => []
  | some _, [] => [.error missing]
  | some _, .error e :: _ => [.error e]
  | some _, .ok page :: later => .ok page :: linked missing page.nextUri later

/-- What a query reads as, from its first page. -/
def of (first : QueryPage) (later : List (Result QueryPage)) (missing : Error) : Reading :=
  readPages [] 0 (.ok first :: linked missing first.nextUri later)

/-! ## Reading on -/

open RowStream (columnsAfter)

/-- Rows at hand and the pages behind them, read with the columns and the number of rows so far. -/
def readOn (columns : List Column) (n : Nat) (buffer : List RawRow) :
    List (Result QueryPage) → Reading
  | [] => readRows columns n buffer
  | .error e :: _ => (readRows columns n buffer).andThen (failed e)
  | .ok page :: later =>
    let here := readRows columns n buffer
    here.andThen <|
      match page.error with
      | some rejection => failed rejection.toError
      | none =>
        match columnsAfter columns page.schema with
        | .ok columns => readOn columns (n + here.rows.length) page.data later
        | .error e => failed e

theorem readOn_nil (columns : List Column) (n : Nat) : readOn columns n [] [] = {} := rfl

theorem readOn_error (columns : List Column) (n : Nat) (e : Error)
    (later : List (Result QueryPage)) : readOn columns n [] (.error e :: later) = failed e := rfl

theorem readOn_page (columns : List Column) (n : Nat) (page : QueryPage)
    (later : List (Result QueryPage)) :
    readOn columns n [] (.ok page :: later) =
      match page.error with
      | some rejection => failed rejection.toError
      | none =>
        match columnsAfter columns page.schema with
        | .ok columns => readOn columns n page.data later
        | .error e => failed e := rfl

theorem readOn_row (columns : List Column) (n : Nat) (raw : RawRow) (rest : List RawRow)
    (later : List (Result QueryPage)) :
    readOn columns n (raw :: rest) later =
      match readRow columns n raw with
      | .ok row => (readOn columns (n + 1) rest later).cons row
      | .error e => failed e := by
  cases hr : readRow columns n raw with
  | error e => cases later with
    | nil => simp [readOn, readRows, hr]
    | cons page later => cases page <;> simp [readOn, readRows, hr]
  | ok row =>
    have hn : n + ((readRows columns (n + 1) rest).cons row).rows.length
        = n + 1 + (readRows columns (n + 1) rest).rows.length := by
      simp only [cons, List.length_cons]
      omega
    cases later with
    | nil => simp [readOn, readRows, hr]
    | cons page later => cases page <;> simp [readOn, readRows, hr, hn]

theorem readOn_eq_andThen (columns : List Column) (n : Nat) (buffer : List RawRow)
    (later : List (Result QueryPage)) :
    readOn columns n buffer later =
      (readRows columns n buffer).andThen
        (readOn columns (n + (readRows columns n buffer).rows.length) [] later) := by
  cases later with
  | nil => simp [readOn, readRows]
  | cons page later => cases page <;> rfl

/-! ## Columns in force -/

theorem mapM_ofField_eq_nil {schema : List SchemaField} {columns : List Column}
    (h : schema.mapM Column.ofField = .ok columns) : columns = [] ↔ schema = [] := by
  cases schema with
  | nil =>
    simp only [List.mapM_nil] at h
    simp [← Except.ok.inj h]
  | cons field schema =>
    rw [List.mapM_cons] at h
    obtain ⟨c, -, h⟩ := exists_of_bind h
    obtain ⟨cs, -, h⟩ := exists_of_bind h
    obtain rfl := Except.ok.inj h
    simp

theorem inForce_append_of_ne_nil {earlier : List QueryPage} (h : inForce earlier ≠ [])
    (page : QueryPage) : inForce (earlier ++ [page]) = inForce earlier := by
  unfold inForce at h ⊢
  rw [List.find?_append]
  cases hf : earlier.find? (·.schema ≠ []) with
  | none => simp only [hf, ne_eq, not_true_eq_false] at h
  | some first => rfl

theorem inForce_append_of_eq_nil {earlier : List QueryPage} (h : inForce earlier = [])
    (page : QueryPage) : inForce (earlier ++ [page]) = page.schema := by
  unfold inForce at h ⊢
  rw [List.find?_append]
  cases hf : earlier.find? (·.schema ≠ []) with
  | none => by_cases hp : page.schema = [] <;> simp [hp]
  | some first =>
    have hne := List.find?_some hf
    simp only [hf] at h
    simp [h] at hne

/-- The columns that a stream keeps are those of the schema in force. -/
theorem columnsAfter_eq {earlier : List QueryPage} {columns : List Column}
    (h : (inForce earlier).mapM Column.ofField = .ok columns) (page : QueryPage) :
    columnsAfter columns page.schema = (inForce (earlier ++ [page])).mapM Column.ofField := by
  have hnil := mapM_ofField_eq_nil h
  unfold columnsAfter
  split_ifs with hc
  · rw [inForce_append_of_eq_nil (hnil.1 hc)]
  · rw [inForce_append_of_ne_nil (fun he => hc (hnil.2 he)), h]

theorem readPages_eq_readOn {earlier : List QueryPage} {columns : List Column}
    (h : (inForce earlier).mapM Column.ofField = .ok columns) (n : Nat)
    (pages : List (Result QueryPage)) :
    readPages earlier n pages = readOn columns n [] pages := by
  induction pages generalizing earlier columns n with
  | nil => rfl
  | cons page later ih =>
    cases page with
    | error e => rfl
    | ok page =>
      simp only [readPages, readPage, readOn_page, ← columnsAfter_eq h page]
      cases page.error with
      | some rejection => rfl
      | none =>
        cases hc : columnsAfter columns page.schema with
        | error e => rfl
        | ok columns' =>
          have h' : (inForce (earlier ++ [page])).mapM Column.ofField = .ok columns' := by
            rw [← columnsAfter_eq h page, hc]
          simp only [ih h']
          exact (readOn_eq_andThen columns' n page.data later).symm

end Reading

end QueryClient
