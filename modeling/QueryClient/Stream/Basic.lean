import QueryClient.Envelope.OfJson
import QueryClient.Row
import QueryClient.Value.Decode

/-!
# Row streams

A `RowStream` hands out the rows of a query one by one and holds the rows of one page only. `absorb`
takes a page over: the first page with a schema fixes the columns, a rejection ends the stream, and
the state that follows is a matter of what is left, in the buffer or behind a link. `pendingKill?`
is the link that cancels the query, as long as the service still has pages to deliver.
-/

namespace QueryClient

inductive StreamState where
  /-- Nothing is buffered, and the next page has not been asked for. -/
  | idle
  /-- The page behind a link is on its way. -/
  | fetching (uri : String)
  | hasRows
  | exhausted
  | failed
  | closed
  deriving DecidableEq, Repr

def StreamState.text : StreamState → String
  | .idle => "Idle"
  | .fetching _ => "Fetching"
  | .hasRows => "HasRows"
  | .exhausted => "Exhausted"
  | .failed => "Failed"
  | .closed => "Closed"

/-- Whether nothing comes after the state. -/
def StreamState.isTerminated : StreamState → Bool
  | .exhausted | .failed | .closed => true
  | _ => false

structure RowStream where
  state : StreamState := .idle
  queryId : String
  columns : List Column := []
  buffer : List RawRow := []
  nextUri : Option String := none
  killUri : Option String := none
  stats : QueryStats := {}
  /-- How many rows were handed out. -/
  delivered : Nat := 0
  deriving DecidableEq, Repr

/-- What a stream hands out: a row, or the counters of a page before its rows. -/
inductive StreamItem where
  | row (r : Row)
  | stats (s : QueryStats)
  deriving DecidableEq, Repr

def Column.ofField (f : SchemaField) : Result Column :=
  (ColumnType.ofText f.type).map fun type => ⟨f.name, type⟩

namespace RowStream

/-- The state that follows from the buffer and the link. -/
def settle (s : RowStream) : RowStream :=
  { s with state :=
      if s.buffer ≠ [] then .hasRows else if s.nextUri.isSome then .idle else .exhausted }

@[simp] theorem settle_columns (s : RowStream) : s.settle.columns = s.columns := rfl

@[simp] theorem settle_buffer (s : RowStream) : s.settle.buffer = s.buffer := rfl

@[simp] theorem settle_nextUri (s : RowStream) : s.settle.nextUri = s.nextUri := rfl

@[simp] theorem settle_killUri (s : RowStream) : s.settle.killUri = s.killUri := rfl

@[simp] theorem settle_delivered (s : RowStream) : s.settle.delivered = s.delivered := rfl

/-- The columns after a page; the first schema that is not empty stays. -/
def columnsAfter (columns : List Column) (schema : List SchemaField) : Result (List Column) :=
  if columns = [] then schema.mapM Column.ofField else .ok columns

/-- Takes a page over. A rejected page leaves no link behind, and one whose schema is not supported
leaves the stream as it was. -/
def absorb (s : RowStream) (page : QueryPage) : RowStream × Result Unit :=
  match page.error with
  | some rejection => ({ s with nextUri := none }, .error rejection.toError)
  | none =>
    match columnsAfter s.columns page.schema with
    | .error e => (s, .error e)
    | .ok columns =>
      ({ s with
        columns
        stats := page.stats
        nextUri := page.nextUri
        killUri := page.killUri.or s.killUri
        buffer := s.buffer ++ page.data }.settle, .ok ())

theorem absorb_of_ok {s s' : RowStream} {page : QueryPage} (h : s.absorb page = (s', .ok ())) :
    page.error = none ∧ ∃ columns, columnsAfter s.columns page.schema = .ok columns
      ∧ s' = { s with
          columns
          stats := page.stats
          nextUri := page.nextUri
          killUri := page.killUri.or s.killUri
          buffer := s.buffer ++ page.data }.settle := by
  unfold absorb at h
  split at h
  · simp at h
  · next he =>
    split at h
    · simp at h
    · next columns hc =>
      simp only [Prod.mk.injEq, and_true] at h
      exact ⟨he, columns, hc, h.symm⟩

/-- A page that is not taken over takes at most the link away. -/
theorem absorb_of_error {s s' : RowStream} {page : QueryPage} {e : Error}
    (h : s.absorb page = (s', .error e)) : s' = { s with nextUri := none } ∨ s' = s := by
  unfold absorb at h
  split at h
  · simp only [Prod.mk.injEq] at h
    exact .inl h.1.symm
  · split at h
    · simp only [Prod.mk.injEq] at h
      exact .inr h.1.symm
    · simp at h

/-- The stream of a query, and whether it took the first page over. -/
def create (first : QueryPage) : RowStream × Result Unit :=
  absorb { queryId := first.id } first

/-- The stream of a query, from its first page. -/
def start (first : QueryPage) : Result RowStream :=
  match create first with
  | (s, .ok ()) => .ok s
  | (_, .error e) => .error e

/-- The values of fields under their columns, from a position on. -/
def decodeFields (n : Nat) : List Column → RawRow → Result (List Value)
  | c :: cs, raw :: raws => do
    let v ← Value.decode c.type raw n
    return v :: (← decodeFields (n + 1) cs raws)
  | _, _ => .ok []

/-- The row of the fields that arrived for it. -/
def decode (s : RowStream) (raw : RawRow) : Result Row :=
  if raw.length ≠ s.columns.length then
    .error (.transport (.rowWidth s.delivered raw.length s.columns.length))
  else (decodeFields 0 s.columns raw).map fun values => ⟨s.columns, values⟩

/-- Hands out the first row of the buffer. A row that does not decode ends the stream. -/
def deliver (s : RowStream) (raw : RawRow) (rest : List RawRow) : RowStream × Result StreamItem :=
  let s := { s with buffer := rest }
  match s.decode raw with
  | .ok row =>
    let s := { s with delivered := s.delivered + 1 }
    (if rest = [] then s.settle else s, .ok (.row row))
  | .error e => ({ s with state := .failed }, .error e)

/-- The page behind a link is asked for, and the link is used up. -/
def asking (s : RowStream) (uri : String) : RowStream :=
  { s with state := .fetching uri, nextUri := none }

/-- The page that was on its way is there, or it failed to come. -/
def receive (s : RowStream) : Result QueryPage → RowStream × Result StreamItem
  | .error e => ({ s with state := .failed }, .error e)
  | .ok page =>
    match s.absorb page with
    | (s, .ok ()) => (s, .ok (.stats s.stats))
    | (s, .error e) => ({ s with state := .failed }, .error e)

/-- A page is announced by its counters, never by a row. -/
theorem receive_ne_row (s : RowStream) (page : Result QueryPage) (r : Row) :
    (s.receive page).2 ≠ .ok (.row r) := by
  unfold receive
  split
  · simp
  · split <;> simp

/-- The link that cancels the query, if the service still has pages to deliver. -/
def pendingKill? (s : RowStream) : Option String :=
  match s.state with
  | .exhausted | .closed => none
  | .fetching _ => s.killUri
  | _ => if s.nextUri.isSome then s.killUri else none

/-- The stream after the reader stopped. -/
def closed (s : RowStream) : RowStream :=
  { s with state := .closed, buffer := [] }

/-! ## Diagnostics -/

open QueryClient.Text

def columnDetailed (c : Column) : String :=
  "Column \x7b name: " ++ Quoted.quote c.name ++ ", data_type: " ++ c.type.text ++ " \x7d"

def uriDetailed : Option String → String
  | none => "None"
  | some uri => "Some(" ++ Quoted.quote uri ++ ")"

def detailed (s : RowStream) : String :=
  "RowStream \x7b query_id: " ++ Quoted.quote s.queryId ++ ", state: " ++ s.state.text
    ++ ", columns: [" ++ ", ".intercalate (s.columns.map columnDetailed)
    ++ "], buffered: " ++ Decimal.text s.buffer.length
    ++ ", next_uri: " ++ uriDetailed s.nextUri ++ " \x7d"

/-- A stream whose reader is told the counters of its pages. -/
def progressDetailed (s : RowStream) : String :=
  "ProgressStream \x7b rows: " ++ s.detailed ++ " \x7d"

end RowStream

end QueryClient
