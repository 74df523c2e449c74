import QueryClient.Proofs.Session.Asks

/-!
# Errors of the client itself

Much can go wrong without the service: a link is no URL, a field cannot be sent, a column has no
supported type, a row does not decode, a load is not acknowledged as it was sent. Such an error has no
code, and there is no point in trying again.
-/

namespace QueryClient

open Http

/-- Whether an error comes neither from the service nor from the connection to it. -/
def Error.IsOwn (e : Error) : Prop :=
  e.code? = none ∧ e.isRetryable = false

theorem Load.BatchFault.isOwn_toError (fault : BatchFault) : fault.toError.IsOwn := by
  cases fault <;> exact ⟨rfl, rfl⟩

/-- Whether a result has at most an error of the client itself. -/
def FailsByItself {α : Type} (x : Result α) : Prop :=
  ∀ e, x = .error e → e.IsOwn

namespace FailsByItself

section Results

variable {α β : Type} {x : Result α}

theorem ok (a : α) : FailsByItself (.ok a) := by
  intro e h
  cases h

theorem error {e : Error} (h : e.IsOwn) : FailsByItself (.error e : Result α) := by
  intro e' h'
  obtain rfl := Except.error.inj h'
  exact h

theorem bind (h : FailsByItself x) {f : α → Result β} (hf : ∀ a, x = .ok a → FailsByItself (f a)) :
    FailsByItself (x >>= f) := by
  cases x with
  | error e => exact error (h e rfl)
  | ok a => exact hf a rfl

theorem map (h : FailsByItself x) (f : α → β) : FailsByItself (x.map f) := by
  cases x with
  | error e => exact error (h e rfl)
  | ok a => exact ok _

theorem mapM {f : α → Result β} (h : ∀ a, FailsByItself (f a)) (l : List α) :
    FailsByItself (l.mapM f) := by
  induction l with
  | nil => exact ok _
  | cons a l ih =>
    rw [List.mapM_cons]
    exact (h a).bind fun _ _ => ih.bind fun _ _ => ok _

theorem failure? (h : FailsByItself x) {e : Error} (he : QueryClient.failure? x = some e) :
    e.IsOwn := by
  cases x with
  | error e' =>
    obtain rfl := Option.some.inj he
    exact h e' rfl
  | ok a => cases he

end Results

theorem insertHeaders (l : List (String × String)) (h : Headers) :
    FailsByItself (Http.insertHeaders h l) := by
  induction l generalizing h with
  | nil => exact ok _
  | cons f l ih =>
    refine bind ?_ fun h _ => ih h
    unfold insertHeader
    split
    · exact error ⟨rfl, rfl⟩
    · split
      · exact error ⟨rfl, rfl⟩
      · exact ok _

theorem request (s : Session) (method : Method) (uri : String) (further : Headers) (body : Body)
    (timeout : Duration) : FailsByItself (s.request method uri further body timeout) := by
  unfold Session.request
  split
  · exact error ⟨rfl, rfl⟩
  · exact (insertHeaders _ _).bind fun _ _ => ok _

theorem ask (s : Session) (a : Ask) : FailsByItself (a.request s) := by
  cases a with
  | statement _ | page _ | kill _ =>
    unfold Ask.request
    exact request _ _ _ _ _ _
  | load u => exact (insertHeaders _ _).bind fun _ _ => request _ _ _ _ _ _

theorem ofChars (s : List Char) : FailsByItself (ColumnType.ofChars s) := by
  fun_induction ColumnType.ofChars s with
  | case1 s body h hlt ih => exact ih.map _
  | case2 s h t ht => exact ok _
  | case3 s h ht => exact error ⟨rfl, rfl⟩

theorem columnsAfter (columns : List Column) (schema : List SchemaField) :
    FailsByItself (RowStream.columnsAfter columns schema) := by
  unfold RowStream.columnsAfter
  split
  · exact mapM (fun f => (ofChars f.type.toList).map _) schema
  · exact ok _

theorem decodeFields (n : Nat) (columns : List Column) (raw : RawRow) :
    FailsByItself (RowStream.decodeFields n columns raw) := by
  have hvalue (type : ColumnType) (raw : Option String) (n : Nat) :
      FailsByItself (Value.decode type raw n) := by
    have hwrong (text : String) : FailsByItself (.error (.decode n text type.text) : Result Value) :=
      error ⟨rfl, rfl⟩
    unfold Value.decode
    split
    · split
      · exact ok _
      · exact hwrong _
    · split
      · exact ok _
      · exact hwrong _
  induction columns generalizing n raw with
  | nil => exact ok _
  | cons c columns ih =>
    cases raw with
    | nil => exact ok _
    | cons field raw => exact (hvalue c.type field n).bind fun _ _ => (ih _ _).bind fun _ _ => ok _

theorem deliver (t : RowStream) (raw : RawRow) (rest : List RawRow) :
    FailsByItself (t.deliver raw rest).2 := by
  have hdecode : FailsByItself (({ t with buffer := rest } : RowStream).decode raw) := by
    unfold RowStream.decode
    split
    · exact error ⟨rfl, rfl⟩
    · exact (decodeFields _ _ _).map _
  unfold RowStream.deliver
  dsimp only
  split
  · exact ok _
  · next e h => exact error (hdecode e h)

theorem receive {t : RowStream} {page : QueryPage} (h : page.error = none) :
    FailsByItself (t.receive (.ok page)).2 := by
  simp only [RowStream.receive, RowStream.absorb, h]
  cases hc : RowStream.columnsAfter t.columns page.schema with
  | ok columns => exact ok _
  | error e => exact error (columnsAfter _ _ e hc)

theorem start {page : QueryPage} (h : page.error = none) : FailsByItself (RowStream.start page) := by
  simp only [RowStream.start, RowStream.create, RowStream.absorb, h]
  cases hc : RowStream.columnsAfter [] page.schema with
  | ok columns => exact ok _
  | error e => exact error (columnsAfter _ _ e hc)

theorem getString (row : Row) (index : ColumnIndex) :
    FailsByItself (row.get (.scalar .string) index) := by
  refine bind ?_ fun v _ => ?_
  · unfold Row.value
    split
    · exact ok _
    · exact error ⟨rfl, rfl⟩
  · cases v with
    | null => exact error ⟨rfl, rfl⟩
    | _ => exact ok _

theorem fileUpload (found : Except Load.FileFault (List UInt8)) (sql : String) (path : Load.Path)
    (options : SortedMap String) : FailsByItself (Session.fileUpload found sql path options) := by
  refine bind ?_ fun headers _ => ?_
  · unfold Load.fileHeaders
    refine bind ?_ fun headers _ => ?_
    · unfold Load.withFormat
      split
      · exact ok _
      · split
        · exact ok _
        · exact error ⟨rfl, rfl⟩
    · split
      · exact ok _
      · exact ok _
  · split
    · exact error ⟨rfl, rfl⟩
    · exact ok _

theorem acknowledged (sent : Nat) (receipt : LoadReceipt) :
    FailsByItself (Session.acknowledged sent receipt) := by
  unfold Session.acknowledged
  split
  · exact ok _
  · exact error ⟨rfl, rfl⟩

end FailsByItself

end QueryClient
