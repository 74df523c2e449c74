import QueryClient.Proofs.Stream.Schema
import QueryClient.Proofs.Value.Reading

/-!
# Fields of rows

A field is addressed by its position, or by the name of the first column that has it, and is read as a
kind (`get_position`, `value_name`). A whole row is read if each of its values is read as its own kind
(`readAll_eq_ok_iff`), and what stops it is the first field that is not (`error_of_readFrom`). The
declared types of a row that a stream hands out say what its fields can always be read as
(`access_of_run`).
-/

namespace QueryClient

namespace Kind

variable {kind : Kind} {v : Value}

theorem read_optional (hv : v ≠ .null) :
    (Kind.optional kind).read v = (kind.read v).map some := by
  cases v with
  | null => exact absurd rfl hv
  | _ => rfl

theorem conversion_of_read {e : Error} (h : kind.read v = .error e) :
    ∃ fault, e = .conversion fault := by
  induction kind with
  | scalar s => exact Scalar.conversion_of_read h
  | value => cases h
  | optional kind ih =>
    by_cases hv : v = .null
    · rw [hv] at h
      cases h
    · rw [read_optional hv] at h
      exact ih (error_of_map h)

end Kind

/-- A value that is not null has the form that its type prescribes. -/
theorem Value.HasType.canonical {type : ColumnType} {v : Value} (h : HasType type v)
    (hv : v ≠ .null) :
    match type.inner with
    | .signed w => ∃ n : Int64, v = .int64 n
      ∧ -2 ^ (w.bits - 1) ≤ n.toInt ∧ n.toInt < 2 ^ (w.bits - 1)
    | .unsigned w => ∃ n : UInt64, v = .uint64 n ∧ n.toNat < 2 ^ w.bits
    | .float32 | .float64 => ∃ x, v = .float64 x
    | .string => ∃ s, v = .string s
    | .date => ∃ d, v = .date d
    | .timestamp => ∃ t, v = .timestamp t
    | .null | .nullable _ => False := by
  cases h with
  | null _ => exact absurd rfl hv
  | int64 ht lo hi => rw [ht]; exact ⟨_, rfl, lo, hi⟩
  | uint64 ht hi => rw [ht]; exact ⟨_, rfl, hi⟩
  | float64 ht => rcases ht with ht | ht <;> rw [ht] <;> exact ⟨_, rfl⟩
  | string ht | date ht | timestamp ht => rw [ht]; exact ⟨_, rfl⟩

namespace Row

variable {row : Row} {kind : Kind} {kinds : List Kind}

/-! ## Single fields -/

theorem value_position {i : Nat} {v : Value} (h : row.values[i]? = some v) :
    row.value (.position i) = .ok v := by
  have hi : i < row.values.length := (List.getElem?_eq_some_iff.1 h).1
  simp only [value, position?, if_pos hi, Option.bind_some, h]

theorem value_position_iff {i : Nat} :
    (∃ v, row.value (.position i) = .ok v) ↔ i < row.values.length := by
  constructor
  · rintro ⟨v, hv⟩
    refine Nat.lt_of_not_le fun h => ?_
    simp only [value, position?, if_neg (Nat.not_lt.2 h), Option.bind_none] at hv
    cases hv
  · intro hi
    exact ⟨_, value_position (List.getElem?_eq_getElem hi)⟩

/-- A name means the first column that has it. -/
theorem value_name {i : Nat} {c : Column} (hi : i < row.values.length)
    (hc : row.columns[i]? = some c)
    (hfirst : ∀ j < i, ∀ d, row.columns[j]? = some d → d.name ≠ c.name) :
    row.value (.name c.name) = row.value (.position i) := by
  obtain ⟨hlt, rfl⟩ := List.getElem?_eq_some_iff.1 hc
  have hposition : row.columns.findIdx? (·.name = row.columns[i].name) = some i := by
    refine List.findIdx?_eq_some_iff_getElem.2 ⟨hlt, by simp, fun j hj => ?_⟩
    simpa using hfirst j hj _ (List.getElem?_eq_getElem (Nat.lt_trans hj hlt))
  have hv := List.getElem?_eq_getElem hi
  rw [value_position hv]
  simp only [value, position?, hposition, Option.bind_some, hv]

theorem value_name_of_forall_ne {s : String} (h : ∀ c ∈ row.columns, c.name ≠ s) :
    row.value (.name s) = .error (.conversion (.missingColumn (.name s))) := by
  have hposition : row.columns.findIdx? (·.name = s) = none := by
    simpa [List.findIdx?_eq_none_iff] using h
  simp only [value, position?, hposition, Option.bind_none]

theorem get_position {i : Nat} {v : Value} (h : row.values[i]? = some v) :
    row.get kind (.position i) = kind.read v := by
  rw [get, value_position h]
  rfl

theorem conversion_of_get {index : ColumnIndex} {e : Error} (h : row.get kind index = .error e) :
    ∃ fault, e = .conversion fault := by
  rcases error_of_bind h with hv | ⟨v, -, hread⟩
  · unfold value at hv
    split at hv
    · cases hv
    · exact ⟨_, (Except.error.inj hv).symm⟩
  · exact Kind.conversion_of_read hread

/-! ## Whole rows -/

/-- Whether values are read as kinds, one by one. -/
inductive ReadsEach : (kinds : List Kind) → List Value → Fields kinds → Prop
  | nil : ReadsEach [] [] ()
  | cons {k : Kind} {ks : List Kind} {v : Value} {vs : List Value} {x : k.Carrier} {xs : Fields ks}
      (h : k.read v = .ok x) (rest : ReadsEach ks vs xs) : ReadsEach (k :: ks) (v :: vs) (x, xs)

theorem ReadsEach.length_eq {vs : List Value} {xs : Fields kinds} (h : ReadsEach kinds vs xs) :
    vs.length = kinds.length := by
  induction h with
  | nil => rfl
  | cons _ _ ih => simp [ih]

theorem getElem?_of_drop {α : Type} {l : List α} {n : Nat} {a : α} {rest : List α}
    (h : l.drop n = a :: rest) : l[n]? = some a ∧ l.drop (n + 1) = rest := by
  constructor
  · rw [← List.head?_drop, h, List.head?_cons]
  · rw [← List.tail_drop, h, List.tail_cons]

theorem readFrom_eq_ok_iff {n : Nat} {vs : List Value} (hvs : row.values.drop n = vs)
    (hlen : vs.length = kinds.length) {xs : Fields kinds} :
    row.readFrom n kinds = .ok xs ↔ ReadsEach kinds vs xs := by
  induction kinds generalizing n vs with
  | nil =>
    obtain rfl := List.length_eq_zero_iff.1 hlen
    exact ⟨fun _ => .nil, fun _ => rfl⟩
  | cons k ks ih =>
    obtain ⟨v, vs, rfl⟩ := List.exists_cons_of_length_eq_add_one hlen
    obtain ⟨hv, hrest⟩ := getElem?_of_drop hvs
    have hfields {ys : Fields ks} : row.readFrom (n + 1) ks = .ok ys ↔ ReadsEach ks vs ys :=
      ih hrest (Nat.succ.inj hlen)
    rw [readFrom, get_position hv]
    constructor
    · intro h
      obtain ⟨x, hx, h⟩ := exists_of_bind h
      obtain ⟨ys, hys, h⟩ := exists_of_bind h
      obtain rfl := Except.ok.inj h
      exact .cons hx (hfields.1 hys)
    · intro h
      cases h with
      | cons hx hxs =>
        rw [hx]
        have hread := hfields.2 hxs
        simp only [bind, Except.bind, hread]
        rfl

theorem readAll_eq_ok_iff {xs : Fields kinds} :
    row.readAll kinds = .ok xs ↔ ReadsEach kinds row.values xs := by
  unfold readAll
  split_ifs with hlen
  · exact readFrom_eq_ok_iff List.drop_zero hlen
  · exact ⟨nofun, fun h => absurd h.length_eq hlen⟩

/-- The first field that cannot be read is why a row cannot. -/
theorem error_of_readFrom {n : Nat} {e : Error} (h : row.readFrom n kinds = .error e) :
    ∃ i k, kinds[i]? = some k ∧ row.get k (.position (n + i)) = .error e
      ∧ ∀ j < i, ∀ k', kinds[j]? = some k' → ∃ x, row.get k' (.position (n + j)) = .ok x := by
  induction kinds generalizing n with
  | nil => cases h
  | cons k ks ih =>
    rw [readFrom] at h
    rcases error_of_bind h with hk | ⟨x, hx, h⟩
    · exact ⟨0, k, rfl, hk, nofun⟩
    · rcases error_of_bind h with hks | ⟨_, _, h⟩
      · obtain ⟨i, k', hi, hget, hbefore⟩ := ih hks
        refine ⟨i + 1, k', hi, by rwa [Nat.add_right_comm, Nat.add_assoc] at hget, ?_⟩
        rintro (_ | j) hj k'' hk''
        · obtain rfl := Option.some.inj hk''
          exact ⟨x, hx⟩
        · have hfield := hbefore j (Nat.lt_of_succ_lt_succ hj) k'' hk''
          rwa [Nat.add_right_comm, Nat.add_assoc] at hfield
      · cases h

/-! ## Rows of declared types -/

/-- How a value that is not null is read as a scalar type that its column's type provides for. Narrow
integers are always read from columns that are narrow enough, and from others if they fit. -/
structure ReadsDeclared (row : Row) (i : Nat) (type : ColumnType) (v : Value) : Prop where
  signed : ∀ w, type.inner = .signed w → ∃ n : Int64, v = .int64 n
    ∧ row.get (.scalar .int64) (.position i) = .ok n
    ∧ (∀ m : Int32, row.get (.scalar .int32) (.position i) = .ok m ↔ m.toInt = n.toInt)
    ∧ ((∃ m, row.get (.scalar .int32) (.position i) = .ok m)
      ↔ -2 ^ 31 ≤ n.toInt ∧ n.toInt < 2 ^ 31)
    ∧ (w ≠ .w64 → ∃ m, row.get (.scalar .int32) (.position i) = .ok m)
  unsigned : ∀ w, type.inner = .unsigned w → ∃ n : UInt64, v = .uint64 n
    ∧ row.get (.scalar .uint64) (.position i) = .ok n
    ∧ (∀ m : UInt32, row.get (.scalar .uint32) (.position i) = .ok m ↔ m.toNat = n.toNat)
    ∧ ((∃ m, row.get (.scalar .uint32) (.position i) = .ok m) ↔ n.toNat < 2 ^ 32)
    ∧ (w ≠ .w64 → ∃ m, row.get (.scalar .uint32) (.position i) = .ok m)
  float : type.inner = .float32 ∨ type.inner = .float64 →
    ∃ x, v = .float64 x ∧ row.get (.scalar .float64) (.position i) = .ok x
  date : type.inner = .date → ∃ d, v = .date d ∧ row.get (.scalar .date) (.position i) = .ok d
  timestamp : type.inner = .timestamp →
    ∃ t, v = .timestamp t ∧ row.get (.scalar .timestamp) (.position i) = .ok t
  string : type.inner = .string →
    ∃ s, v = .string s ∧ row.get (.scalar .string) (.position i) = .ok s

/-- How any value is read: as its text, as it is, and if it is a null only where there is room for
nulls. -/
structure ReadsValue (row : Row) (i : Nat) (v : Value) : Prop where
  value : row.get .value (.position i) = .ok v
  text : v ≠ .null → row.get (.scalar .string) (.position i) = .ok v.text
  mismatch : v ≠ .null → ∀ s : Scalar, ¬ s.Pairs v →
    row.get (.scalar s) (.position i) = .error (.conversion (.mismatch v s))
  optional : v ≠ .null → ∀ k : Kind,
    row.get (.optional k) (.position i) = (row.get k (.position i)).map some
  null : v = .null → ∀ k : Kind, row.get (.optional k) (.position i) = .ok none
  nullFor : v = .null → ∀ s : Scalar,
    row.get (.scalar s) (.position i) = .error (.conversion (.nullFor s))

/-- How columns are addressed. -/
structure IsAddressed (row : Row) : Prop where
  position : ∀ i, (∃ v, row.value (.position i) = .ok v) ↔ i < row.values.length
  name : ∀ i c, row.columns[i]? = some c →
    (∀ j < i, ∀ d, row.columns[j]? = some d → d.name ≠ c.name) →
      ∀ k, row.get k (.name c.name) = row.get k (.position i)
  missing : ∀ s, (∀ c ∈ row.columns, c.name ≠ s) →
    ∀ k, row.get k (.name s) = .error (.conversion (.missingColumn (.name s)))
  get? : ∀ k index, row.get? k index = row.get (.optional k) index
  conversion : ∀ k index e, row.get k index = .error e → ∃ fault, e = .conversion fault

/-- How a row is read as a whole. -/
structure ReadsWhole (row : Row) (kinds : List Kind) : Prop where
  ok : ∀ xs, row.readAll kinds = .ok xs ↔ ReadsEach kinds row.values xs
  arity : row.values.length ≠ kinds.length → row.readAll kinds
    = .error (.conversion (.arity row.values.length kinds.length))
  error : row.values.length = kinds.length → ∀ e, row.readAll kinds = .error e →
    ∃ i k, kinds[i]? = some k ∧ row.get k (.position i) = .error e
      ∧ ∀ j < i, ∀ k', kinds[j]? = some k' → ∃ x, row.get k' (.position j) = .ok x

section Typed

variable {i : Nat} {c : Column} {v : Value}

theorem readsValue (h : row.values[i]? = some v) : row.ReadsValue i v := by
  refine ⟨get_position h, ?_, ?_, ?_, ?_, ?_⟩ <;> intro hv
  · rw [get_position h]
    exact Scalar.read_eq_ok_iff.2 (.string hv)
  · intro s hs
    rw [get_position h]
    exact Scalar.read_of_not_pairs hv hs
  · intro k
    rw [get_position h, get_position h]
    exact Kind.read_optional hv
  · intro k
    rw [get_position h, hv]
    rfl
  · intro s
    rw [get_position h, hv]
    exact Scalar.read_null s

theorem readsDeclared {type : ColumnType} (h : row.values[i]? = some v)
    (ht : Value.HasType type v) (hv : v ≠ .null) : row.ReadsDeclared i type v := by
  have hget (k : Kind) : row.get k (.position i) = k.read v := get_position h
  have hform := ht.canonical hv
  refine ⟨fun w hw => ?_, fun w hw => ?_, fun hf => ?_, fun hd => ?_, fun hd => ?_, fun hs => ?_⟩
  · rw [hw] at hform
    obtain ⟨n, rfl, lo, hi⟩ := hform
    have hnarrow (m : Int32) :
        row.get (.scalar .int32) (.position i) = .ok m ↔ m.toInt = n.toInt := by
      rw [hget]
      exact Scalar.read_int32_eq_ok_iff
    have hfits (lo : -2 ^ 31 ≤ n.toInt) (hi : n.toInt < 2 ^ 31) :
        ∃ m, row.get (.scalar .int32) (.position i) = .ok m := by
      obtain ⟨m, -, hm⟩ := Scalar.read_int32_of_mem lo hi
      exact ⟨m, (hnarrow m).2 hm⟩
    refine ⟨n, rfl, hget _, hnarrow, ⟨?_, fun h => hfits h.1 h.2⟩, fun hw => ?_⟩
    · rintro ⟨m, hm⟩
      rw [← (hnarrow m).1 hm]
      exact ⟨m.le_toInt, m.toInt_lt⟩
    · have hbits : (2 : Int) ^ (w.bits - 1) ≤ 2 ^ 31 := by
        cases w <;> simp [Width.bits] at hw ⊢
      exact hfits (by omega) (by omega)
  · rw [hw] at hform
    obtain ⟨n, rfl, hi⟩ := hform
    have hnarrow (m : UInt32) :
        row.get (.scalar .uint32) (.position i) = .ok m ↔ m.toNat = n.toNat := by
      rw [hget]
      exact Scalar.read_uint32_eq_ok_iff
    have hfits (hi : n.toNat < 2 ^ 32) :
        ∃ m, row.get (.scalar .uint32) (.position i) = .ok m := by
      obtain ⟨m, -, hm⟩ := Scalar.read_uint32_of_lt hi
      exact ⟨m, (hnarrow m).2 hm⟩
    refine ⟨n, rfl, hget _, hnarrow, ⟨?_, hfits⟩, fun hw => hfits (Nat.lt_of_lt_of_le hi ?_)⟩
    · rintro ⟨m, hm⟩
      rw [← (hnarrow m).1 hm]
      exact m.toNat_lt
    · cases w <;> simp [Width.bits] at hw ⊢
  · obtain ⟨x, rfl⟩ : ∃ x, v = .float64 x := by
      rcases hf with hf | hf <;> rw [hf] at hform <;> exact hform
    exact ⟨x, rfl, hget _⟩
  · rw [hd] at hform
    obtain ⟨d, rfl⟩ := hform
    exact ⟨d, rfl, hget _⟩
  · rw [hd] at hform
    obtain ⟨t, rfl⟩ := hform
    exact ⟨t, rfl, hget _⟩
  · rw [hs] at hform
    obtain ⟨s, rfl⟩ := hform
    exact ⟨s, rfl, hget _⟩

theorem isAddressed (hrow : row.WellTyped) : row.IsAddressed where
  position _ := value_position_iff
  name i c hc hfirst k := by
    have hi : i < row.values.length := by
      rw [hrow.length_eq]
      exact (List.getElem?_eq_some_iff.1 hc).1
    rw [get, value_name hi hc hfirst, get]
  missing s h k := by
    rw [get, value_name_of_forall_ne h]
    rfl
  get? _ _ := rfl
  conversion _ _ _ := conversion_of_get

theorem readsWhole (row : Row) (kinds : List Kind) : row.ReadsWhole kinds where
  ok _ := readAll_eq_ok_iff
  arity h := by rw [readAll, if_neg h]
  error hlen e h := by
    rw [readAll, if_pos hlen] at h
    simpa using error_of_readFrom h

theorem hasType_of_wellTyped (hrow : row.WellTyped) (hc : row.columns[i]? = some c)
    (hv : row.values[i]? = some v) : Value.HasType c.type v := by
  obtain ⟨hi, rfl⟩ := List.getElem?_eq_some_iff.1 hc
  obtain ⟨hi', rfl⟩ := List.getElem?_eq_some_iff.1 hv
  exact List.Forall₂.get hrow hi hi'

end Typed

end Row

variable {σ : Type}

/-- Whatever its schema and its fields are, a row that a stream hands out can be read as its columns
declare: every value that is not null as the scalar types for its column's type, and as no other one
but a string; a null where there is room for it. Its columns are addressed by position or by their
first name, and the whole row is read if each of its values is. -/
theorem RowStream.access_of_run (src : PageSource σ) (w : σ) {first : QueryPage} {s₀ : RowStream}
    (h : start first = .ok s₀) (modes : List ReadMode) (mode : ReadMode) {row : Row}
    (hrow : (mode.poll src.recorded (s₀.run src.recorded ⟨w, []⟩ modes).stream
      (s₀.run src.recorded ⟨w, []⟩ modes).source).2.2 = .item (.row row)) :
    row.values.length = row.columns.length
      ∧ (∀ i c v, row.columns[i]? = some c → row.values[i]? = some v →
        (v = .null → c.type.isNullable = true) ∧ row.ReadsValue i v
          ∧ (v ≠ .null → row.ReadsDeclared i c.type v))
      ∧ row.IsAddressed
      ∧ ∀ kinds, row.ReadsWhole kinds := by
  obtain ⟨-, -, -, -, -, hrows⟩ := schema_of_run src w h modes
  obtain ⟨-, hlen, htyped⟩ := hrows mode row hrow
  refine ⟨hlen, fun i c v hc hv => ?_, Row.isAddressed htyped, row.readsWhole⟩
  have ht := Row.hasType_of_wellTyped htyped hc hv
  refine ⟨?_, Row.readsValue hv, Row.readsDeclared hv ht⟩
  rintro rfl
  cases ht with
  | null hnull => exact hnull

/-- A narrow column, a wide one with a number that does not fit, and a null under a name that comes
twice. -/
theorem RowStream.access_of_run_mixed :
    let first : QueryPage :=
      { id := "q1"
        schema := [⟨"n", "Int16"⟩, ⟨"m", "UInt64"⟩, ⟨"n", "Nullable(Date)"⟩]
        data := [[some "-7", some "4294967296", none]] }
    let f : Feed := { script := [], exhausted := .emptyResult }
    ∃ s₀ row, start first = .ok s₀
      ∧ (ReadMode.items.poll Feed.source.recorded (s₀.run Feed.source.recorded ⟨f, []⟩ []).stream
        (s₀.run Feed.source.recorded ⟨f, []⟩ []).source).2.2 = .item (.row row)
      ∧ (∃ m : Int32, row.get (.scalar .int32) (.name "n") = .ok m ∧ m.toInt = -7)
      ∧ (¬ ∃ m, row.get (.scalar .uint32) (.position 1) = .ok m)
      ∧ row.get (.optional (.scalar .int64)) (.position 2) = .ok none := by
  intro first f
  let s₀ : RowStream :=
    { state := .hasRows, queryId := "q1"
      columns := [⟨"n", .signed .w16⟩, ⟨"m", .unsigned .w64⟩, ⟨"n", .nullable .date⟩]
      buffer := first.data }
  let row : Row := ⟨s₀.columns, [.int64 (-7), .uint64 4294967296, .null]⟩
  have hstart : start first = .ok s₀ := by decide +kernel
  have hrow : (ReadMode.items.poll Feed.source.recorded
      (s₀.run Feed.source.recorded ⟨f, []⟩ []).stream
      (s₀.run Feed.source.recorded ⟨f, []⟩ []).source).2.2 = .item (.row row) := rfl
  obtain ⟨-, hread, haddress, -⟩ := access_of_run Feed.source f hstart [] .items hrow
  obtain ⟨-, -, hfirst⟩ := hread 0 ⟨"n", .signed .w16⟩ (.int64 (-7)) rfl rfl
  obtain ⟨-, -, hsecond⟩ := hread 1 ⟨"m", .unsigned .w64⟩ (.uint64 4294967296) rfl rfl
  obtain ⟨-, hthird, -⟩ := hread 2 ⟨"n", .nullable .date⟩ .null rfl rfl
  obtain ⟨n, hn, -, hnarrow, -, hfits⟩ := (hfirst nofun).signed .w16 rfl
  obtain rfl := Value.int64.inj hn
  obtain ⟨m, hm⟩ := hfits nofun
  obtain ⟨k, hk, -, -, hlarge, -⟩ := (hsecond nofun).unsigned .w64 rfl
  obtain rfl := Value.uint64.inj hk
  have hname := haddress.name 0 ⟨"n", .signed .w16⟩ rfl nofun (.scalar .int32)
  exact ⟨s₀, row, hstart, hrow, ⟨m, hname.trans hm, (hnarrow m).1 hm⟩, mt hlarge.1 (by decide),
    hthird.null rfl _⟩

end QueryClient
