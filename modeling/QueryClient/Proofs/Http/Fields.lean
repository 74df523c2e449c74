import QueryClient.Proofs.Text.Utf8
import QueryClient.Session

/-!
# Fields that can be sent

A field can be sent if no control but a tab is in its value. Fields with valid names are added all
together, or the first one that cannot be sent is what is said of them (`insertHeaders_eq`). What a
session adds by itself can always be sent.
-/

namespace QueryClient

namespace Http

/-- Whether a text holds a control character other than a tab. -/
def HoldsControl (s : String) : Prop :=
  ∃ c ∈ s.toList, (c.toNat < 0x20 ∨ c.toNat = 0x7f) ∧ c ≠ '\t'

theorem isValueChar_iff (c : Char) :
    isValueChar c = true ↔ ¬ ((c.toNat < 0x20 ∨ c.toNat = 0x7f) ∧ c ≠ '\t') := by
  by_cases hc : c = '\t'
  · simp [isValueChar, hc]
  · simp [isValueChar, hc]

theorem isValue_iff (s : String) : isValue s = true ↔ ¬ HoldsControl s := by
  simp only [isValue, List.all_eq_true, isValueChar_iff, HoldsControl, not_exists, not_and]

instance (s : String) : Decidable (HoldsControl s) :=
  decidable_of_iff (isValue s ≠ true) (by rw [Ne, isValue_iff, Classical.not_not])

section Insert

variable {fields : List (String × String)}

theorem insertHeaders_eq (hn : ∀ f ∈ fields, isName f.1 = true) (h : Headers) :
    insertHeaders h fields =
      match fields.find? fun f => HoldsControl f.2 with
      | some f => .error (.invalidArgument (.headerValue (canonicalName f.1)))
      | none => .ok (fields.foldl (fun h f => h.insert (canonicalName f.1) f.2) h) := by
  induction fields generalizing h with
  | nil => rfl
  | cons f rest ih =>
    obtain ⟨hf, hrest⟩ := List.forall_mem_cons.1 hn
    by_cases hc : HoldsControl f.2
    · have hv : isValue f.2 = false := by
        rw [← Bool.not_eq_true, isValue_iff, Decidable.not_not]
        exact hc
      simp [insertHeaders, insertHeader, hf, hv, hc, bind, Except.bind]
    · have hv : isValue f.2 = true := (isValue_iff f.2).2 hc
      simp [insertHeaders, insertHeader, hf, hv, hc, bind, Except.bind, ih hrest]

end Insert

/-! ## What is added to every request -/

theorem isValueChar_ofNat {n : Nat} (h : 0x20 ≤ n) (h' : n < 0x7f) :
    isValueChar (Char.ofNat n) = true := by
  have hn : (Char.ofNat n).toNat = n := Text.Utf8.toNat_ofNat (.inl (by omega))
  simp [isValueChar, hn]
  omega

open Text in
theorem isValueChar_symbol (n : Nat) : isValueChar (Base64.symbol n) = true := by
  have hn : n % 64 < 64 := Nat.mod_lt _ (by omega)
  unfold Base64.symbol
  dsimp only
  repeat' split
  · exact isValueChar_ofNat (by omega) (by omega)
  · exact isValueChar_ofNat (by omega) (by omega)
  · exact isValueChar_ofNat (by omega) (by omega)
  · rfl
  · rfl

open Text in
theorem isValueChar_of_mem_encode (bytes : List UInt8) :
    ∀ c ∈ Base64.encode bytes, isValueChar c = true := by
  have hpad : isValueChar '=' = true := rfl
  fun_induction Base64.encode bytes with
  | case1 a b c rest n ih => simpa [isValueChar_symbol] using ih
  | case2 a b n | case3 a n => simp [isValueChar_symbol, hpad]
  | case4 => simp

theorem isValueChar_digitChar {n : Nat} (h : n < 16) : isValueChar (Nat.digitChar n) = true := by
  revert n
  decide

theorem isValueChar_of_mem_hexDigits (width n : Nat) :
    ∀ c ∈ hexDigits width n, isValueChar c = true := by
  intro c hc
  obtain ⟨i, -, rfl⟩ := List.mem_map.1 hc
  exact isValueChar_digitChar (Nat.mod_lt _ (by omega))

theorem isValue_requestId (n : Nat) : isValue (requestId n) = true := by
  have hdash : isValueChar '-' = true := rfl
  have hversion : isValueChar '4' = true := rfl
  have hvariant : isValueChar '8' = true := rfl
  simp only [isValue, requestId, String.toList_ofList, List.all_append, List.all_cons, hdash,
    hversion, hvariant, Bool.true_and, Bool.and_eq_true, List.all_eq_true]
  simp only [and_assoc]
  exact ⟨isValueChar_of_mem_hexDigits _ _, isValueChar_of_mem_hexDigits _ _,
    isValueChar_of_mem_hexDigits _ _, isValueChar_of_mem_hexDigits _ _,
    isValueChar_of_mem_hexDigits _ _⟩

end Http

namespace Session

open Http

theorem isValue_authorization (c : Credentials) : isValue (authorization c) = true := by
  have hbasic : "Basic ".toList.all isValueChar = true := by decide
  simp only [isValue, authorization, String.toList_append, String.toList_ofList, List.all_append,
    hbasic, Bool.true_and, List.all_eq_true]
  exact isValueChar_of_mem_encode _

/-- The fields that tell who asks. -/
def identity (s : Session) : List (String × String) :=
  [("user-agent", s.userAgent), ("authorization", authorization s.credentials),
    ("x-databend-query-id", requestId s.nextId)]

/-- The fields that direct a request to a tenant and to a warehouse. -/
def routing (s : Session) : List (String × String) :=
  optionalHeader "x-databend-tenant" s.tenant
    ++ optionalHeader "x-databend-warehouse" s.warehouse

theorem headers_def (s : Session) : s.headers = insertHeaders {} (s.identity ++ s.routing) := by
  rw [headers, routing, identity, List.append_assoc]

section Names

variable {s : Session} {f : String × String}

theorem mem_optionalHeader {name : String} {value : Option String}
    (h : f ∈ optionalHeader name value) : f.1 = name := by
  cases value with
  | none => cases h
  | some v =>
    obtain rfl := List.mem_singleton.1 h
    rfl

theorem mem_routing (h : f ∈ s.routing) :
    f.1 = "x-databend-tenant" ∨ f.1 = "x-databend-warehouse" :=
  (List.mem_append.1 h).imp mem_optionalHeader mem_optionalHeader

theorem isName_of_mem (h : f ∈ s.identity ++ s.routing) : isName f.1 = true := by
  rcases List.mem_append.1 h with h | h
  · have hnames : ∀ name ∈ s.identity.map Prod.fst, isName name = true := by
      simp only [identity, List.map_cons, List.map_nil]
      decide
    exact hnames _ (List.mem_map_of_mem h)
  · rcases mem_routing h with h | h <;> rw [h] <;> decide

end Names

theorem find?_identity {s : Session} (h : isValue s.userAgent = true) :
    s.identity.find? (fun f => HoldsControl f.2) = none := by
  have hagent := (isValue_iff _).1 h
  have hauth := (isValue_iff _).1 (isValue_authorization s.credentials)
  have hid := (isValue_iff _).1 (isValue_requestId s.nextId)
  simp [identity, hagent, hauth, hid]

/-- A session whose own name can be sent fails to make its fields only for where they lead. -/
theorem headers_cases {s : Session} (h : isValue s.userAgent = true) :
    (∃ f, s.routing.find? (fun f => HoldsControl f.2) = some f
        ∧ s.headers = .error (.invalidArgument (.headerValue f.1)))
      ∨ s.routing.find? (fun f => HoldsControl f.2) = none ∧ ∃ headers, s.headers = .ok headers := by
  have hfields := insertHeaders_eq (fun _ => isName_of_mem (s := s)) {}
  rw [← headers_def, List.find?_append, find?_identity h, Option.none_or] at hfields
  cases hr : s.routing.find? fun f => HoldsControl f.2 with
  | none =>
    rw [hr] at hfields
    exact .inr ⟨rfl, _, hfields⟩
  | some f =>
    rw [hr] at hfields
    have hname : canonicalName f.1 = f.1 := by
      rcases mem_routing (List.mem_of_find?_eq_some hr) with hf | hf <;> rw [hf] <;> decide
    refine .inl ⟨f, rfl, hfields.trans ?_⟩
    dsimp only
    rw [hname]

end Session

end QueryClient
