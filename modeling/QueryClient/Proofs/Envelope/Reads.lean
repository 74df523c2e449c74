import QueryClient.Envelope.OfJson
import QueryClient.Proofs.Envelope.Layout

/-!
# Readers that respect a type

A reader respects a type when it does not see how a value is laid out and refuses exactly the flawed
values (`Declared.Reads`). The readers of texts, numbers, lists and optional values do. A reader of
a record is put together from readers of its fields (`ReadsAll.bind`), and then it does as well
(`Declared.Reads.record`).
-/

namespace QueryClient.Json

/-- A reader that answers the same in every layout, and answers whatever is not flawed. -/
structure Declared.Reads {α : Type} (type : Declared) (d : Decoder α) : Prop where
  same : ∀ {j j' : Json}, Relayout type j j' → d j = d j'
  none_iff : ∀ {j : Json}, d j = none ↔ Flawed type j

/-! ## Values without parts -/

theorem reads_text : Declared.text.Reads text? where
  same h := nomatch h
  none_iff {j} := by
    simp only [Option.eq_none_iff_forall_ne_some, ne_eq, text?_eq_some_iff]
    exact ⟨.text, fun | .text h => h⟩

theorem reads_natural (max : Nat) : (Declared.natural max).Reads (natural? max) where
  same h := nomatch h
  none_iff {j} := by
    simp only [Option.eq_none_iff_forall_ne_some, ne_eq, natural?_eq_some_iff, not_and]
    exact ⟨.natural, fun | .natural h => h⟩

theorem reads_float : Declared.float.Reads float? where
  same h := nomatch h
  none_iff {j} := by
    constructor
    · refine fun h => .float ?_
      rintro n rfl
      exact h
    · intro hf
      cases hf with
      | float h =>
        cases j with
        | number n => exact h n rfl
        | _ => rfl

theorem reads_texts : Declared.texts.Reads textMap? where
  same h := nomatch h
  none_iff {j} := by
    simp only [Option.eq_none_iff_forall_ne_some, ne_eq, textMap?_eq_some_iff]
    exact ⟨.texts, fun | .texts h => h⟩

/-! ## Values with parts -/

section Parts

variable {α β : Type} {type : Declared} {d : Decoder α}

theorem Declared.Reads.map (h : type.Reads d) (f : α → β) : type.Reads fun j => (d j).map f where
  same hr := congrArg (Option.map f) (h.same hr)
  none_iff := Option.map_eq_none_iff.trans h.none_iff

theorem reads_uint32 : (Declared.natural (UInt32.size - 1)).Reads uint32? :=
  (reads_natural _).map _

theorem reads_uint64 : (Declared.natural (UInt64.size - 1)).Reads uint64? :=
  (reads_natural _).map _

theorem reads_settings : Declared.texts.Reads settingsOfJson? :=
  reads_texts.map _

/-- A change of layout is inside a value with parts. -/
theorem Relayout.ne_null {j j' : Json} (h : Relayout type j j') : j ≠ .null ∧ j' ≠ .null := by
  induction h with
  | nullable _ ih => exact ih
  | _ => exact ⟨nofun, nofun⟩

theorem orNull?_of_ne_null {j : Json} (h : j ≠ .null) : orNull? d j = (d j).map some := by
  cases j with
  | null => exact absurd rfl h
  | _ => rfl

theorem Declared.Reads.orNull (h : type.Reads d) : (Declared.nullable type).Reads (orNull? d) where
  same hr := by
    cases hr with
    | nullable hr =>
      rw [orNull?_of_ne_null hr.ne_null.1, orNull?_of_ne_null hr.ne_null.2, h.same hr]
  none_iff {j} := by
    by_cases hj : j = .null
    · subst hj
      exact ⟨nofun, fun hf => by cases hf; contradiction⟩
    · rw [orNull?_of_ne_null hj, Option.map_eq_none_iff, h.none_iff]
      exact ⟨.nullable hj, fun | .nullable _ hf => hf⟩

theorem mapM_eq_none_iff {l : List Json} : l.mapM d = none ↔ ∃ v ∈ l, d v = none := by
  induction l with
  | nil => simp
  | cons v l ih =>
    rw [List.mapM_cons]
    cases hv : d v with
    | none => simp [hv]
    | some a => cases hl : l.mapM d <;> simp_all

theorem Declared.Reads.listOf (h : type.Reads d) : (Declared.list type).Reads (listOf? d) where
  same hr := by
    cases hr with
    | item hr => simp only [listOf?, List.mapM_append, List.mapM_cons, h.same hr]
  none_iff {j} := by
    cases j with
    | array items =>
      rw [listOf?, mapM_eq_none_iff]
      constructor
      · rintro ⟨v, hv, hd⟩
        exact .item hv (h.none_iff.1 hd)
      · intro hf
        cases hf with
        | notList hno => exact absurd rfl (hno items)
        | item hv hf => exact ⟨_, hv, h.none_iff.2 hf⟩
    | _ => exact ⟨fun _ => .notList (by simp), fun _ => rfl⟩

end Parts

/-! ## Fields -/

/-- What is wrong with the slot of a field. -/
def RecordField.Misfit (f : RecordField Declared) : Option Json → Prop
  | none => f.default? = none
  | some v => Flawed f.type v

/-- A reader of a slot that respects its field: an absent field is read as what stands for it. -/
structure RecordField.Reads {α : Type} (f : RecordField Declared) (r : Option Json → Option α) :
    Prop where
  present : f.type.Reads fun j => r (some j)
  absent : r none = f.default?.bind fun d => r (some d)
  total : ∀ d, f.default? = some d → r (some d) ≠ none

section Fields

variable {α : Type} {name : String} {type : Declared} {d : Decoder α}

theorem RecordField.Reads.alike {f : RecordField Declared} {r : Option Json → Option α}
    (h : f.Reads r) {s s' : Option Json} (hs : f.Alike s s') : r s = r s' := by
  cases hs with
  | same => rfl
  | spelled hd => rw [h.absent, hd, Option.bind_some]
  | inside hr => exact h.present.same hr

theorem RecordField.Reads.none_iff {f : RecordField Declared} {r : Option Json → Option α}
    (h : f.Reads r) {s : Option Json} : r s = none ↔ f.Misfit s := by
  cases s with
  | some v => exact h.present.none_iff
  | none =>
    rw [h.absent, RecordField.Misfit]
    cases hd : f.default? with
    | none => simp
    | some d => simp [h.total d hd]

theorem Declared.Reads.required (h : type.Reads d) :
    (RecordField.required name type).Reads (required? d) where
  present := h
  absent := rfl
  total _ hd := nomatch hd

theorem Declared.Reads.withDefault (h : type.Reads d) {default : α} {j : Json}
    (hj : d j = some default) :
    (RecordField.defaulted name j type).Reads (withDefault? default d) where
  present := h
  absent := hj.symm
  total _ hd := by
    obtain rfl := Option.some.inj hd
    exact fun hn => nomatch hj.symm.trans hn

theorem Declared.Reads.optional (h : type.Reads d) :
    (RecordField.optional name type).Reads (optional? d) :=
  h.orNull.withDefault rfl

end Fields

/-! ## Records -/

/-- A reader of all slots of a record. -/
structure ReadsAll {α : Type} (fields : List (RecordField Declared))
    (g : (String → Option Json) → Option α) : Prop where
  same : ∀ {s s' : String → Option Json}, (∀ f ∈ fields, f.Alike (s f.name) (s' f.name)) →
    g s = g s'
  none_iff : ∀ {s : String → Option Json}, g s = none ↔ ∃ f ∈ fields, f.Misfit (s f.name)

section Records

variable {α β : Type} {fields : List (RecordField Declared)}

theorem ReadsAll.pure (a : α) : ReadsAll [] fun _ => some a where
  same _ := rfl
  none_iff := by simp

/-- One field after another. -/
theorem ReadsAll.bind {f : RecordField Declared} {r : Option Json → Option β} (hf : f.Reads r)
    {k : β → (String → Option Json) → Option α} (hk : ∀ b, ReadsAll fields (k b)) :
    ReadsAll (f :: fields) fun s => (r (s f.name)).bind fun b => k b s where
  same {s s'} h := by
    obtain ⟨hs, hrest⟩ := List.forall_mem_cons.1 h
    rw [hf.alike hs]
    exact congrArg _ (funext fun b => (hk b).same hrest)
  none_iff {s} := by
    simp only [List.exists_mem_cons_iff, ← hf.none_iff]
    cases r (s f.name) with
    | none => simp
    | some b => simp [(hk b).none_iff]

theorem flawed_object_iff {ms : List (Option String × Json)} :
    Flawed (.record fields) (.object ms)
      ↔ ¬ Legible (names fields) ms ∨ ∃ f ∈ fields, f.Misfit (member? f.name ms) := by
  constructor
  · intro h
    by_cases hl : Legible (names fields) ms
    · refine .inr ?_
      cases h with
      | notRecord hobject => exact absurd rfl (hobject ms)
      | unnamed hv => exact nomatch hl.named _ hv
      | @twice _ _ f hf htwice =>
        have := hl.once f.name (List.mem_map_of_mem hf)
        omega
      | @missing _ _ f hf hd hno =>
        refine ⟨f, hf, ?_⟩
        rwa [member?_eq_none_iff.2 hno]
      | @member _ _ f v hf hv hflaw =>
        refine ⟨f, hf, ?_⟩
        rwa [(member?_eq_some_iff (hl.once f.name (List.mem_map_of_mem hf))).2 hv]
    · exact .inl hl
  · rintro (hl | ⟨f, hf, hm⟩)
    · by_contra hno
      refine hl ⟨fun m hm => ?_, fun name hname => ?_⟩
      · obtain ⟨_ | name, v⟩ := m
        · exact absurd (.unnamed hm) hno
        · rfl
      · obtain ⟨f, hf, rfl⟩ := List.mem_map.1 hname
        by_contra htwice
        exact hno (.twice hf (by omega))
    · cases hv : member? f.name ms with
      | none =>
        rw [hv] at hm
        exact .missing hf hm (member?_eq_none_iff.1 hv)
      | some v =>
        rw [hv] at hm
        exact .member hf (mem_of_member? hv) hm

/-- A reader of records is a reader of their slots. -/
theorem Declared.Reads.record {d : Decoder α} {g : (String → Option Json) → Option α}
    {l : List String} (hl : names fields = l) (hnodup : l.Nodup)
    (hd : ∀ j, d j = (slots? l j).bind g)
    (hg : ReadsAll fields g) : (Declared.record fields).Reads d := by
  subst hl
  have halike : ∀ {j j'}, AlikeIn fields j j' → d j = d j' := by
    intro j j' h
    rw [hd, hd]
    unfold AlikeIn at h
    generalize slots? (names fields) j = s, slots? (names fields) j' = s' at h ⊢
    cases h with
    | none => rfl
    | some h => exact hg.same h
  have hobject : ∀ ms, d (.object ms) = none ↔ Flawed (.record fields) (.object ms) := by
    intro ms
    rw [hd, flawed_object_iff]
    by_cases hl : Legible (names fields) ms
    · rw [slots?_of_legible hl, Option.bind_some, hg.none_iff, or_iff_right (not_not_intro hl)]
    · rw [slots?_of_not_legible hl]
      exact ⟨fun _ => .inl hl, fun _ => rfl⟩
  refine ⟨fun hr => halike (alikeIn_of_relayout hnodup hr), fun {j} => ?_⟩
  cases j with
  | object ms => exact hobject ms
  | array items =>
    by_cases hlen : items.length ≤ fields.length
    · rw [halike (alikeIn_inOrder hnodup hlen), hobject]
      refine ⟨.inOrder hlen, fun hf => ?_⟩
      cases hf with
      | notRecord _ harray => exact absurd rfl (harray items)
      | tooLong hlong => omega
      | inOrder _ hf => exact hf
    · have hnone : slots? (names fields) (.array items) = none :=
        if_neg (by simpa [names] using hlen)
      rw [hd, hnone]
      exact ⟨fun _ => .tooLong (by omega), fun _ => rfl⟩
  | _ =>
    rw [hd]
    exact ⟨fun _ => .notRecord (by simp) (by simp), fun _ => rfl⟩

end Records

end QueryClient.Json
