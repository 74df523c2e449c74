import QueryClient.Proofs.Json.Fields
import Mathlib.Data.List.Nodup

/-!
# Layouts

A record may be laid out in many ways: its members in any order, with others among them, with
defaults spelled out, or as an array. `Relayout` is one change of the layout of a value, and `Flawed`
says what keeps a value from being one of its declared type; neither mentions a reader. What a record
has in place of its fields is the same in two layouts of it (`alikeIn_of_relayout`).
-/

namespace QueryClient.Json

/-- A field of a record, with the tree that stands for its absence if it may be absent. -/
structure RecordField (α : Type) where
  name : String
  default? : Option Json
  type : α

/-- The type that a value is declared with. -/
inductive Declared where
  | text
  | natural (max : Nat)
  | float
  /-- A map of texts. -/
  | texts
  | nullable (type : Declared)
  | list (item : Declared)
  | record (fields : List (RecordField Declared))

/-- A field that must be there. -/
def RecordField.required (name : String) (type : Declared) : RecordField Declared :=
  ⟨name, none, type⟩

/-- A field with a tree that stands for its absence. -/
def RecordField.defaulted (name : String) (default : Json) (type : Declared) :
    RecordField Declared :=
  ⟨name, some default, type⟩

/-- A field that may be absent or null. -/
def RecordField.optional (name : String) (type : Declared) : RecordField Declared :=
  .defaulted name .null (.nullable type)

/-- The names of the fields of a record, in order. -/
def names (fields : List (RecordField Declared)) : List String :=
  fields.map (·.name)

/-- The members that the items of an array stand for. -/
def inOrder (fields : List (RecordField Declared)) (items : List Json) :
    List (Option String × Json) :=
  List.zipWith (fun f v => (some f.name, v)) fields items

/-- One change of layout, somewhere in a value of a declared type. -/
inductive Relayout : Declared → Json → Json → Prop
  /-- The members of a record have no order. -/
  | reorder {fields : List (RecordField Declared)} {ms ms' : List (Option String × Json)}
    (h : ms.Perm ms') : Relayout (.record fields) (.object ms) (.object ms')
  /-- A member with a name that no field has. -/
  | unknown {fields : List (RecordField Declared)} {ms : List (Option String × Json)}
    {name : String} {v : Json} (h : name ∉ names fields) :
    Relayout (.record fields) (.object ms) (.object ((some name, v) :: ms))
  /-- An absent field, spelled as what stands for it. -/
  | spelled {fields : List (RecordField Declared)} {ms : List (Option String × Json)}
    {f : RecordField Declared} {d : Json} (hf : f ∈ fields) (hd : f.default? = some d)
    (h : ∀ m ∈ ms, m.1 ≠ some f.name) :
    Relayout (.record fields) (.object ms) (.object ((some f.name, d) :: ms))
  /-- A record as an array of its first fields. -/
  | inOrder {fields : List (RecordField Declared)} {items : List Json}
    (h : items.length ≤ fields.length) :
    Relayout (.record fields) (.array items) (.object (inOrder fields items))
  | member {fields : List (RecordField Declared)} {before after : List (Option String × Json)}
    {f : RecordField Declared} {v v' : Json} (hf : f ∈ fields) (h : Relayout f.type v v') :
    Relayout (.record fields) (.object (before ++ (some f.name, v) :: after))
      (.object (before ++ (some f.name, v') :: after))
  | item {type : Declared} {before after : List Json} {v v' : Json} (h : Relayout type v v') :
    Relayout (.list type) (.array (before ++ v :: after)) (.array (before ++ v' :: after))
  | nullable {type : Declared} {v v' : Json} (h : Relayout type v v') :
    Relayout (.nullable type) v v'

/-- What is wrong with a value that is none of its declared type. -/
inductive Flawed : Declared → Json → Prop
  | text {j : Json} (h : ∀ s, j ≠ .ofString s) : Flawed .text j
  | natural {max : Nat} {j : Json} (h : ∀ n ≤ max, j ≠ .ofNat n) : Flawed (.natural max) j
  | float {j : Json} (h : ∀ n, j = .number n → n.toBinary64? = none) : Flawed .float j
  | texts {j : Json}
    (h : ∀ l : List (String × String), j ≠ .object (l.map fun e => (some e.1, .ofString e.2))) :
    Flawed .texts j
  | nullable {type : Declared} {j : Json} (hne : j ≠ .null) (h : Flawed type j) :
    Flawed (.nullable type) j
  | notList {type : Declared} {j : Json} (h : ∀ items, j ≠ .array items) : Flawed (.list type) j
  | item {type : Declared} {items : List Json} {v : Json} (hv : v ∈ items) (h : Flawed type v) :
    Flawed (.list type) (.array items)
  | notRecord {fields : List (RecordField Declared)} {j : Json} (hobject : ∀ ms, j ≠ .object ms)
    (harray : ∀ items, j ≠ .array items) : Flawed (.record fields) j
  /-- A name that is no text. -/
  | unnamed {fields : List (RecordField Declared)} {ms : List (Option String × Json)} {v : Json}
    (h : (none, v) ∈ ms) : Flawed (.record fields) (.object ms)
  | twice {fields : List (RecordField Declared)} {ms : List (Option String × Json)}
    {f : RecordField Declared} (hf : f ∈ fields) (h : 2 ≤ occurrences f.name ms) :
    Flawed (.record fields) (.object ms)
  | missing {fields : List (RecordField Declared)} {ms : List (Option String × Json)}
    {f : RecordField Declared} (hf : f ∈ fields) (hd : f.default? = none)
    (h : ∀ m ∈ ms, m.1 ≠ some f.name) : Flawed (.record fields) (.object ms)
  | member {fields : List (RecordField Declared)} {ms : List (Option String × Json)}
    {f : RecordField Declared} {v : Json} (hf : f ∈ fields) (hv : (some f.name, v) ∈ ms)
    (h : Flawed f.type v) : Flawed (.record fields) (.object ms)
  /-- An array with more items than the record has fields. -/
  | tooLong {fields : List (RecordField Declared)} {items : List Json}
    (h : fields.length < items.length) : Flawed (.record fields) (.array items)
  | inOrder {fields : List (RecordField Declared)} {items : List Json}
    (hlen : items.length ≤ fields.length)
    (h : Flawed (.record fields) (.object (Json.inOrder fields items))) :
    Flawed (.record fields) (.array items)

theorem flawed_null {type : Declared} (h : ∀ t, type ≠ .nullable t) : Flawed type .null := by
  cases type with
  | text => exact .text nofun
  | natural => exact .natural nofun
  | float => exact .float nofun
  | texts => exact .texts nofun
  | nullable t => exact absurd rfl (h t)
  | list => exact .notList nofun
  | record => exact .notRecord nofun nofun

theorem flawed_ofNat {max n : Nat} (h : max < n) : Flawed (.natural max) (.ofNat n) := by
  refine .natural fun k hk he => ?_
  have hwhole : n = k := congrArg Number.whole (Json.number.inj he)
  omega

/-! ## Slots -/

/-- What a record has in place of each of its fields. -/
def slots? (names : List String) : Json → Option (String → Option Json)
  | .object ms =>
    if ms.all (·.1.isSome) && names.all fun name => occurrences name ms ≤ 1 then
      some fun name => member? name ms
    else none
  | .array items =>
    if items.length ≤ names.length then some fun name => items[names.idxOf name]? else none
  | _ => none

theorem map_some_append_replicate {names : List String} (h : names.Nodup) {items : List Json}
    (hlen : items.length ≤ names.length) :
    items.map some ++ List.replicate (names.length - items.length) none
      = names.map fun name => items[names.idxOf name]? := by
  refine List.ext_getElem ?_ fun i hi hi' => ?_
  · simp only [List.length_append, List.length_map, List.length_replicate]
    omega
  · rw [List.length_map] at hi'
    rw [List.getElem_map, h.idxOf_getElem i hi']
    by_cases hlt : i < items.length
    · rw [List.getElem_append_left (by simpa using hlt), List.getElem_map,
        List.getElem?_eq_getElem hlt]
    · rw [List.getElem_append_right (by simpa using hlt), List.getElem_replicate,
        List.getElem?_eq_none (Nat.le_of_not_lt hlt)]

theorem fields?_eq {names : List String} (h : names.Nodup) (j : Json) :
    fields? names j = (slots? names j).map fun s => names.map s := by
  cases j with
  | object ms =>
    simp only [fields?, slots?]
    split <;> rfl
  | array items =>
    simp only [fields?, slots?]
    split
    · next hlen => rw [map_some_append_replicate h hlen, Option.map_some]
    · rfl
  | _ => rfl

/-- An object whose names are texts, none of the given ones twice. -/
structure Legible (names : List String) (ms : List (Option String × Json)) : Prop where
  named : ∀ m ∈ ms, m.1.isSome = true
  once : ∀ name ∈ names, occurrences name ms ≤ 1

section Legible

variable {names : List String} {ms ms' : List (Option String × Json)}

theorem legible_iff :
    Legible names ms
      ↔ (ms.all (·.1.isSome) && names.all fun name => occurrences name ms ≤ 1) = true := by
  rw [Bool.and_eq_true, List.all_eq_true, List.all_eq_true]
  simp only [decide_eq_true_eq]
  exact ⟨fun h => ⟨h.named, h.once⟩, fun h => ⟨h.1, h.2⟩⟩

theorem slots?_of_legible (h : Legible names ms) :
    slots? names (.object ms) = some fun name => member? name ms :=
  if_pos (legible_iff.1 h)

theorem slots?_of_not_legible (h : ¬ Legible names ms) : slots? names (.object ms) = none :=
  if_neg fun hl => h (legible_iff.2 hl)

theorem legible_perm (hp : ms.Perm ms') (h : Legible names ms) : Legible names ms' where
  named m hm := h.named m (hp.mem_iff.2 hm)
  once name hn := by
    rw [occurrences, ← hp.countP_eq]
    exact h.once name hn

theorem legible_cons_iff {name : String} {v : Json}
    (h : name ∈ names → ∀ m ∈ ms, m.1 ≠ some name) :
    Legible names ((some name, v) :: ms) ↔ Legible names ms := by
  constructor
  · refine fun hl => ⟨fun m hm => hl.named m (List.mem_cons_of_mem _ hm), fun n hn => ?_⟩
    have := hl.once n hn
    rw [occurrences_cons] at this
    omega
  · refine fun hl => ⟨List.forall_mem_cons.2 ⟨rfl, hl.named⟩, fun n hn => ?_⟩
    rw [occurrences_cons]
    split
    · next he =>
      obtain rfl := Option.some.inj he
      exact Nat.le_of_eq (congrArg (· + 1) (occurrences_eq_zero_iff.2 (h hn)))
    · exact hl.once n hn

theorem legible_inside {before after : List (Option String × Json)} {name : Option String}
    {v v' : Json} (h : Legible names (before ++ (name, v) :: after)) :
    Legible names (before ++ (name, v') :: after) where
  named m hm := by
    have hall := h.named
    simp only [List.forall_mem_append, List.forall_mem_cons] at hall
    have hall' : ∀ m ∈ before ++ (name, v') :: after, m.1.isSome = true := by
      simp only [List.forall_mem_append, List.forall_mem_cons]
      exact hall
    exact hall' m hm
  once n hn := by
    have := h.once n hn
    simp only [occurrences, List.countP_append, List.countP_cons] at this ⊢
    exact this

end Legible

/-! ## Layouts of a record -/

/-- The same slot in two layouts: as it is, spelled out, or laid out differently inside. -/
inductive RecordField.Alike (f : RecordField Declared) : Option Json → Option Json → Prop
  | same (s : Option Json) : f.Alike s s
  | spelled {d : Json} (h : f.default? = some d) : f.Alike none (some d)
  | inside {v v' : Json} (h : Relayout f.type v v') : f.Alike (some v) (some v')

/-- Slots that are the same in two layouts, unless neither layout has any. -/
def AlikeIn (fields : List (RecordField Declared)) (j j' : Json) : Prop :=
  Option.Rel (fun s s' => ∀ f ∈ fields, f.Alike (s f.name) (s' f.name)) (slots? (names fields) j)
    (slots? (names fields) j')

section Record

variable {fields : List (RecordField Declared)} {ms ms' : List (Option String × Json)}

theorem alikeIn_of_legible (hl : Legible (names fields) ms ↔ Legible (names fields) ms')
    (h : Legible (names fields) ms →
      ∀ f ∈ fields, f.Alike (member? f.name ms) (member? f.name ms')) :
    AlikeIn fields (.object ms) (.object ms') := by
  unfold AlikeIn
  by_cases hms : Legible (names fields) ms
  · rw [slots?_of_legible hms, slots?_of_legible (hl.1 hms)]
    exact .some (h hms)
  · rw [slots?_of_not_legible hms, slots?_of_not_legible fun hms' => hms (hl.2 hms')]
    exact .none

theorem eq_of_name_eq (hnodup : (names fields).Nodup) {f g : RecordField Declared} (hf : f ∈ fields)
    (hg : g ∈ fields) (h : f.name = g.name) : f = g :=
  List.inj_on_of_nodup_map hnodup hf hg h

theorem alikeIn_reorder (h : ms.Perm ms') : AlikeIn fields (.object ms) (.object ms') := by
  refine alikeIn_of_legible ⟨legible_perm h, legible_perm h.symm⟩ fun hms f hf => ?_
  rw [member?_perm h (hms.once f.name (List.mem_map_of_mem hf))]
  exact .same _

theorem alikeIn_unknown {name : String} {v : Json} (h : name ∉ names fields) :
    AlikeIn fields (.object ms) (.object ((some name, v) :: ms)) := by
  refine alikeIn_of_legible (legible_cons_iff (absurd · h)).symm fun _ f hf => ?_
  have hne : some name ≠ some f.name := fun he =>
    h (Option.some.inj he ▸ List.mem_map_of_mem hf)
  rw [member?_cons, if_neg hne]
  exact .same _

theorem alikeIn_spelled (hnodup : (names fields).Nodup) {f : RecordField Declared} {d : Json}
    (hf : f ∈ fields) (hd : f.default? = some d) (h : ∀ m ∈ ms, m.1 ≠ some f.name) :
    AlikeIn fields (.object ms) (.object ((some f.name, d) :: ms)) := by
  refine alikeIn_of_legible (legible_cons_iff fun _ => h).symm fun _ g hg => ?_
  rw [member?_cons]
  split
  · next he =>
    obtain rfl := eq_of_name_eq hnodup hf hg (Option.some.inj he)
    rw [member?_eq_none_iff.2 h]
    exact .spelled hd
  · exact .same _

theorem alikeIn_member (hnodup : (names fields).Nodup)
    {before after : List (Option String × Json)} {f : RecordField Declared} {v v' : Json}
    (hf : f ∈ fields) (h : Relayout f.type v v') :
    AlikeIn fields (.object (before ++ (some f.name, v) :: after))
      (.object (before ++ (some f.name, v') :: after)) := by
  refine alikeIn_of_legible ⟨legible_inside, legible_inside⟩ fun hms g hg => ?_
  by_cases he : f = g
  · subst he
    have hname : f.name ∈ names fields := List.mem_map_of_mem hf
    have hms' : Legible (names fields) (before ++ (some f.name, v') :: after) := legible_inside hms
    have hv : member? f.name (before ++ (some f.name, v) :: after) = some v :=
      (member?_eq_some_iff (hms.once _ hname)).2 (by simp)
    have hv' : member? f.name (before ++ (some f.name, v') :: after) = some v' :=
      (member?_eq_some_iff (hms'.once _ hname)).2 (by simp)
    rw [hv, hv']
    exact .inside h
  · have hne : some f.name ≠ some g.name := fun hn =>
      he (eq_of_name_eq hnodup hf hg (Option.some.inj hn))
    rw [member?_append, member?_append, member?_cons, member?_cons, if_neg hne, if_neg hne]
    exact .same _

theorem member?_inOrder {name : String} (h : name ∈ names fields) (items : List Json) :
    member? name (inOrder fields items) = items[(names fields).idxOf name]? := by
  induction fields generalizing items with
  | nil => cases h
  | cons f fields ih =>
    cases items with
    | nil => simp [inOrder, member?]
    | cons v items =>
      have hcons : inOrder (f :: fields) (v :: items)
        = (some f.name, v) :: inOrder fields items := rfl
      rw [hcons, member?_cons]
      by_cases hn : f.name = name
      · simp [names, hn]
      · have hmem : name ∈ names fields := by
          rcases List.mem_cons.1 h with rfl | h
          · exact absurd rfl hn
          · exact h
        rw [if_neg (fun he => hn (Option.some.inj he)), ih hmem]
        simp [names, List.idxOf_cons_ne _ hn]

theorem map_fst_inOrder (fields : List (RecordField Declared)) (items : List Json) :
    (inOrder fields items).map (·.1) = ((names fields).take items.length).map some := by
  induction fields generalizing items with
  | nil => simp [inOrder, names]
  | cons f fields ih =>
    cases items with
    | nil => rfl
    | cons v items => exact congrArg (some f.name :: ·) (ih items)

theorem legible_inOrder (hnodup : (names fields).Nodup) (items : List Json) :
    Legible (names fields) (inOrder fields items) := by
  have hnames : ((inOrder fields items).map (·.1)).Nodup := by
    rw [map_fst_inOrder]
    exact (hnodup.sublist (List.take_sublist _ _)).map fun _ _ h => Option.some.inj h
  refine ⟨fun m hm => ?_, fun name _ => ?_⟩
  · have hm := List.mem_map_of_mem (f := (·.1)) hm
    rw [map_fst_inOrder] at hm
    obtain ⟨name, -, hname⟩ := List.mem_map.1 hm
    rw [← hname, Option.isSome_some]
  · have hcount := List.nodup_iff_count_le_one.1 hnames (some name)
    rwa [← occurrences_eq_count] at hcount

theorem alikeIn_inOrder (hnodup : (names fields).Nodup) {items : List Json}
    (h : items.length ≤ fields.length) :
    AlikeIn fields (.array items) (.object (inOrder fields items)) := by
  have hitems : slots? (names fields) (.array items)
      = some fun name => items[(names fields).idxOf name]? :=
    if_pos (by simpa [names] using h)
  unfold AlikeIn
  rw [hitems, slots?_of_legible (legible_inOrder hnodup items)]
  refine .some fun f hf => ?_
  rw [member?_inOrder (List.mem_map_of_mem hf)]
  exact .same _

theorem alikeIn_of_relayout (hnodup : (names fields).Nodup) {j j' : Json}
    (h : Relayout (.record fields) j j') : AlikeIn fields j j' := by
  cases h with
  | reorder h => exact alikeIn_reorder h
  | unknown h => exact alikeIn_unknown h
  | spelled hf hd h => exact alikeIn_spelled hnodup hf hd h
  | inOrder h => exact alikeIn_inOrder hnodup h
  | member hf h => exact alikeIn_member hnodup hf h

end Record

end QueryClient.Json
