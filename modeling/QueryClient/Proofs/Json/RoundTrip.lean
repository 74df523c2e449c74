import QueryClient.Proofs.Json.Texts

/-!
# What is written is read

The text of a tree is read as the tree (`ofText?_text`), and so are its bytes (`ofBytes?_text`). The
reader takes one character at a time and sees the end of a number only in what follows, so the lemma
that goes through a tree is about a reader that has its value but may not know yet
(`run_write`): whatever is not part of a number then comes after that value.
-/

namespace QueryClient.Json

open QueryClient.Text

namespace Reader

/-- The reader after some characters. -/
def run (r : Reader) (s : List Char) : Option Reader :=
  (s.map some).foldlM step r

theorem run_cons (r : Reader) (c : Char) (s : List Char) :
    r.run (c :: s) = (step r (some c)).bind (·.run s) := rfl

theorem run_append (r : Reader) (s t : List Char) : r.run (s ++ t) = (r.run s).bind (·.run t) := by
  rw [run, List.map_append, List.foldlM_append]
  rfl

/-! ## Strings -/

/-- Where a string leaves the reader. -/
def afterText (usage : TextUse) (t : Option String) (frames : List Frame) : Reader :=
  match usage with
  | .value => ⟨.after (.string t), frames⟩
  | .name members => ⟨.colon members t, frames⟩

section Text

variable {usage : TextUse} {raw : List (Option Char)} {frames : List Frame}

theorem run_plain {s : List Char} (h : ∀ c ∈ s, c ≠ '"' ∧ c ≠ '\\') :
    run ⟨.text usage false raw, frames⟩ s
      = some ⟨.text usage false ((s.map some).reverse ++ raw), frames⟩ := by
  induction s generalizing raw with
  | nil => rfl
  | cons c s ih =>
    obtain ⟨⟨hquote, hslash⟩, hs⟩ := List.forall_mem_cons.1 h
    have hstep : step ⟨.text usage false raw, frames⟩ (some c)
        = some ⟨.text usage false (some c :: raw), frames⟩ := by
      simp [step, hquote, hslash]
    rw [run_cons, hstep, Option.bind_some, ih hs, List.map_cons, List.reverse_cons,
      List.append_assoc]
    rfl

theorem hexDigit_ne (n : Nat) : hexDigit n ≠ '"' ∧ hexDigit n ≠ '\\' := by
  have hall : ∀ k < 16, Nat.digitChar k ≠ '"' ∧ Nat.digitChar k ≠ '\\' := by decide
  exact hall _ (Nat.mod_lt n (by decide))

theorem run_escape (c : Char) :
    run ⟨.text usage false raw, frames⟩ (escape c)
      = some ⟨.text usage false (((escape c).map some).reverse ++ raw), frames⟩ := by
  rcases escape_cases c with ⟨d, he, -, -⟩ | ⟨-, he⟩ | ⟨-, hquote, hslash, he⟩
  · rw [he]
    rfl
  · have hdigits : ∀ d ∈ ['0', '0', hexDigit (c.toNat / 16), hexDigit c.toNat],
        d ≠ '"' ∧ d ≠ '\\' := by
      simp only [List.forall_mem_cons]
      exact ⟨by decide, by decide, hexDigit_ne _, hexDigit_ne _, by simp⟩
    have hmark : run ⟨.text usage false raw, frames⟩ ['\\', 'u']
        = some ⟨.text usage false (some 'u' :: some '\\' :: raw), frames⟩ := rfl
    have hsplit : escape c
        = ['\\', 'u'] ++ ['0', '0', hexDigit (c.toNat / 16), hexDigit c.toNat] := he
    rw [hsplit, run_append, hmark, Option.bind_some, run_plain hdigits, List.map_append,
      List.reverse_append, List.append_assoc]
    rfl
  · rw [he]
    exact run_plain (by simpa using ⟨hquote, hslash⟩)

theorem run_escapes (s : List Char) :
    run ⟨.text usage false raw, frames⟩ (s.flatMap escape)
      = some ⟨.text usage false (((s.flatMap escape).map some).reverse ++ raw), frames⟩ := by
  induction s generalizing raw with
  | nil => rfl
  | cons c s ih =>
    rw [List.flatMap_cons, run_append, run_escape, Option.bind_some, ih, List.map_append,
      List.reverse_append, List.append_assoc]

theorem run_content (t : Option String) :
    run ⟨.text usage false raw, frames⟩ (content t)
      = some ⟨.text usage false (((content t).map some).reverse ++ raw), frames⟩ := by
  cases t with
  | none => rfl
  | some s => exact run_escapes s.toList

theorem run_text (t : Option String) :
    run ⟨.text usage false [], frames⟩ (content t ++ ['"']) = some (afterText usage t frames) := by
  have hend : endText? usage ((content t).map some).reverse frames
      = some (afterText usage t frames) := by
    unfold endText?
    rw [List.reverse_reverse, textOf?_content]
    cases usage <;> rfl
  rw [run_append, run_content, Option.bind_some, List.append_nil, run_cons]
  exact congrArg (·.bind (run · [])) hend

end Text

/-! ## Values -/

/-- A reader that has read a value: it knows that the value is whole, or the value is a number and
its digits may go on. -/
inductive Has (v : Json) (frames : List Frame) : Reader → Prop
  | after : Has v frames ⟨.after v, frames⟩
  | number {n : Number} {chars : List Char} (hv : v = .number n)
    (h : Number.ofChars? chars.reverse = some n) : Has v frames ⟨.number chars, frames⟩

section Values

variable {r : Reader} {v : Json} {frames : List Frame} {closable : Bool}

/-- What is not part of a number comes after the value. -/
theorem Has.step_eq (h : Has v frames r) {c : Char} (hc : isNumberChar c = false) :
    step r (some c) = follow? c v frames := by
  cases h with
  | after => rfl
  | number hv hn =>
    subst hv
    simp [step, hc, hn]

theorem Has.done?_eq (h : Has v [] r) : r.done? = some v := by
  cases h with
  | after => rfl
  | number hv hn =>
    subst hv
    simp [done?, hn]

/-- A value starts with its first character. -/
theorem run_value {c : Char} (hspace : isSpace c = false) (hclose : c ≠ ']') (s : List Char) :
    run ⟨.value closable, frames⟩ (c :: s) = (begin? c frames).bind (·.run s) := by
  have hstep : step ⟨.value closable, frames⟩ (some c) = begin? c frames := by
    simp only [step, hspace, Bool.false_eq_true, if_false]
    split
    · exact absurd rfl hclose
    · rfl
  rw [run_cons, hstep]

theorem isSpace_of_isNumberChar {c : Char} (h : isNumberChar c = true) : isSpace c = false := by
  by_contra hs
  simp only [isSpace, Bool.not_eq_false, Bool.or_eq_true, decide_eq_true_eq] at hs
  obtain ((rfl | rfl) | rfl) | rfl := hs <;> exact absurd h (by decide)

theorem begin?_number {c : Char} (h : isNumberChar c = true) :
    begin? c frames = some ⟨.number [c], frames⟩ := by
  unfold begin?
  split
  case h_7 => rw [if_pos h]
  all_goals exact absurd h (by decide)

theorem run_numberChars {s chars : List Char} (h : ∀ c ∈ s, isNumberChar c = true) :
    run ⟨.number chars, frames⟩ s = some ⟨.number (s.reverse ++ chars), frames⟩ := by
  induction s generalizing chars with
  | nil => rfl
  | cons c s ih =>
    obtain ⟨hc, hs⟩ := List.forall_mem_cons.1 h
    have hstep : step ⟨.number chars, frames⟩ (some c) = some ⟨.number (c :: chars), frames⟩ := by
      simp [step, hc]
    rw [run_cons, hstep, Option.bind_some, ih hs, List.reverse_cons, List.append_assoc]
    rfl

theorem run_number (n : Number) :
    ∃ r, run ⟨.value closable, frames⟩ n.write = some r ∧ Has (.number n) frames r := by
  have hchars : ∀ c ∈ n.write, isNumberChar c = true := fun _ => Number.isNumberChar_of_mem_write
  have hread := Number.ofChars?_write n
  obtain ⟨c, s, hw⟩ := List.exists_cons_of_ne_nil n.write_ne_nil
  rw [hw] at hchars hread ⊢
  obtain ⟨hc, hs⟩ := List.forall_mem_cons.1 hchars
  have hclose : c ≠ ']' := by
    rintro rfl
    cases hc
  refine ⟨⟨.number (s.reverse ++ [c]), frames⟩, ?_, .number rfl ?_⟩
  · rw [run_value (isSpace_of_isNumberChar hc) hclose, begin?_number hc, Option.bind_some,
      run_numberChars hs]
  · rwa [List.reverse_append, List.reverse_reverse]

/-- A name and its colon, before the value of the name. -/
theorem run_name (name : Option String) (read : List (Option String × Json)) (rest : List Char) :
    run ⟨.name read closable, frames⟩ (writeText name ++ ':' :: rest)
      = run ⟨.value false, .object read name :: frames⟩ rest := by
  have hbegin : step ⟨.name read closable, frames⟩ (some '"')
      = some ⟨.text (.name read) false [], frames⟩ := rfl
  rw [writeText_eq, List.cons_append, run_cons, hbegin, Option.bind_some, run_append, run_text]
  rfl

end Values

/-! ## Trees -/

mutual

theorem run_write (j : Json) (closable : Bool) (frames : List Frame) :
    ∃ r, run ⟨.value closable, frames⟩ j.write = some r ∧ Has j frames r := by
  match j with
  | .null => exact ⟨_, by rw [write, run_value (by decide) (by decide)]; rfl, .after⟩
  | .bool true => exact ⟨_, by rw [write, run_value (by decide) (by decide)]; rfl, .after⟩
  | .bool false => exact ⟨_, by rw [write, run_value (by decide) (by decide)]; rfl, .after⟩
  | .number n => simpa only [write] using run_number n
  | .string t =>
    refine ⟨_, ?_, .after⟩
    rw [write, writeText_eq, run_value (by decide) (by decide)]
    exact run_text t
  | .array [] => exact ⟨_, by rw [write, run_value (by decide) (by decide)]; rfl, .after⟩
  | .array (v :: vs) =>
    obtain ⟨r, hr, hv⟩ := run_write v true (.array [] :: frames)
    refine ⟨_, ?_, .after⟩
    rw [write, run_value (by decide) (by decide)]
    exact (run_append _ _ _).trans (by rw [hr, Option.bind_some, run_writeItems vs hv]; rfl)
  | .object [] => exact ⟨_, by rw [write, run_value (by decide) (by decide)]; rfl, .after⟩
  | .object ((name, v) :: ms) =>
    obtain ⟨r, hr, hv⟩ := run_write v false (.object [] name :: frames)
    refine ⟨_, ?_, .after⟩
    rw [write, run_value (by decide) (by decide)]
    refine (run_name name [] _).trans ?_
    rw [run_append, hr, Option.bind_some, run_writeMembers ms hv]
    rfl

theorem run_writeItems (items : List Json) {v : Json} {read : List Json} {frames : List Frame}
    {r : Reader} (h : Has v (.array read :: frames) r) :
    r.run (writeItems items) = some ⟨.after (.array ((v :: read).reverse ++ items)), frames⟩ := by
  match items with
  | [] =>
    rw [writeItems, run_cons, h.step_eq (by decide), List.append_nil]
    rfl
  | w :: ws =>
    obtain ⟨r', hr', hw⟩ := run_write w false (.array (v :: read) :: frames)
    rw [writeItems, run_cons, h.step_eq (by decide)]
    refine (run_append _ _ _).trans ?_
    rw [hr', Option.bind_some, run_writeItems ws hw, List.reverse_cons, List.append_assoc]
    rfl

theorem run_writeMembers (ms : List (Option String × Json)) {name : Option String} {v : Json}
    {read : List (Option String × Json)} {frames : List Frame} {r : Reader}
    (h : Has v (.object read name :: frames) r) :
    r.run (writeMembers ms)
      = some ⟨.after (.object (((name, v) :: read).reverse ++ ms)), frames⟩ := by
  match ms with
  | [] =>
    rw [writeMembers, run_cons, h.step_eq (by decide), List.append_nil]
    rfl
  | (more, w) :: ms =>
    obtain ⟨r', hr', hw⟩ := run_write w false (.object ((name, v) :: read) more :: frames)
    rw [writeMembers, run_cons, h.step_eq (by decide)]
    refine (run_name more _ _).trans ?_
    rw [run_append, hr', Option.bind_some, run_writeMembers ms hw, List.reverse_cons,
      List.append_assoc]
    rfl

end

end Reader

theorem ofScan?_write (j : Json) : ofScan? (j.write.map some) = some j := by
  obtain ⟨r, hr, hj⟩ := Reader.run_write j false []
  rw [ofScan?]
  exact (congrArg (·.bind Reader.done?) hr).trans hj.done?_eq

theorem ofText?_text (j : Json) : ofText? j.text = some j := by
  rw [ofText?, text, String.toList_ofList, ofScan?_write]

theorem ofBytes?_text (j : Json) : ofBytes? (Utf8.encode j.text.toList) = some j := by
  rw [ofBytes?, Utf8.scan_encode, text, String.toList_ofList, ofScan?_write]

end QueryClient.Json
