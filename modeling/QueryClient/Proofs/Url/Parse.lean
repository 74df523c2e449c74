import QueryClient.Error
import QueryClient.Proofs.Text.Split
import QueryClient.Url.Parse

/-!
# The parts of a text that is a URL

A text that begins with a scheme is read by its rules (`parse_scheme`), and after two slashes come a
user, a host and a port (`afterSlashes_ok_iff`).
-/

namespace QueryClient.Url

open Text

/-! ## Schemes -/

/-- What counts of a text after a visible start. -/
def significantAfter (s : List Char) : List Char :=
  (dropEndWhile (·.toNat ≤ 0x20) s).filter fun c => c ≠ '\t' ∧ c ≠ '\n' ∧ c ≠ '\r'

theorem filter_visible {s : List Char} (h : ∀ c ∈ s, 0x20 < c.toNat) :
    s.filter (fun c => c ≠ '\t' ∧ c ≠ '\n' ∧ c ≠ '\r') = s := by
  refine List.filter_eq_self.2 fun c hc => ?_
  have hlt := h c hc
  refine decide_eq_true ⟨?_, ?_, ?_⟩ <;> rintro rfl <;> simp at hlt

/-- A visible start of a text is kept as it is. -/
theorem significant_append {pre : List Char} (hne : pre ≠ []) (h : ∀ c ∈ pre, 0x20 < c.toNat)
    (rest : List Char) :
    significant (String.ofList (pre ++ rest)) = pre ++ significantAfter rest := by
  have hvisible : ∀ c ∈ pre, decide (c.toNat ≤ 0x20) = false := by
    simpa using h
  have hstart : (pre ++ rest).dropWhile (·.toNat ≤ 0x20) = pre ++ rest := by
    cases pre with
    | nil => exact absurd rfl hne
    | cons c cs =>
      have hc := hvisible c List.mem_cons_self
      simp only [List.cons_append, List.dropWhile_cons, hc, Bool.false_eq_true, if_false]
  rw [significant, String.toList_ofList, trimWhile, hstart, dropEndWhile_append hvisible,
    List.filter_append, filter_visible h, significantAfter]

theorem significantAfter_eq_self {s : List Char} (h : ∀ c ∈ s, 0x20 < c.toNat) :
    significantAfter s = s := by
  have hvisible : ∀ c ∈ s, decide (c.toNat ≤ 0x20) = false := by
    simpa using h
  rw [significantAfter, dropEndWhile_eq_self fun c hc => hvisible c (List.mem_of_getLast? hc),
    filter_visible h]

/-- A scheme as it is kept: a letter comes first, and none is in upper case. -/
def IsScheme (name : List Char) : Prop :=
  name.all isSchemeChar = true ∧ name.head?.any Char.isAlpha = true ∧ name.map Char.toLower = name

instance (name : List Char) : Decidable (IsScheme name) :=
  inferInstanceAs (Decidable (_ ∧ _ ∧ _))

theorem visible_of_isSchemeChar {c : Char} (h : isSchemeChar c = true) : 0x20 < c.toNat := by
  have hall : ∀ n < 0x21, isSchemeChar (Char.ofNat n) = false := by decide
  refine Nat.lt_of_not_le fun hle => ?_
  have hc := hall c.toNat (by omega)
  rw [Char.ofNat_toNat, h] at hc
  cases hc

section Scheme

variable {name : List Char}

theorem IsScheme.isSchemeChar (h : IsScheme name) : ∀ c ∈ name, Url.isSchemeChar c = true :=
  List.all_eq_true.1 h.1

theorem scheme?_append (h : IsScheme name) (rest : List Char) :
    scheme? (name ++ ':' :: rest) = some (String.ofList name, rest) := by
  have htake := takeWhile_append_cons h.isSchemeChar (d := ':') (by decide) rest
  have hdrop := dropWhile_append_cons h.isSchemeChar (d := ':') (by decide) rest
  obtain ⟨-, halpha, hlow⟩ := h
  simp [scheme?, htake, hdrop, halpha, hlow]

/-- A text that begins with a scheme and a colon is read by the rules of the scheme. -/
theorem parse_scheme (h : IsScheme name) (rest : List Char) :
    parse (String.ofList (name ++ ':' :: rest))
      = ofScheme (String.ofList name) (significantAfter rest) := by
  have hvisible : ∀ c ∈ name ++ [':'], 0x20 < c.toNat := by
    intro c hc
    rcases List.mem_append.1 hc with hc | hc
    · exact visible_of_isSchemeChar (h.isSchemeChar c hc)
    · obtain rfl := List.mem_singleton.1 hc
      decide
  have hsplit : name ++ ':' :: rest = (name ++ [':']) ++ rest := by simp
  rw [parse, hsplit, significant_append (by simp) hvisible, List.append_assoc,
    List.singleton_append, scheme?_append h]

end Scheme

/-! ## Authorities -/

/-- How the rest of an authority is read: after a colon comes a port. -/
def portAfter (scheme : String) (s : List Char) : Except Fault (Option Nat × List Char) :=
  if s.head? = some ':' then port? scheme s.tail else .ok (none, s)

/-- An authority is a user, a host and a port, in this order, and there is no user of no host. -/
theorem afterSlashes_ok_iff {scheme : String} {s : List Char} {u : Url} :
    afterSlashes scheme s = .ok u ↔
      ∃ user rest host port path, userinfo (.ofScheme scheme) s = .ok (user, rest)
        ∧ hostOf (.ofScheme scheme) (splitHost (.ofScheme scheme) false rest).1 = .ok host
        ∧ portAfter scheme (splitHost (.ofScheme scheme) false rest).2 = .ok (port, path)
        ∧ (host.isEmpty = true → user.isEmpty = true
          ∧ (splitHost (.ofScheme scheme) false rest).2.head? ≠ some ':')
        ∧ finish scheme (some ⟨user.username, user.password, host, port⟩)
          (pathAfter (.ofScheme scheme)) path = u := by
  constructor
  · intro h
    unfold afterSlashes at h
    obtain ⟨⟨user, rest⟩, hu, h⟩ := exists_of_bind h
    dsimp only at h
    obtain ⟨host, hh, h⟩ := exists_of_bind h
    split at h
    · cases h
    · next hport =>
      split at h <;> next hcolon =>
        obtain ⟨⟨port, path⟩, hp, h⟩ := exists_of_bind h
        split at h
        · cases h
        · next huser =>
          refine ⟨user, rest, host, port, path, hu, hh, ?_, ?_, Except.ok.inj h⟩
          · rw [portAfter]
            simp only [hcolon, if_true, if_false]
            exact hp
          · intro he
            exact ⟨by simpa [he] using huser, fun hc => hport ⟨he, hc⟩⟩
  · rintro ⟨user, rest, host, port, path, hu, hh, hp, he, rfl⟩
    unfold portAfter at hp
    have hport : ¬ (host.isEmpty = true
        ∧ (splitHost (.ofScheme scheme) false rest).2.head? = some ':') :=
      fun h => (he h.1).2 h.2
    have huser : ¬ (host.isEmpty = true ∧ (!user.isEmpty) = true) := by
      rintro ⟨h, hu⟩
      simp [(he h).1] at hu
    simp only [afterSlashes, hu, hh, bind, Except.bind, hport, huser, if_false]
    split at hp <;> next hc =>
      simp only [hc, if_true, if_false]
      first
        | rw [hp]; rfl
        | cases hp; rfl

theorem segments_of_pathAfter (k : SchemeKind) (s : List Char) : ∃ l, pathAfter k s = .segments l := by
  unfold pathAfter
  split
  · split <;> exact ⟨_, rfl⟩
  · exact ⟨_, rfl⟩

end QueryClient.Url
