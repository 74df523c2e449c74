import QueryClient.Proofs.Text.Decimal
import QueryClient.Proofs.Url.Host
import Mathlib.Data.List.TakeWhile

/-!
# Authorities and back

An authority that is written with an opaque host, with a user and a port or without them, is read as it
was written (`afterSlashes_login`, `afterSlashes_text`).
-/

namespace QueryClient.Url

open QueryClient.Text Percent

/-! ## Users -/

/-- Whether a character neither ends an authority nor a user. -/
def IsInside (c : Char) : Prop :=
  c ≠ '@' ∧ c ≠ '/' ∧ c ≠ '?' ∧ c ≠ '#'

theorem IsInside.endsAuthority {c : Char} (h : IsInside c) : endsAuthority .other c = false := by
  obtain ⟨-, hslash, hquery, hhash⟩ := h
  simp [Url.endsAuthority, isSlash, SchemeKind.isSpecial, hslash, hquery, hhash]

/-- Whether a text is empty or begins with a path. -/
def IsAfterAuthority (rest : List Char) : Prop :=
  ∀ c ∈ rest.head?, c = '/'

section Userinfo

variable {login host rest : List Char}

theorem takeWhile_authority {s : List Char} (h : ∀ c ∈ s, endsAuthority .other c = false)
    (hr : IsAfterAuthority rest) :
    (s ++ rest).takeWhile (!endsAuthority .other ·) = s
      ∧ (s ++ rest).dropWhile (!endsAuthority .other ·) = rest := by
  have hall : ∀ c ∈ s, (!endsAuthority .other c) = true := fun c hc => by
    rw [h c hc]
    rfl
  cases rest with
  | nil =>
    rw [List.append_nil]
    exact ⟨List.takeWhile_eq_self_iff.2 hall, List.dropWhile_eq_nil_iff.2 hall⟩
  | cons c rest =>
    obtain rfl := hr c rfl
    exact ⟨takeWhile_append_cons hall (by decide) rest, dropWhile_append_cons hall (by decide) rest⟩

theorem userinfo_login (hl : ∀ c ∈ login, endsAuthority .other c = false) (hne : host ≠ [])
    (h : ∀ c ∈ host, IsInside c) (hr : IsAfterAuthority rest) :
    userinfo .other (login ++ '@' :: (host ++ rest)) = .ok (.ofChars login, host ++ rest) := by
  have hauthority : ∀ c ∈ login ++ '@' :: host, endsAuthority .other c = false := by
    intro c hc
    rcases List.mem_append.1 hc with hc | hc
    · exact hl c hc
    · rcases List.mem_cons.1 hc with rfl | hc
      · decide
      · exact (h c hc).endsAuthority
  have hsplit : login ++ '@' :: (host ++ rest) = (login ++ '@' :: host) ++ rest := by simp
  obtain ⟨htake, hdrop⟩ := takeWhile_authority hauthority hr
  have hrev : (login ++ '@' :: host).reverse = host.reverse ++ '@' :: login.reverse := by simp
  have hhost : ((login ++ '@' :: host).reverse.takeWhile (· ≠ '@')).reverse = host := by
    rw [hrev, takeWhile_append_cons (fun c hc => decide_eq_true (h c (List.mem_reverse.1 hc)).1)
      (by decide), List.reverse_reverse]
  have hlen : ¬ host.length = (login ++ '@' :: host).length := by
    simp only [List.length_append, List.length_cons]
    omega
  have huser : (login ++ '@' :: host).take ((login ++ '@' :: host).length - host.length - 1)
      = login := by
    refine List.take_left' ?_
    simp only [List.length_append, List.length_cons]
    omega
  have hempty : host.isEmpty = false := by
    simpa using hne
  rw [hsplit]
  simp only [userinfo, htake, hdrop, hhost, hlen, if_false, huser, hempty, Bool.false_eq_true,
    false_and, and_false]

theorem userinfo_none (h : ∀ c ∈ host, IsInside c) (hr : IsAfterAuthority rest) :
    userinfo .other (host ++ rest) = .ok (⟨"", none⟩, host ++ rest) := by
  obtain ⟨htake, hdrop⟩ := takeWhile_authority (fun c hc => (h c hc).endsAuthority) hr
  have hhost : (host.reverse.takeWhile (· ≠ '@')).reverse = host := by
    rw [List.takeWhile_eq_self_iff.2 fun c hc => decide_eq_true (h c (List.mem_reverse.1 hc)).1,
      List.reverse_reverse]
  simp only [userinfo, htake, hhost, if_true]

/-- A user, and a password that is not empty. -/
theorem ofChars_login {user : List Char} (hu : ∀ c ∈ user, Leaves userinfoSet c)
    {password : Option (List Char)} (hp : ∀ p ∈ password, p ≠ [] ∧ ∀ c ∈ p, Leaves userinfoSet c) :
    Userinfo.ofChars (user ++ (password.elim [] (':' :: ·)))
      = ⟨String.ofList user, password.map String.ofList⟩ := by
  have hcolon : ∀ c ∈ user, decide (c ≠ ':') = true := fun c hc =>
    decide_eq_true ((hu c hc).ne (by decide))
  cases password with
  | none =>
    have htake : user.takeWhile (· ≠ ':') = user := List.takeWhile_eq_self_iff.2 hcolon
    have hdrop : user.dropWhile (· ≠ ':') = [] := List.dropWhile_eq_nil_iff.2 hcolon
    rw [Option.elim_none, List.append_nil, Userinfo.ofChars, htake, hdrop, encodeText,
      encode_eq_self hu]
    rfl
  | some p =>
    obtain ⟨hne, hp⟩ := hp p rfl
    have htake := takeWhile_append_cons hcolon (d := ':') (by decide) p
    have hdrop := dropWhile_append_cons hcolon (d := ':') (by decide) p
    rw [Option.elim_some, Userinfo.ofChars, htake, hdrop, encodeText, encode_eq_self hu]
    cases p with
    | nil => exact absurd rfl hne
    | cons c p => simp only [encodeText, encode_eq_self hp, Option.map_some]

end Userinfo

/-! ## Ports -/

section Port

variable {scheme : String} {rest : List Char}

theorem portAfter_none (hr : IsAfterAuthority rest) : portAfter scheme rest = .ok (none, rest) := by
  unfold portAfter
  split
  · next hc => exact absurd (hr ':' hc) (by decide)
  · rfl

/-- A port that is the one of the scheme is left out. -/
def keptPort (scheme : String) (n : Nat) : Option Nat :=
  if defaultPort? scheme = some n then none else some n

theorem portAfter_digits {n : Nat} (hn : n ≤ 65535) (hr : IsAfterAuthority rest) :
    portAfter scheme (':' :: (Decimal.digits n ++ rest)) = .ok (keptPort scheme n, rest) := by
  have hdigit : ∀ c ∈ Decimal.digits n, Char.isDigit c = true := fun c =>
    Decimal.isDigit_of_mem_digits
  cases rest with
  | nil =>
    have htake : (Decimal.digits n).takeWhile Char.isDigit = Decimal.digits n :=
      List.takeWhile_eq_self_iff.2 hdigit
    have hdrop : (Decimal.digits n).dropWhile Char.isDigit = [] :=
      List.dropWhile_eq_nil_iff.2 hdigit
    simp [portAfter, port?, keptPort, htake, hdrop, Decimal.value?_digits, hn, port?.ends]
  | cons c rest =>
    obtain rfl := hr c rfl
    have htake := takeWhile_append_cons hdigit (d := '/') (by decide) rest
    have hdrop := dropWhile_append_cons hdigit (d := '/') (by decide) rest
    simp [portAfter, port?, keptPort, htake, hdrop, Decimal.value?_digits, hn, port?.ends]

theorem le_of_portAfter {n : Nat} {s : List Char} (h : portAfter scheme s = .ok (some n, rest)) :
    n ≤ 65535 := by
  unfold portAfter at h
  split at h
  · unfold port? at h
    dsimp only at h
    split at h <;> split_ifs at h with hle <;> cases h
    exact hle.1
  · cases h

end Port

/-! ## Backslashes -/

section Backslash

variable {s : List Char} (k : SchemeKind)

theorem endsAuthority_eq {c : Char} (h : c ≠ '\\') :
    endsAuthority k c = endsAuthority .other c := by
  simp [endsAuthority, isSlash, h]

/-- Without a backslash the kind of the scheme makes no difference to an authority. -/
theorem userinfo_eq (h : '\\' ∉ s) : userinfo k s = userinfo .other s := by
  have hends : ∀ c ∈ s, endsAuthority k c = endsAuthority .other c := by
    rintro c hc
    refine endsAuthority_eq k ?_
    rintro rfl
    exact h hc
  have hcut : s.takeWhile (!endsAuthority k ·) = s.takeWhile (!endsAuthority .other ·)
      ∧ s.dropWhile (!endsAuthority k ·) = s.dropWhile (!endsAuthority .other ·) := by
    clear h
    induction s with
    | nil => exact ⟨rfl, rfl⟩
    | cons c s ih =>
      obtain ⟨hc, hs⟩ := List.forall_mem_cons.1 hends
      obtain ⟨htake, hdrop⟩ := ih hs
      simp only [List.takeWhile_cons, List.dropWhile_cons, hc, htake, hdrop, and_self]
  simp only [userinfo, hcut.1, hcut.2]

theorem splitHost_eq (h : '\\' ∉ s) (isBracketed : Bool) :
    splitHost k isBracketed s = splitHost .other isBracketed s := by
  induction s generalizing isBracketed with
  | nil => rfl
  | cons c s ih =>
    obtain ⟨hc, hs⟩ := List.ne_and_not_mem_of_not_mem_cons h
    simp only [splitHost, endsAuthority_eq k hc.symm, ih hs]

end Backslash

/-! ## Whole authorities -/

section Authority

variable {scheme : String} {h : Host} {rest : List Char}

theorem Host.text_ne_nil (hh : h.IsOpaque) (hne : h.isEmpty = false) : h.text.toList ≠ [] := by
  cases hh with
  | address _ => simp [Host.text]
  | name _ =>
    rintro ht
    rw [Host.text, String.toList_ofList] at ht
    subst ht
    revert hne
    decide

theorem Host.isInside_of_mem (hh : h.IsOpaque) {c : Char} (hc : c ∈ h.text.toList) : IsInside c :=
  (Host.mem_text hh hc).2

/-- A port with the colon before it. -/
def portChars (port : Option Nat) : List Char :=
  port.elim [] fun n => ':' :: Decimal.digits n

theorem isInside_of_mem_portChars {port : Option Nat} {c : Char} (hc : c ∈ portChars port) :
    IsInside c := by
  cases port with
  | none => cases hc
  | some n =>
    rcases List.mem_cons.1 hc with rfl | hc
    · unfold IsInside
      decide
    · have hdigit := Decimal.isDigit_of_mem_digits hc
      refine ⟨?_, ?_, ?_, ?_⟩ <;> rintro rfl <;> cases hdigit

theorem afterSlashes_text (hk : SchemeKind.ofScheme scheme = .other) (hh : h.IsOpaque)
    (hne : h.isEmpty = false) :
    afterSlashes scheme h.text.toList
      = .ok (finish scheme (some ⟨"", none, h, none⟩) (pathAfter .other) []) := by
  have hend : IsAfterAuthority [] := by simp [IsAfterAuthority]
  have huser := userinfo_none (fun c => Host.isInside_of_mem hh) hend
  have hsplit := Host.splitHost_text hh [] (by simp [Host.Follows])
  rw [List.append_nil] at huser hsplit
  refine afterSlashes_ok_iff.2 ⟨_, _, h, none, [], by rw [hk]; exact huser, ?_, ?_, ?_, by rw [hk]⟩
  · rw [hk, hsplit]
    exact Host.verbatim_text hh
  · rw [hk, hsplit]
    rfl
  · rw [hne]
    rintro ⟨⟩

theorem afterSlashes_login (hk : SchemeKind.ofScheme scheme = .other)
    (hs : defaultPort? scheme = none) (hh : h.IsOpaque) (hne : h.isEmpty = false)
    {user : List Char} (hu : ∀ c ∈ user, Leaves userinfoSet c)
    {password : Option (List Char)} (hp : ∀ p ∈ password, p ≠ [] ∧ ∀ c ∈ p, Leaves userinfoSet c)
    {port : Option Nat} (hport : ∀ n ∈ port, n ≤ 65535) :
    afterSlashes scheme (user ++ (password.elim [] (':' :: ·)) ++ '@' ::
        ((h.text.toList ++ portChars port) ++ '/' :: rest))
      = .ok (finish scheme (some ⟨String.ofList user, password.map String.ofList, h, port⟩)
        (pathAfter .other) ('/' :: rest)) := by
  have hleft {c : Char} (hc : Leaves userinfoSet c) : endsAuthority .other c = false := by
    simp [endsAuthority, isSlash, SchemeKind.isSpecial, hc.ne (d := '/') (by decide),
      hc.ne (d := '?') (by decide), hc.ne (d := '#') (by decide)]
  have hlogin : ∀ c ∈ user ++ (password.elim [] (':' :: ·)), endsAuthority .other c = false := by
    intro c hc
    rcases List.mem_append.1 hc with hc | hc
    · exact hleft (hu c hc)
    · cases password with
      | none => cases hc
      | some p =>
        rcases List.mem_cons.1 hc with rfl | hc
        · decide
        · exact hleft ((hp p rfl).2 c hc)
  have hhost : ∀ c ∈ h.text.toList ++ portChars port, IsInside c := by
    intro c hc
    rcases List.mem_append.1 hc with hc | hc
    · exact Host.isInside_of_mem hh hc
    · exact isInside_of_mem_portChars hc
  have hafter : IsAfterAuthority ('/' :: rest) := by simp [IsAfterAuthority]
  have huser := userinfo_login hlogin (by simp [Host.text_ne_nil hh hne]) hhost hafter
  rw [ofChars_login hu hp] at huser
  have hsplit := Host.splitHost_text hh (portChars port ++ '/' :: rest) (by
    cases port <;> simp [Host.Follows, portChars, endsAuthority, isSlash])
  rw [← List.append_assoc] at hsplit
  have hafterPort : portAfter scheme (portChars port ++ '/' :: rest) = .ok (port, '/' :: rest) := by
    cases port with
    | none => exact portAfter_none hafter
    | some n =>
      have hkept : keptPort scheme n = some n := by simp [keptPort, hs]
      have hdigits : portAfter scheme (':' :: (Decimal.digits n ++ '/' :: rest))
        = .ok (keptPort scheme n, '/' :: rest) := portAfter_digits (hport n rfl) hafter
      rwa [hkept] at hdigits
  refine afterSlashes_ok_iff.2 ⟨_, _, h, port, '/' :: rest, by rw [hk]; exact huser, ?_, ?_, ?_,
    by rw [hk]⟩
  · rw [hk, hsplit]
    exact Host.verbatim_text hh
  · rw [hk, hsplit]
    exact hafterPort
  · rw [hne]
    rintro ⟨⟩

end Authority

end QueryClient.Url
