import QueryClient.Proofs.Url.Ipv6
import QueryClient.Proofs.Url.Parse
import QueryClient.Proofs.Url.Percent

/-!
# Opaque hosts

The text of an opaque host is read as the same host (`verbatim_text`), and it ends where the host of a
URL ends (`splitHost_text`).
-/

namespace QueryClient.Url

open QueryClient.Text Percent

/-- A character that an opaque host is written with. -/
def IsHostChar (c : Char) : Prop :=
  0x20 < c.toNat ∧ c.toNat < 0x7f ∧ isForbiddenInHost c = false

theorem IsHostChar.ne {c : Char} (h : IsHostChar c) {d : Char}
    (hd : isForbiddenInHost d = true) : c ≠ d := by
  rintro rfl
  rw [h.2.2] at hd
  cases hd

/-- An address, or a name without a character of a meaning. -/
inductive Host.IsOpaque : Host → Prop
  | address {ps : List Nat} (h : Ipv6.IsAddress ps) : IsOpaque (.ipv6 ps)
  | name {t : List Char} (h : ∀ c ∈ t, IsHostChar c) : IsOpaque (.name (String.ofList t))

namespace Host

theorem isHostChar_of_mem_encode {s : List Char} {c : Char}
    (hs : ∀ c ∈ s, isForbiddenInHost c = false) (h : c ∈ Percent.encode isControl s) :
    IsHostChar c := by
  rcases Percent.mem_encode h with ⟨hc, hlt, hset⟩ | ⟨-, hc⟩
  · have hfree := hs c hc
    have hblank : c.toNat ≠ 0x20 := by
      intro heq
      have hc : c = ' ' := by rw [← Char.ofNat_toNat c, heq]
      rw [hc] at hfree
      cases hfree
    simp only [isControl, Bool.or_eq_false_iff, decide_eq_false_iff_not] at hset
    exact ⟨by omega, by omega, hfree⟩
  · unfold IsHostChar
    exact of_isTripleChar
      (P := fun c => 0x20 < c.toNat ∧ c.toNat < 0x7f ∧ isForbiddenInHost c = false)
      (by decide) hc

theorem isOpaque_of_verbatim {s : List Char} {h : Host} (hs : Host.verbatim s = .ok h) :
    h.IsOpaque := by
  unfold Host.verbatim at hs
  split at hs
  · unfold bracketed at hs
    split at hs
    · next ps _ hps =>
      obtain rfl := Except.ok.inj hs
      exact .address (Ipv6.isAddress_of_ofChars? hps)
    · cases hs
  · split at hs
    · cases hs
    · next hany =>
      obtain rfl := Except.ok.inj hs
      exact .name fun c hc => isHostChar_of_mem_encode (by simpa using hany) hc

section Text

variable {h : Host}

theorem verbatim_text (hh : h.IsOpaque) : Host.verbatim h.text.toList = .ok h := by
  cases hh with
  | @address ps hps =>
    simp [Host.text, Host.verbatim, bracketed, Ipv6.ofChars?_chars hps]
  | @name t ht =>
    have hleaves : ∀ c ∈ t, Leaves isControl c := by
      intro c hc
      obtain ⟨hlow, hhigh, -⟩ := ht c hc
      simp only [Leaves, isControl, Bool.or_eq_false_iff, decide_eq_false_iff_not]
      omega
    have hany : t.any isForbiddenInHost = false := by
      simpa using fun c hc => (ht c hc).2.2
    rw [Host.text, String.toList_ofList]
    unfold Host.verbatim
    split
    · exact absurd rfl ((ht '[' List.mem_cons_self).ne (by decide))
    · rw [hany, encode_eq_self hleaves]
      rfl

/-- A host has no character that stands before it or after it in a URL. -/
theorem mem_text (hh : h.IsOpaque) {c : Char} (hc : c ∈ h.text.toList) :
    0x20 < c.toNat ∧ c ≠ '@' ∧ c ≠ '/' ∧ c ≠ '?' ∧ c ≠ '#' := by
  cases hh with
  | address hps =>
    rw [Host.text, String.toList_ofList] at hc
    refine of_mem_of_all (P := fun d => 0x20 < d.toNat ∧ d ≠ '@' ∧ d ≠ '/' ∧ d ≠ '?' ∧ d ≠ '#')
      (s := '[' :: ":0123456789abcdef".toList ++ [']']) (by decide) ?_
    rcases List.mem_append.1 hc with hc | hc
    · refine List.mem_append_left _ ?_
      rcases List.mem_cons.1 hc with rfl | hc
      · exact List.mem_cons_self
      · exact List.mem_cons_of_mem _ (Ipv6.mem_chars hc)
    · exact List.mem_append_right _ hc
  | name ht =>
    rw [Host.text, String.toList_ofList] at hc
    have hc := ht c hc
    exact ⟨hc.1, hc.ne (by decide), hc.ne (by decide), hc.ne (by decide), hc.ne (by decide)⟩

/-- Whether a text stands after a host. -/
def Follows (rest : List Char) : Prop :=
  ∀ c ∈ rest.head?, c = ':' ∨ endsAuthority .other c = true

theorem splitHost_of_follows {rest : List Char} (hr : Follows rest) :
    splitHost .other false rest = ([], rest) := by
  cases rest with
  | nil => rfl
  | cons c rest =>
    have hc : (c = ':' && !false || endsAuthority .other c) = true := by
      rcases hr c rfl with rfl | hc
      · rfl
      · simp [hc]
    rw [splitHost, if_pos (by simpa using hc)]

theorem splitHost_address {t rest : List Char} (ht : ∀ c ∈ t, c ∈ ":0123456789abcdef".toList)
    (hr : Follows rest) :
    splitHost .other true (t ++ ']' :: rest) = (t ++ [']'], rest) := by
  induction t with
  | nil =>
    rw [List.nil_append, splitHost, if_neg (by decide)]
    have hrest := splitHost_of_follows hr
    simp [hrest]
  | cons c t ih =>
    obtain ⟨hc, ht⟩ := List.forall_mem_cons.1 ht
    obtain ⟨hends, hopen, hclose⟩ := of_mem_of_all
      (P := fun c => endsAuthority .other c = false ∧ c ≠ '[' ∧ c ≠ ']') (by decide) hc
    rw [List.cons_append, splitHost, if_neg (by simp [hends])]
    simp [hopen, hclose, ih ht]

theorem splitHost_name {t rest : List Char} (ht : ∀ c ∈ t, IsHostChar c) (hr : Follows rest) :
    splitHost .other false (t ++ rest) = (t, rest) := by
  induction t with
  | nil => exact splitHost_of_follows hr
  | cons c t ih =>
    obtain ⟨hc, ht⟩ := List.forall_mem_cons.1 ht
    have hends : endsAuthority .other c = false := by
      simp [endsAuthority, isSlash, SchemeKind.isSpecial, hc.ne (d := '/') (by decide),
        hc.ne (d := '?') (by decide), hc.ne (d := '#') (by decide)]
    rw [List.cons_append, splitHost, if_neg (by simp [hends, hc.ne (d := ':') (by decide)])]
    simp [hc.ne (d := '[') (by decide), hc.ne (d := ']') (by decide), ih ht]

theorem splitHost_text (hh : h.IsOpaque) (rest : List Char) (hr : Follows rest) :
    splitHost .other false (h.text.toList ++ rest) = (h.text.toList, rest) := by
  cases hh with
  | @address ps hps =>
    have haddress := splitHost_address (t := Ipv6.chars ps) (fun c => Ipv6.mem_chars) hr
    have hsplit : '[' :: (Ipv6.chars ps ++ [']']) ++ rest = '[' :: (Ipv6.chars ps ++ ']' :: rest) := by
      simp
    rw [Host.text, String.toList_ofList, List.cons_append, hsplit, splitHost, if_neg (by decide)]
    simp [haddress]
  | name ht =>
    rw [Host.text, String.toList_ofList]
    exact splitHost_name ht hr

end Text

end Host

end QueryClient.Url
