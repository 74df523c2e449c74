import Mathlib.Data.List.Basic
import QueryClient.Proofs.Url.Opaque

/-!
# What stands before a query

A query or a fragment ends every part of a URL that stands before it, so those parts are read from the
text before it alone. A URL of an opaque scheme that has a host keeps all of them when what follows is
replaced by another query, another fragment, or nothing (`parse_ending`).
-/

namespace QueryClient.Url

open QueryClient.Text Percent

/-- Whether a text is a query, a fragment or nothing. -/
def IsEnding (r : List Char) : Prop :=
  ∀ c ∈ r.head?, c = '?' ∨ c = '#'

/-- Whether a text holds neither a query nor a fragment. -/
def IsBefore (s : List Char) : Prop :=
  ∀ c ∈ s, c ≠ '?' ∧ c ≠ '#'

theorem IsBefore.of_subset {s t : List Char} (h : IsBefore s) (ht : t ⊆ s) : IsBefore t :=
  fun c hc => h c (ht hc)

section Cut

variable {p : Char → Bool} {r : List Char}

theorem IsEnding.takeWhile_append (h : IsEnding r) (hquery : p '?' = false) (hhash : p '#' = false)
    (s : List Char) : (s ++ r).takeWhile p = s.takeWhile p := by
  have hnil : r.takeWhile p = [] :=
    takeWhile_eq_nil fun c hc => by rcases h c hc with rfl | rfl <;> assumption
  rw [List.takeWhile_append, hnil, List.append_nil]
  split
  · next hlen => exact ((List.takeWhile_prefix p).eq_of_length hlen).symm
  · rfl

theorem IsEnding.dropWhile_append (h : IsEnding r) (hquery : p '?' = false) (hhash : p '#' = false)
    (s : List Char) : (s ++ r).dropWhile p = s.dropWhile p ++ r := by
  have hself : r.dropWhile p = r :=
    dropWhile_eq_self fun c hc => by rcases h c hc with rfl | rfl <;> assumption
  rw [List.dropWhile_append, hself]
  split
  · next hnil => rw [List.isEmpty_iff.1 hnil, List.nil_append]
  · rfl

theorem IsEnding.head?_ne (h : IsEnding r) {c : Char} (hquery : c ≠ '?') (hhash : c ≠ '#') :
    r.head? ≠ some c :=
  fun hc => (h c hc).elim hquery hhash

end Cut

/-! ## Authorities -/

section Authority

variable {k : SchemeKind} {scheme : String} {s t r : List Char}

theorem endsAuthority_ending (k : SchemeKind) :
    endsAuthority k '?' = true ∧ endsAuthority k '#' = true := by
  simp [endsAuthority]

section Userinfo

variable {user : Userinfo}

theorem subset_of_userinfo (h : userinfo k s = .ok (user, t)) : t ⊆ s := by
  unfold userinfo at h
  dsimp only at h
  split at h
  · cases h
    exact List.Subset.refl _
  · split at h
    · cases h
    · cases h
      refine List.append_subset.2 ⟨fun c hc => ?_, List.dropWhile_subset _⟩
      exact List.takeWhile_subset _
        (List.mem_reverse.1 (List.takeWhile_subset _ (List.mem_reverse.1 hc)))

theorem exists_of_userinfo_ending (hr : IsEnding r) (h : userinfo k (s ++ r) = .ok (user, t)) :
    ∃ t₀, t = t₀ ++ r := by
  obtain ⟨hquery, hhash⟩ := endsAuthority_ending k
  unfold userinfo at h
  simp only [hr.dropWhile_append (p := (!endsAuthority k ·)) (by simp [hquery])
    (by simp [hhash])] at h
  split at h
  · cases h
    exact ⟨s, rfl⟩
  · split at h
    · cases h
    · cases h
      exact ⟨_, (List.append_assoc ..).symm⟩

/-- What stands before an ending has the same user, unless the user is all there is. -/
theorem userinfo_ending (hr : IsEnding r) (hne : t ≠ []) :
    userinfo k (s ++ r) = .ok (user, t ++ r) ↔ userinfo k s = .ok (user, t) := by
  obtain ⟨hquery, hhash⟩ := endsAuthority_ending k
  simp only [userinfo, hr.takeWhile_append (p := (!endsAuthority k ·)) (by simp [hquery])
    (by simp [hhash]), hr.dropWhile_append (p := (!endsAuthority k ·)) (by simp [hquery])
    (by simp [hhash])]
  generalize ((s.takeWhile (!endsAuthority k ·)).reverse.takeWhile (· ≠ '@')).reverse = host
  generalize s.dropWhile (!endsAuthority k ·) = rest
  generalize List.take _ (s.takeWhile (!endsAuthority k ·)) = login
  split
  · simp
  · have hjoin : host ++ (rest ++ r) = t ++ r ↔ host ++ rest = t := by
      rw [← List.append_assoc, List.append_left_inj]
    by_cases hnone : login.isEmpty = true ∧ host.isEmpty = true
    · have hfails {rest t : List Char} (hne : t ≠ []) :
          (if login.isEmpty = true ∧ host.isEmpty = true ∧ (!rest.isEmpty) = true then
            Except.error Fault.emptyHost else .ok (Userinfo.ofChars login, host ++ rest))
          ≠ .ok (user, t) := by
        split
        · rintro ⟨⟩
        · next hnot =>
          have hnil : rest = [] := by simpa [hnone.1, hnone.2] using hnot
          rw [List.isEmpty_iff.1 hnone.2, hnil]
          exact fun h => hne (Prod.mk.inj (Except.ok.inj h)).2.symm
      exact iff_of_false (hfails (by simp [hne])) (hfails hne)
    · rw [if_neg fun h => hnone ⟨h.1, h.2.1⟩, if_neg fun h => hnone ⟨h.1, h.2.1⟩]
      simp only [Except.ok.injEq, Prod.mk.injEq, hjoin]

end Userinfo

theorem splitHost_ending (k : SchemeKind) (isBracketed : Bool) (s : List Char) (hr : IsEnding r) :
    splitHost k isBracketed (s ++ r)
      = ((splitHost k isBracketed s).1, (splitHost k isBracketed s).2 ++ r) := by
  obtain ⟨hquery, hhash⟩ := endsAuthority_ending k
  induction s generalizing isBracketed with
  | nil =>
    cases r with
    | nil => rfl
    | cons c r => rcases hr c rfl with rfl | rfl <;> simp [splitHost, hquery, hhash]
  | cons c s ih =>
    rw [List.cons_append, splitHost, splitHost]
    split_ifs <;> simp [ih]

theorem splitHost_subset (k : SchemeKind) (isBracketed : Bool) (s : List Char) :
    (splitHost k isBracketed s).2 ⊆ s := by
  induction s generalizing isBracketed with
  | nil => exact List.Subset.refl _
  | cons c s ih =>
    rw [splitHost]
    split
    · exact List.Subset.refl _
    · exact List.subset_cons_of_subset c (ih _)

theorem ends_ending (hr : IsEnding r) : port?.ends r = true := by
  cases r with
  | nil => rfl
  | cons c r => rcases hr c rfl with rfl | rfl <;> rfl

theorem port?_ending (hr : IsEnding r) (scheme : String) (s : List Char) :
    port? scheme (s ++ r) = (port? scheme s).map fun q => (q.1, q.2 ++ r) := by
  have hends : port?.ends (s.dropWhile Char.isDigit ++ r)
      = port?.ends (s.dropWhile Char.isDigit) := by
    cases s.dropWhile Char.isDigit with
    | nil => exact ends_ending hr
    | cons d t => rfl
  simp only [port?, hr.takeWhile_append (p := Char.isDigit) rfl rfl,
    hr.dropWhile_append (p := Char.isDigit) rfl rfl, hends]
  cases Decimal.value? (s.takeWhile Char.isDigit) with
  | none => dsimp only; split <;> rfl
  | some n => dsimp only; split <;> rfl

theorem portAfter_ending (hr : IsEnding r) (scheme : String) (s : List Char) :
    portAfter scheme (s ++ r) = (portAfter scheme s).map fun q => (q.1, q.2 ++ r) := by
  cases s with
  | nil =>
    have hnone : r.head? ≠ some ':' := hr.head?_ne (by decide) (by decide)
    simp [portAfter, hnone, Except.map]
  | cons c s =>
    rw [portAfter, portAfter, List.cons_append, List.head?_cons, List.head?_cons, List.tail_cons,
      List.tail_cons, port?_ending hr]
    split <;> rfl

theorem subset_of_portAfter {port : Option Nat} (h : portAfter scheme s = .ok (port, t)) :
    t ⊆ s := by
  unfold portAfter at h
  split at h
  · have hdrop : s.tail.dropWhile Char.isDigit ⊆ s :=
      List.Subset.trans (List.dropWhile_subset _) (List.tail_sublist s).subset
    unfold port? at h
    dsimp only at h
    split at h <;> split_ifs at h <;> cases h <;> exact hdrop
  · cases h
    exact List.Subset.refl _

/-- Another ending leaves all but the query and the fragment as they are. -/
def withEnding (u : Url) (r : List Char) : Url :=
  { u with query := query? (.ofScheme u.scheme) r, fragment := fragment? r }

theorem finish_ending (scheme : String) (authority : Option Authority) (path : List Char → Path)
    (hs : IsBefore s) (hr : IsEnding r) :
    finish scheme authority path (s ++ r)
      = withEnding { scheme, authority, path := path s } r := by
  have hall : s.takeWhile (fun c => c ≠ '?' && c ≠ '#') = s :=
    List.takeWhile_eq_self_iff.2 fun c hc => by simpa using hs c hc
  have hnil : s.dropWhile (fun c => c ≠ '?' && c ≠ '#') = [] :=
    List.dropWhile_eq_nil_iff.2 fun c hc => by simpa using hs c hc
  simp only [finish, splitPath, hr.takeWhile_append (p := fun c => c ≠ '?' && c ≠ '#') rfl rfl,
    hr.dropWhile_append (p := fun c => c ≠ '?' && c ≠ '#') rfl rfl, hall, hnil, List.nil_append]
  rfl

theorem afterSlashes_host_iff {u : Url} :
    afterSlashes scheme s = .ok u ∧ u.host? ≠ none
      ↔ ∃ user rest host port path, userinfo (.ofScheme scheme) s = .ok (user, rest)
        ∧ hostOf (.ofScheme scheme) (splitHost (.ofScheme scheme) false rest).1 = .ok host
        ∧ portAfter scheme (splitHost (.ofScheme scheme) false rest).2 = .ok (port, path)
        ∧ host.isEmpty = false
        ∧ finish scheme (some ⟨user.username, user.password, host, port⟩)
          (pathAfter (.ofScheme scheme)) path = u := by
  have hhost (a : Authority) (path : List Char) :
      (finish scheme (some a) (pathAfter (.ofScheme scheme)) path).host? ≠ none
        ↔ a.host.isEmpty = false := by
    simp [Url.host?, finish]
  constructor
  · rintro ⟨h, hsome⟩
    obtain ⟨user, rest, host, port, path, hu, hh, hp, -, rfl⟩ := afterSlashes_ok_iff.1 h
    exact ⟨user, rest, host, port, path, hu, hh, hp, (hhost _ _).1 hsome, rfl⟩
  · rintro ⟨user, rest, host, port, path, hu, hh, hp, hne, rfl⟩
    exact ⟨afterSlashes_ok_iff.2 ⟨user, rest, host, port, path, hu, hh, hp, by simp [hne], rfl⟩,
      (hhost _ _).2 hne⟩

/-- A URL with a host is read alike before every ending. -/
theorem afterSlashes_ending {u : Url} (hk : SchemeKind.ofScheme scheme = .other) (hs : IsBefore s)
    (hr : IsEnding r) :
    afterSlashes scheme (s ++ r) = .ok u ∧ u.host? ≠ none
      ↔ ∃ u₀, (afterSlashes scheme s = .ok u₀ ∧ u₀.host? ≠ none) ∧ u = u₀.withEnding r := by
  -- Without a text there is no host, so the text after a user is not just the ending.
  have hne {t : List Char} {host : Host} (he : host.isEmpty = false)
      (h : hostOf (.ofScheme scheme) (splitHost (.ofScheme scheme) false t).1 = .ok host) :
      t ≠ [] := by
    rintro rfl
    rw [hk] at h
    rw [← Except.ok.inj h] at he
    cases he
  have hfinish {t p : List Char} {user : Userinfo} {port : Option Nat} (a : Authority)
      (hu : userinfo (.ofScheme scheme) s = .ok (user, t))
      (hp : portAfter scheme (splitHost (.ofScheme scheme) false t).2 = .ok (port, p)) :
      finish scheme (some a) (pathAfter (.ofScheme scheme)) (p ++ r)
        = (finish scheme (some a) (pathAfter (.ofScheme scheme)) p).withEnding r := by
    have hpath : IsBefore p := hs.of_subset
      (List.Subset.trans (List.Subset.trans (subset_of_portAfter hp) (splitHost_subset _ _ _))
        (subset_of_userinfo hu))
    have hself := finish_ending scheme (some a) (pathAfter (.ofScheme scheme)) hpath
      (r := []) nofun
    rw [List.append_nil] at hself
    rw [finish_ending _ _ _ hpath hr, hself]
    rfl
  simp only [afterSlashes_host_iff]
  constructor
  · rintro ⟨user, _, host, port, _, huser, hname, hport, he, rfl⟩
    obtain ⟨t, rfl⟩ := exists_of_userinfo_ending hr huser
    rw [splitHost_ending _ _ _ hr] at hname hport
    rw [portAfter_ending hr] at hport
    have hu := (userinfo_ending hr (hne he hname)).1 huser
    cases hp : portAfter scheme (splitHost (.ofScheme scheme) false t).2 with
    | error f => rw [hp] at hport; cases hport
    | ok q =>
      rw [hp] at hport
      obtain ⟨rfl, rfl⟩ := Prod.mk.inj (Except.ok.inj hport)
      exact ⟨_, ⟨user, t, host, _, _, hu, hname, hp, he, rfl⟩, hfinish _ hu hp⟩
  · rintro ⟨_, ⟨user, t, host, port, p, hu, hname, hp, he, rfl⟩, rfl⟩
    refine ⟨user, t ++ r, host, port, p ++ r, (userinfo_ending hr (hne he hname)).2 hu, ?_, ?_, he,
      hfinish _ hu hp⟩
    · rwa [splitHost_ending _ _ _ hr]
    · rw [splitHost_ending _ _ _ hr, portAfter_ending hr, hp]
      rfl

end Authority

/-! ## Queries -/

section Query

variable {q t : List Char}

/-- Whether a text is a fragment or nothing. -/
def IsFragment (t : List Char) : Prop :=
  ∀ c ∈ t.head?, c = '#'

theorem IsFragment.isEnding (h : IsFragment t) : IsEnding t :=
  fun c hc => .inr (h c hc)

theorem query?_eq_none (k : SchemeKind) (ht : IsFragment t) : query? k t = none := by
  cases t with
  | nil => rfl
  | cons c t =>
    obtain rfl := ht c rfl
    rfl

/-- A query is kept as it is if all of its characters are. -/
theorem query?_append (hq : ∀ c ∈ q, Leaves querySet c) (ht : IsFragment t) :
    query? .other ('?' :: q ++ t) = some (String.ofList q) := by
  have hhash : ∀ c ∈ '?' :: q, decide (c ≠ '#') = true :=
    List.forall_mem_cons.2 ⟨by decide, fun c hc => decide_eq_true ((hq c hc).ne (by decide))⟩
  have hstop : ∀ c ∈ t.head?, decide (c ≠ '#') = false := fun c hc => by simp [ht c hc]
  rw [query?, takeWhile_append_eq_left hhash hstop]
  exact congrArg (some ∘ String.ofList) (encode_eq_self hq)

end Query

/-! ## Whole texts -/

section Text

variable {base s t r : List Char} {scheme : String} {u : Url}

/-- What counts of the start of a text. -/
def significantBefore (s : List Char) : List Char :=
  (s.dropWhile (·.toNat ≤ 0x20)).filter fun c => c ≠ '\t' ∧ c ≠ '\n' ∧ c ≠ '\r'

theorem significantBefore_subset (s : List Char) : significantBefore s ⊆ s :=
  List.Subset.trans List.filter_sublist.subset (List.dropWhile_subset _)

/-- An ending keeps the blanks before it, and without one the last character does. -/
theorem significant_ending (hr : IsEnding r)
    (hlast : r = [] → ∀ c ∈ base.getLast?, 0x20 < c.toNat) :
    significant (String.ofList (base ++ r)) = significantBefore base ++ significantAfter r := by
  have hstop {c : Char} (hc : 0x20 < c.toNat) : decide (c.toNat ≤ 0x20) = false := by
    simpa using hc
  have hstart {s t : List Char} {c : Char} (hc : 0x20 < c.toNat) :
      (s ++ c :: t).dropWhile (·.toNat ≤ 0x20) = s.dropWhile (·.toNat ≤ 0x20) ++ c :: t := by
    rw [List.dropWhile_append, List.dropWhile_cons, hstop hc, if_neg Bool.false_ne_true]
    split
    · next hnil => rw [List.isEmpty_iff.1 hnil, List.nil_append]
    · rfl
  rw [significant, String.toList_ofList, trimWhile, significantBefore, significantAfter,
    ← List.filter_append]
  congr 1
  cases r with
  | nil =>
    rw [List.append_nil]
    rcases List.eq_nil_or_concat' base with rfl | ⟨s, c, rfl⟩
    · rfl
    · have hc := hlast rfl c (by simp)
      rw [hstart hc, dropEndWhile_append_cons (hstop hc)]
      simp [dropEndWhile, hc]
  | cons c r =>
    have hc : 0x20 < c.toNat := by rcases hr c rfl with rfl | rfl <;> decide
    rw [hstart hc, dropEndWhile_append_cons (hstop hc)]

theorem significantAfter_append (h : ∀ c ∈ s, 0x20 < c.toNat) (r : List Char) :
    significantAfter (s ++ r) = s ++ significantAfter r := by
  have hvisible : ∀ c ∈ s, decide (c.toNat ≤ 0x20) = false := by simpa using h
  rw [significantAfter, dropEndWhile_append hvisible, List.filter_append, filter_visible h,
    significantAfter]

/-- What counts of an ending begins as it does. -/
theorem head?_significantAfter (hr : IsEnding r) : (significantAfter r).head? = r.head? := by
  cases r with
  | nil => rfl
  | cons c r =>
    have hc : ∀ d ∈ [c], 0x20 < d.toNat := by
      rcases hr c rfl with rfl | rfl <;> simp
    rw [← List.singleton_append, significantAfter_append hc]
    rfl

theorem isEnding_significantAfter (hr : IsEnding r) : IsEnding (significantAfter r) := by
  unfold IsEnding
  rwa [head?_significantAfter hr]

theorem scheme?_ending (hr : IsEnding r) (s : List Char) :
    scheme? (s ++ r) = (scheme? s).map fun q => (q.1, q.2 ++ r) := by
  simp only [scheme?, hr.takeWhile_append (p := isSchemeChar) rfl rfl,
    hr.dropWhile_append (p := isSchemeChar) rfl rfl]
  generalize s.takeWhile isSchemeChar = name
  cases s.dropWhile isSchemeChar with
  | nil =>
    have hcolon : r.head? ≠ some ':' := hr.head?_ne (by decide) (by decide)
    cases r with
    | nil => rfl
    | cons c r =>
      rw [List.nil_append]
      split
      · next heq => simp_all
      · rfl
  | cons c rest =>
    by_cases hc : c = ':'
    · subst hc
      simp only [List.cons_append]
      split <;> rfl
    · rw [List.cons_append]
      split
      · next heq => exact absurd (List.cons.inj heq).1 hc
      · split
        · next heq => exact absurd (List.cons.inj heq).1 hc
        · rfl

theorem subset_of_scheme? (h : scheme? s = some (scheme, t)) : t ⊆ s := by
  unfold scheme? at h
  dsimp only at h
  split at h
  · next hdrop =>
    split_ifs at h
    cases h
    exact List.Subset.trans (List.subset_cons_self _ _) (hdrop ▸ List.dropWhile_subset _)
  · cases h

theorem isBefore_of_scheme? {b : List Char} (hs : IsBefore base)
    (h : scheme? (significantBefore base) = some (scheme, '/' :: '/' :: b)) : IsBefore b := by
  refine hs.of_subset fun c hc => ?_
  refine significantBefore_subset base (subset_of_scheme? h ?_)
  exact List.mem_cons_of_mem _ (List.mem_cons_of_mem _ hc)

theorem slashes_of_ending (hr : IsEnding r) {body : List Char} (h : t ++ r = '/' :: '/' :: body) :
    ∃ b, t = '/' :: '/' :: b ∧ body = b ++ r := by
  have hslash : r.head? ≠ some '/' := hr.head?_ne (by decide) (by decide)
  rcases t with _ | ⟨c, _ | ⟨d, t⟩⟩
  · exact absurd (congrArg List.head? h) hslash
  · exact absurd (congrArg List.head? (List.cons.inj h).2) hslash
  · obtain ⟨rfl, htail⟩ := List.cons.inj h
    obtain ⟨rfl, rfl⟩ := List.cons.inj htail
    exact ⟨t, rfl, rfl⟩

theorem parse_opaque_iff {text : String} (hk : SchemeKind.ofScheme u.scheme = .other) :
    parse text = .ok u ∧ u.host? ≠ none
      ↔ ∃ body, scheme? (significant text) = some (u.scheme, '/' :: '/' :: body)
        ∧ afterSlashes u.scheme body = .ok u ∧ u.host? ≠ none := by
  constructor
  · rintro ⟨h, hhost⟩
    obtain ⟨rest, hscheme, h⟩ := ofOther_of_parse h hk
    generalize u.scheme = scheme at h hscheme ⊢
    unfold ofOther at h
    split at h
    · next body => exact ⟨body, hscheme, h, hhost⟩
    · obtain rfl := Except.ok.inj h
      exact absurd rfl hhost
    · obtain rfl := Except.ok.inj h
      exact absurd rfl hhost
  · rintro ⟨body, hscheme, h, hhost⟩
    refine ⟨?_, hhost⟩
    rw [parse, hscheme]
    simp only [ofScheme, hk, ofOther, h]

/-- Whether a text starts a URL with a host, before any query and any fragment. -/
def Starts (base : List Char) (u : Url) : Prop :=
  ∃ body, scheme? (significantBefore base) = some (u.scheme, '/' :: '/' :: body)
    ∧ afterSlashes u.scheme body = .ok u ∧ u.host? ≠ none

/-- Of a text, an ending decides the query and the fragment, and nothing else. -/
theorem parse_ending (hs : IsBefore base) (hr : IsEnding r)
    (hlast : r = [] → ∀ c ∈ base.getLast?, 0x20 < c.toNat)
    (hk : SchemeKind.ofScheme u.scheme = .other) :
    parse (String.ofList (base ++ r)) = .ok u ∧ u.host? ≠ none
      ↔ ∃ u₀, Starts base u₀ ∧ u = u₀.withEnding (significantAfter r) := by
  have hend := isEnding_significantAfter hr
  rw [parse_opaque_iff hk, significant_ending hr hlast, scheme?_ending hend]
  constructor
  · rintro ⟨body, hscheme, h⟩
    obtain ⟨⟨scheme, t⟩, hbefore, heq⟩ := Option.map_eq_some_iff.1 hscheme
    obtain ⟨rfl, hslashes⟩ := Prod.mk.inj heq
    obtain ⟨b, rfl, rfl⟩ := slashes_of_ending hend hslashes
    have hb : IsBefore b := isBefore_of_scheme? hs hbefore
    obtain ⟨u₀, h₀, heq⟩ := (afterSlashes_ending hk hb hend).1 h
    have hname : u₀.scheme = u.scheme := by rw [heq]; rfl
    exact ⟨u₀, ⟨b, by rw [hname]; exact hbefore, by rw [hname]; exact h₀⟩, heq⟩
  · rintro ⟨u₀, ⟨b, hbefore, h₀⟩, rfl⟩
    have hb : IsBefore b := isBefore_of_scheme? hs hbefore
    refine ⟨b ++ significantAfter r, by rw [hbefore]; rfl, ?_⟩
    exact (afterSlashes_ending hk hb hend).2 ⟨u₀, h₀, rfl⟩

end Text

end QueryClient.Url
