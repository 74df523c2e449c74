import QueryClient.Proofs.Url.Endpoint

/-!
# Where a link leads

A link that is read from a URL of HTTP stays with its host if it names none of its own
(`join_of_isLocal`). Any other link leads where it says, and nothing of the URL counts but its scheme
(`join_of_not_isLocal`).
-/

namespace QueryClient

namespace Url

open Text

/-- The scheme, the host and the port that a request is sent to. -/
def origin (u : Url) : String × Option String × Option Nat :=
  (u.scheme, u.host?, u.effectivePort?)

theorem origin_eq {u v : Url} (hs : u.scheme = v.scheme) (ha : u.authority = v.authority) :
    u.origin = v.origin := by
  simp only [origin, host?, effectivePort?, hs, ha]

/-- The scheme of a link, or else that of the URL it is read from, and what comes after it. -/
def schemeOf (base : Url) (link : String) : String × List Char :=
  (scheme? (significant link)).getD (base.scheme, significant link)

/-- Whether a link names no host: it has no other scheme, and it does not begin with two slashes. -/
def isLocal (base : Url) (link : String) : Bool :=
  let (scheme, rest) := base.schemeOf link
  scheme = base.scheme && (rest.takeWhile (isSlash .special)).length < 2

/-- A URL that links are read from, as those of HTTP are. -/
structure IsBase (u : Url) : Prop where
  kind : u.kind = .special
  path : ∃ l, u.path = .segments l

section Join

variable {base base' : Url} {link : String}

theorem relative_of_local (base : Url) (l : List String) {s : List Char}
    (h : (s.takeWhile (isSlash .special)).length < 2) :
    ∃ u, relative base l s = .ok u ∧ u.scheme = base.scheme ∧ u.authority = base.authority := by
  unfold relative
  split
  · exact ⟨_, rfl, rfl, rfl⟩
  · exact ⟨_, rfl, rfl, rfl⟩
  · exact ⟨_, rfl, rfl, rfl⟩
  · next rest =>
    have hslash : isSlash .special '/' = true := rfl
    simp only [List.takeWhile_cons, hslash, if_true, List.length_cons] at h
    omega
  · next c rest _ _ _ =>
    split
    · next hc =>
      split
      · next hrest =>
        cases rest with
        | nil => simp at hrest
        | cons d rest =>
          have hd : isSlash .special d = true := by simpa using hrest
          simp only [List.takeWhile_cons, hc, hd, if_true, List.length_cons] at h
          omega
      · exact ⟨_, rfl, rfl, rfl⟩
    · exact ⟨_, rfl, rfl, rfl⟩

/-- What begins with two slashes is read as a host, whatever it is read from. -/
theorem relative_of_slashes (base : Url) (l : List String) {c d : Char} (s : List Char)
    (hc : isSlash .special c = true) (hd : isSlash .special d = true) :
    relative base l (c :: d :: s) = afterSlashes base.scheme
      (if c = '/' ∧ d = '/' then s else (c :: d :: s).dropWhile (isSlash .special)) := by
  by_cases hboth : c = '/' ∧ d = '/'
  · obtain ⟨rfl, rfl⟩ := hboth
    simp [relative]
  · rw [if_neg hboth]
    have hquery : isSlash .special '?' = false := rfl
    have hfragment : isSlash .special '#' = false := rfl
    unfold relative
    split
    · next heq => cases heq
    · next heq =>
      obtain ⟨rfl, -⟩ := List.cons.inj heq
      rw [hquery] at hc
      cases hc
    · next heq =>
      obtain ⟨rfl, -⟩ := List.cons.inj heq
      rw [hfragment] at hc
      cases hc
    · next heq =>
      obtain ⟨hc, heq⟩ := List.cons.inj heq
      exact absurd ⟨hc, (List.cons.inj heq).1⟩ hboth
    · next heq =>
      obtain ⟨rfl, rfl⟩ := List.cons.inj heq
      simp [hc, hd]

theorem relative_of_not_local (hs : base'.scheme = base.scheme) (l l' : List String) {s : List Char}
    (h : 2 ≤ (s.takeWhile (isSlash .special)).length) : relative base' l' s = relative base l s := by
  match s with
  | [] => simp at h
  | [c] => cases hc : isSlash .special c <;> simp [hc] at h
  | c :: d :: s =>
    have hc : isSlash .special c = true := by
      cases hc : isSlash .special c with
      | true => rfl
      | false => simp [hc] at h
    have hd : isSlash .special d = true := by
      cases hd : isSlash .special d with
      | true => rfl
      | false => simp [hc, hd] at h
    rw [relative_of_slashes base' l' s hc hd, relative_of_slashes base l s hc hd, hs]

theorem join_of_scheme {l : List String} (hl : base.path = .segments l) {scheme : String}
    {rest : List Char} (h : scheme? (significant link) = some (scheme, rest)) :
    base.join link
      = if SchemeKind.ofScheme scheme = .special ∧ scheme = base.scheme
          ∧ (rest.takeWhile (isSlash .special)).length < 2 then relative base l rest
        else ofScheme scheme rest := by
  simp only [join, h, hl]

theorem join_of_no_scheme {l : List String} (hl : base.path = .segments l)
    (h : scheme? (significant link) = none) :
    base.join link = relative base l (significant link) := by
  simp only [join, h, hl]

theorem join_of_isLocal (hb : base.IsBase) (h : base.isLocal link = true) :
    ∃ u, base.join link = .ok u ∧ u.origin = base.origin := by
  obtain ⟨l, hl⟩ := hb.path
  have hkind : SchemeKind.ofScheme base.scheme = .special := hb.kind
  unfold isLocal schemeOf at h
  cases hs : scheme? (significant link) with
  | none =>
    simp only [hs, Option.getD_none, decide_true, Bool.true_and, decide_eq_true_eq] at h
    obtain ⟨u, hu, hscheme, hauthority⟩ := relative_of_local base l h
    exact ⟨u, join_of_no_scheme hl hs ▸ hu, origin_eq hscheme hauthority⟩
  | some p =>
    obtain ⟨scheme, rest⟩ := p
    simp only [hs, Option.getD_some, Bool.and_eq_true, decide_eq_true_eq] at h
    obtain ⟨rfl, hlen⟩ := h
    obtain ⟨u, hu, hscheme, hauthority⟩ := relative_of_local base l hlen
    refine ⟨u, ?_, origin_eq hscheme hauthority⟩
    rw [join_of_scheme hl hs, if_pos ⟨hkind, rfl, hlen⟩]
    exact hu

theorem join_of_not_isLocal (hb : base.IsBase) (hb' : base'.IsBase)
    (hs : base'.scheme = base.scheme) (h : base.isLocal link = false) :
    base'.join link = base.join link := by
  obtain ⟨l, hl⟩ := hb.path
  obtain ⟨l', hl'⟩ := hb'.path
  unfold isLocal schemeOf at h
  cases hlink : scheme? (significant link) with
  | none =>
    simp only [hlink, Option.getD_none, decide_true, Bool.true_and, decide_eq_false_iff_not,
      Nat.not_lt] at h
    rw [join_of_no_scheme hl hlink, join_of_no_scheme hl' hlink]
    exact relative_of_not_local hs l l' h
  | some p =>
    obtain ⟨scheme, rest⟩ := p
    simp only [hlink, Option.getD_some, Bool.and_eq_false_iff, decide_eq_false_iff_not] at h
    have hforeign : ¬ (SchemeKind.ofScheme scheme = .special ∧ scheme = base.scheme
        ∧ (rest.takeWhile (isSlash .special)).length < 2) :=
      fun ⟨_, hscheme, hlen⟩ => h.elim (absurd hscheme) (absurd hlen)
    rw [join_of_scheme hl hlink, join_of_scheme hl' hlink, hs, if_neg hforeign, if_neg hforeign]

end Join

theorem isLocal_queryPath (base : Url) : base.isLocal Session.queryPath = true := by
  have hs : significant Session.queryPath = Session.queryPath.toList := by decide
  have hscheme : scheme? Session.queryPath.toList = none := by decide
  have hlen : (Session.queryPath.toList.takeWhile (isSlash .special)).length = 1 := by decide
  simp [isLocal, schemeOf, hs, hscheme, hlen]

theorem isLocal_loadPath (base : Url) : base.isLocal Session.loadPath = true := by
  have hs : significant Session.loadPath = Session.loadPath.toList := by decide
  have hscheme : scheme? Session.loadPath.toList = none := by decide
  have hlen : (Session.loadPath.toList.takeWhile (isSlash .special)).length = 1 := by decide
  simp [isLocal, schemeOf, hs, hscheme, hlen]

end Url

theorem Config.isBase_of_endpoint {c : Config} {u : Url} (h : c.endpoint = .ok u) : u.IsBase := by
  refine ⟨?_, segments_of_endpoint h⟩
  rw [Url.kind, scheme_of_endpoint h]
  cases c.transport <;> rfl

end QueryClient
