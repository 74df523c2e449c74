import QueryClient.Proofs.Url.Authority
import QueryClient.Proofs.Url.Path

/-!
# URLs of an opaque scheme

What follows the two slashes of an opaque scheme is an authority (`parse_opaque`), and whatever text it
was, its parts can be written as they were read (`isOpaque_of_parse`).
-/

namespace QueryClient.Url

open QueryClient.Text Percent

theorem parse_opaque {name : List Char} (h : IsScheme name)
    (hk : SchemeKind.ofScheme (String.ofList name) = .other) {body : List Char}
    (hbody : ∀ c ∈ body, 0x20 < c.toNat) :
    parse (String.ofList (name ++ ':' :: '/' :: '/' :: body))
      = afterSlashes (String.ofList name) body := by
  have hvisible : ∀ c ∈ '/' :: '/' :: body, 0x20 < c.toNat :=
    List.forall_mem_cons.2 ⟨by decide, List.forall_mem_cons.2 ⟨by decide, hbody⟩⟩
  rw [parse_scheme h, significantAfter_eq_self hvisible, ofScheme, hk]
  rfl

theorem password_of_userinfo {k : SchemeKind} {s rest : List Char} {user : Userinfo}
    (h : userinfo k s = .ok (user, rest)) : user.password ≠ some "" := by
  unfold userinfo at h
  dsimp only at h
  split at h
  · obtain rfl := congrArg Prod.fst (Except.ok.inj h)
    simp
  · split at h
    · cases h
    · obtain rfl := congrArg Prod.fst (Except.ok.inj h)
      unfold Userinfo.ofChars
      dsimp only
      split
      · next c rest _ =>
        intro hnil
        have hchars := congrArg String.toList (Option.some.inj hnil)
        rw [encodeText, String.toList_ofList] at hchars
        exact absurd (encode_eq_nil_iff.1 hchars) (List.cons_ne_nil c rest)
      · simp

theorem scheme_of_ofOther {scheme : String} {s : List Char} {u : Url}
    (h : ofOther scheme s = .ok u) : u.scheme = scheme := by
  unfold ofOther at h
  split at h
  · obtain ⟨user, rest, host, port, path, -, -, -, -, rfl⟩ := afterSlashes_ok_iff.1 h
    rfl
  · obtain rfl := Except.ok.inj h
    rfl
  · obtain rfl := Except.ok.inj h
    rfl

/-- A URL of an opaque scheme is read by the rules of such schemes. -/
theorem ofOther_of_parse {text : String} {u : Url} (h : parse text = .ok u)
    (hk : SchemeKind.ofScheme u.scheme = .other) :
    ∃ rest, scheme? (significant text) = some (u.scheme, rest) ∧ ofOther u.scheme rest = .ok u := by
  unfold parse at h
  split at h
  · next scheme rest hscheme =>
    unfold ofScheme at h
    split at h
    · unfold ofFile at h
      dsimp only at h
      split at h
      · obtain ⟨host, -, h⟩ := exists_of_bind h
        obtain rfl := Except.ok.inj h
        cases hk
      · obtain rfl := Except.ok.inj h
        cases hk
    · next hspecial =>
      obtain ⟨user, _, host, port, path, -, -, -, -, rfl⟩ := afterSlashes_ok_iff.1 h
      rw [show SchemeKind.ofScheme (finish scheme _ _ path).scheme = .special from hspecial] at hk
      cases hk
    · have hname := scheme_of_ofOther h
      exact ⟨rest, hname ▸ hscheme, hname ▸ h⟩
  · cases h

/-- What an authority of an opaque scheme is like. -/
structure IsOpaque (u : Url) (a : Authority) : Prop where
  host : a.host.IsOpaque
  password : a.password ≠ some ""
  port : ∀ n ∈ a.port, n ≤ 65535
  path : ∃ l, u.path = .segments l ∧ ∀ t ∈ l, IsSegment t.toList

theorem isOpaque_of_parse {text : String} {u : Url} {a : Authority} (h : parse text = .ok u)
    (hk : SchemeKind.ofScheme u.scheme = .other) (ha : u.authority = some a) : u.IsOpaque a := by
  obtain ⟨rest, -, h⟩ := ofOther_of_parse h hk
  generalize u.scheme = scheme at h hk
  unfold ofOther at h
  split at h
  · obtain ⟨user, rest, host, port, path, huser, hhost, hport, -, rfl⟩ := afterSlashes_ok_iff.1 h
    obtain rfl := Option.some.inj ha
    rw [hk] at hhost
    obtain ⟨l, hl⟩ := segments_of_pathAfter .other (splitPath path).1
    refine ⟨Host.isOpaque_of_verbatim hhost, password_of_userinfo huser, ?_, l, ?_,
      isSegment_of_pathAfter hl⟩
    · rintro n rfl
      exact le_of_portAfter hport
    · simp only [finish, hk, hl]
  · obtain rfl := Except.ok.inj h
    cases ha
  · obtain rfl := Except.ok.inj h
    cases ha

end QueryClient.Url
