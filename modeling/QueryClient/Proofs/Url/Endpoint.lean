import QueryClient.Proofs.Url.Parse
import QueryClient.Session

/-!
# The endpoint of a session

The endpoint of a configuration has the scheme of its transport and a path of segments, whatever its
host is (`scheme_of_endpoint`, `segments_of_endpoint`), so a load is sent to its own path on the same
authority (`join_loadPath`).
-/

namespace QueryClient

namespace Url

theorem segments_of_afterSlashes {scheme : String} {s : List Char} {u : Url}
    (h : afterSlashes scheme s = .ok u) : ∃ l, u.path = .segments l := by
  obtain ⟨user, rest, host, port, path, -, -, -, -, rfl⟩ := afterSlashes_ok_iff.1 h
  exact segments_of_pathAfter _ _

theorem scheme_of_afterSlashes {scheme : String} {s : List Char} {u : Url}
    (h : afterSlashes scheme s = .ok u) : u.scheme = scheme := by
  obtain ⟨user, rest, host, port, path, -, -, -, -, rfl⟩ := afterSlashes_ok_iff.1 h
  rfl

theorem parse_special {name : List Char} (h : IsScheme name)
    (hk : SchemeKind.ofScheme (String.ofList name) = .special) (rest : List Char) :
    ∃ s, parse (String.ofList (name ++ ':' :: rest)) = afterSlashes (String.ofList name) s := by
  rw [parse_scheme h, ofScheme, hk]
  exact ⟨_, rfl⟩

theorem join_loadPath {base : Url} {l : List String} (hl : base.path = .segments l) :
    base.join Session.loadPath
      = .ok ⟨base.scheme, base.authority, .segments ["v1", "streaming_load"], none, none⟩ := by
  have hs : significant Session.loadPath = '/' :: 'v' :: "1/streaming_load".toList := by decide
  have hscheme : scheme? ('/' :: 'v' :: "1/streaming_load".toList) = none := by decide
  have hsplit : splitPath ('v' :: "1/streaming_load".toList)
      = ('v' :: "1/streaming_load".toList, []) := by decide
  have hsegments : segmentsFrom .special [] ('v' :: "1/streaming_load".toList)
      = .segments ["v1", "streaming_load"] := by decide
  have hrelative (t : List Char) : relative base l ('/' :: 'v' :: t)
      = .ok (finish base.scheme base.authority (segmentsFrom .special []) ('v' :: t)) := by
    simp [relative, isSlash]
  rw [join, hs, hscheme, hl]
  simp only [hrelative, finish, hsplit, hsegments]
  rfl

end Url

namespace Config

variable {c : Config} {u : Url}

theorem afterSlashes_of_endpoint (h : c.endpoint = .ok u) :
    ∃ s, Url.afterSlashes c.transport.text s = .ok u := by
  have htext : ∃ s, Url.parse (c.transport.text ++ "://" ++ c.host ++ ":"
      ++ Text.Decimal.text c.effectivePort.toNat) = Url.afterSlashes c.transport.text s := by
    let rest : List Char := '/' :: '/' :: (c.host.toList ++ ':' ::
      Text.Decimal.digits c.effectivePort.toNat)
    have hrest : c.transport.text ++ "://" ++ c.host ++ ":" ++ Text.Decimal.text c.effectivePort.toNat
        = String.ofList (c.transport.text.toList ++ ':' :: rest) := by
      apply String.ext
      simp [rest, Text.Decimal.text]
    rw [hrest]
    cases c.transport with
    | http => exact Url.parse_special (by decide) (by decide) rest
    | https => exact Url.parse_special (by decide) (by decide) rest
  obtain ⟨s, htext⟩ := htext
  unfold endpoint at h
  rw [htext] at h
  refine ⟨s, ?_⟩
  split at h
  · next u' hu =>
    obtain rfl := Except.ok.inj h
    exact hu
  · cases h

theorem segments_of_endpoint (h : c.endpoint = .ok u) : ∃ l, u.path = .segments l := by
  obtain ⟨s, hs⟩ := afterSlashes_of_endpoint h
  exact Url.segments_of_afterSlashes hs

theorem scheme_of_endpoint (h : c.endpoint = .ok u) : u.scheme = c.transport.text := by
  obtain ⟨s, hs⟩ := afterSlashes_of_endpoint h
  exact Url.scheme_of_afterSlashes hs

end Config

end QueryClient
