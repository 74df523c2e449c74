import QueryClient.Proofs.Config.Queries
import QueryClient.Proofs.Url.Endpoint

/-!
# The URL of the service

A connection string says how the service is reached: its scheme and the last of its modes decide
about TLS (`transport_eq_http_iff`), and its authority says the host and the port. The URL of the
service is made of these and of nothing else (`endpoint_eq_ok_iff`). The host is opaque in a
connection string and is read again under the rules of special schemes; if that succeeds, it still
is a host and holds no character that begins another part of a URL (`isClosed_of_special`).
-/

namespace QueryClient

open Text

/-- What is looked up for a name has no character of a meaning in a URL. -/
theorem Domain.not_isDenied_of_toAscii? {name ascii : List Char} (h : toAscii? name = some ascii) :
    ∀ c ∈ ascii, isDenied c = false := by
  unfold toAscii? at h
  obtain ⟨replaced, -, h⟩ := Option.bind_eq_some_iff.1 h
  obtain ⟨labels, -, h⟩ := Option.bind_eq_some_iff.1 h
  dsimp only at h
  split at h
  · next hrules =>
    obtain rfl := Option.some.inj h
    simp only [Bool.and_eq_true, Bool.not_eq_true', List.any_eq_false] at hrules
    exact fun c hc => by simpa using hrules.2 c hc
  · cases h

namespace Url

/-! ## Hosts of special schemes -/

/-- Whether nothing in a host begins or ends a part of a URL. -/
def Host.IsClosed (h : Host) : Prop :=
  h.isEmpty = false ∧ ∀ c ∈ h.text.toList, IsInside c ∧ c ≠ '\\'

theorem Ipv4.mem_chars {n : Nat} {c : Char} (h : c ∈ chars n) : c = '.' ∨ c.isDigit = true := by
  rcases mem_intercalate h with rfl | ⟨piece, hpiece, h⟩
  · exact .inl rfl
  · obtain ⟨k, -, rfl⟩ := List.mem_map.1 hpiece
    exact .inr (Decimal.isDigit_of_mem_digits h)

theorem isClosed_address {ps : List Nat} : (Host.ipv6 ps).IsClosed := by
  refine ⟨rfl, fun c hc => ?_⟩
  rw [Host.text, String.toList_ofList] at hc
  unfold IsInside
  refine of_mem_of_all (P := fun d => (d ≠ '@' ∧ d ≠ '/' ∧ d ≠ '?' ∧ d ≠ '#') ∧ d ≠ '\\')
    (s := '[' :: ":0123456789abcdef".toList ++ [']']) (by decide) ?_
  simp only [List.cons_append, List.mem_cons, List.mem_append] at hc ⊢
  exact hc.imp_right fun hc => hc.imp_left Ipv6.mem_chars

theorem isClosed_of_special {s : List Char} {h : Host} (hs : Host.special s = .ok h) :
    h.IsClosed := by
  unfold Host.special at hs
  split at hs
  · unfold bracketed at hs
    split at hs <;> cases hs
    exact isClosed_address
  · split at hs
    · cases hs
    · cases hs
    · next d hne hd =>
      split at hs
      · split at hs <;> cases hs
        refine ⟨rfl, fun c hc => ?_⟩
        rw [Host.text, String.toList_ofList] at hc
        unfold IsInside
        rcases Ipv4.mem_chars hc with rfl | hdigit
        · decide
        · refine ⟨⟨?_, ?_, ?_, ?_⟩, ?_⟩ <;> rintro rfl <;> cases hdigit
      · obtain rfl := Except.ok.inj hs
        refine ⟨?_, fun c hc => ?_⟩
        · simpa [Host.isEmpty, ← String.toList_inj] using hne
        · rw [Host.text, String.toList_ofList] at hc
          obtain ⟨decoded, -, hascii⟩ := Option.bind_eq_some_iff.1 hd
          have hdenied := Domain.not_isDenied_of_toAscii? hascii c hc
          refine ⟨⟨?_, ?_, ?_, ?_⟩, ?_⟩ <;> rintro rfl <;> cases hdenied

section Address

variable {h : Host} {n : Nat}

theorem isInside_of_mem_address (hh : h.IsOpaque) {port : Option Nat} {c : Char}
    (hc : c ∈ h.text.toList ++ portChars port) : IsInside c :=
  (List.mem_append.1 hc).elim (Host.isInside_of_mem hh) isInside_of_mem_portChars

theorem backslash_not_mem_address (hh : h.IsOpaque) (port : Option Nat) :
    '\\' ∉ h.text.toList ++ portChars port := by
  intro hmem
  rcases List.mem_append.1 hmem with hmem | hmem
  · cases hh with
    | address hps =>
      exact (isClosed_address.2 '\\' hmem).2 rfl
    | name ht =>
      rw [Host.text, String.toList_ofList] at hmem
      exact (ht _ hmem).ne (by decide) rfl
  · cases port with
    | none => cases hmem
    | some n =>
      rcases List.mem_cons.1 hmem with hmem | hmem
      · exact absurd hmem (by decide)
      · cases Decimal.isDigit_of_mem_digits hmem

/-- After the slashes of a special scheme an opaque host is read again, and what follows it is its
port. -/
theorem afterSlashes_special {scheme : String} (hk : SchemeKind.ofScheme scheme = .special)
    (hh : h.IsOpaque) (hne : h.isEmpty = false) (hn : n ≤ 65535) {u : Url} :
    afterSlashes scheme (h.text.toList ++ portChars (some n)) = .ok u
      ↔ ∃ host, Host.special h.text.toList = .ok host
        ∧ u = { scheme, authority := some { host, port := keptPort scheme n }
                path := .segments [""] } := by
  have hback := backslash_not_mem_address hh (some n)
  have hend : IsAfterAuthority [] := by simp [IsAfterAuthority]
  have hinside : ∀ c ∈ h.text.toList ++ portChars (some n), IsInside c := fun _ =>
    isInside_of_mem_address hh
  have huser := userinfo_none hinside hend
  rw [List.append_nil, ← userinfo_eq .special hback] at huser
  have hsplit := Host.splitHost_text hh (portChars (some n)) (by simp [Host.Follows, portChars])
  rw [← splitHost_eq .special hback] at hsplit
  have hport : portAfter scheme (portChars (some n)) = .ok (keptPort scheme n, []) := by
    have hdigits : portAfter scheme (':' :: (Decimal.digits n ++ []))
      = .ok (keptPort scheme n, []) := portAfter_digits hn hend
    rwa [List.append_nil] at hdigits
  have hhost : hostOf .special h.text.toList = Host.special h.text.toList := by
    simp [hostOf, SchemeKind.isSpecial, Host.text_ne_nil hh hne]
  rw [afterSlashes_ok_iff, hk]
  constructor
  · rintro ⟨user, rest, host, port, path, hu, hname, hp, -, rfl⟩
    obtain ⟨rfl, rfl⟩ := Prod.mk.inj (Except.ok.inj (huser.symm.trans hu))
    rw [hsplit, hhost] at hname
    rw [hsplit, hport] at hp
    obtain ⟨rfl, rfl⟩ := Prod.mk.inj (Except.ok.inj hp)
    exact ⟨host, hname, rfl⟩
  · rintro ⟨host, hname, rfl⟩
    refine ⟨_, _, host, _, [], huser, ?_, ?_, ?_, rfl⟩
    · rw [hsplit, hhost]
      exact hname
    · rw [hsplit]
      exact hport
    · rw [(isClosed_of_special hname).1]
      rintro ⟨⟩

end Address

end Url

theorem Transport.kind_text (t : Transport) : Url.SchemeKind.ofScheme t.text = .special := by
  cases t <;> rfl

namespace Config

variable {c : Config} {text : String}

/-! ## The endpoint -/

/-- The URL of a host and the port of a configuration. -/
def serviceUrl (c : Config) (host : Url.Host) : Url where
  scheme := c.transport.text
  authority := some
    { host, port := Url.keptPort c.transport.text c.effectivePort.toNat }
  path := .segments [""]

theorem effectivePort?_serviceUrl (c : Config) (host : Url.Host) :
    (c.serviceUrl host).effectivePort? = some c.effectivePort.toNat := by
  simp only [serviceUrl, Url.effectivePort?, Option.bind_some, Url.keptPort]
  split
  · next hport => exact hport
  · rfl

/-- The URL of the service has the host of the configuration, read under the rules of special
schemes, its port and its transport, and nothing else. -/
theorem endpoint_eq_ok_iff {h : Url.Host} (hh : h.IsOpaque) (hne : h.isEmpty = false)
    (htext : c.host = h.text) {u : Url} :
    c.endpoint = .ok u ↔ ∃ host, Url.Host.special c.host.toList = .ok host
      ∧ u = c.serviceUrl host := by
  let body := h.text.toList ++ Url.portChars (some c.effectivePort.toNat)
  have hparse : c.transport.text ++ "://" ++ c.host ++ ":" ++ Decimal.text c.effectivePort.toNat
      = String.ofList (c.transport.text.toList ++ ':' :: '/' :: '/' :: body) := by
    apply String.ext
    simp [body, htext, Decimal.text, Url.portChars]
  have hvisible : ∀ d ∈ body, 0x20 < d.toNat := by
    intro d hd
    exact (List.mem_append.1 hd).elim (fun hd => (Url.Host.mem_text hh hd).1)
      visible_of_mem_portChars
  have hslash : ∀ d ∈ body.head?, Url.isSlash .special d = false := by
    intro d hd
    have hmem := List.mem_of_mem_head? hd
    have hback : d ≠ '\\' := by
      rintro rfl
      exact Url.backslash_not_mem_address hh _ hmem
    simp [Url.isSlash, hback, (Url.isInside_of_mem_address hh hmem).2.1]
  have hread : Url.parse (String.ofList (c.transport.text.toList ++ ':' :: '/' :: '/' :: body))
      = Url.afterSlashes c.transport.text body := by
    have hname : Url.IsScheme c.transport.text.toList := by cases c.transport <;> decide
    rw [Url.parse_scheme hname, String.ofList_toList, Url.significantAfter_eq_self
      (List.forall_mem_cons.2 ⟨by decide, List.forall_mem_cons.2 ⟨by decide, hvisible⟩⟩),
      Url.ofScheme, c.transport.kind_text]
    have hdrop : ('/' :: '/' :: body).dropWhile (Url.isSlash .special) = body := by
      rw [List.dropWhile_cons_of_pos (by decide), List.dropWhile_cons_of_pos (by decide),
        dropWhile_eq_self hslash]
    simp only [hdrop]
  have hport : c.effectivePort.toNat ≤ 65535 := Nat.le_of_lt_succ c.effectivePort.toNat_lt
  rw [htext]
  refine .trans ?_ (Url.afterSlashes_special c.transport.kind_text hh hne hport)
  rw [← hread, ← hparse, endpoint]
  cases Url.parse (c.transport.text ++ "://" ++ c.host ++ ":"
      ++ Decimal.text c.effectivePort.toNat) with
  | ok u' => simp
  | error fault => simp

/-! ## Connection strings -/

/-- The transport follows from the scheme of a connection string and the last mode of its options. -/
theorem Completes.transport_eq_http_iff {scheme : String} {named : Option Transport}
    {start : Config} {options : List (String × String)} (hfresh : start.IsFresh)
    (hnamed : transportOfScheme scheme = .ok named) (h : Completes start named options c) :
    c.transport = .http ↔ scheme = "databend+http"
      ∨ scheme = "databend" ∧ lastValue options "sslmode" = some "disable" := by
  have htransport := (hfresh.hasOptions h).transport
  unfold transportOfScheme at hnamed
  split at hnamed <;> cases hnamed <;> simp [htransport]

/-- However the service is reached follows from the connection string. TLS is left out only by its
scheme, or by its last mode if the scheme leaves that open. If the host can be read under the rules
of special schemes, the URL of the service has just this host, the port of the connection string or
else that of the transport, and no other part. -/
theorem endpoint_of_ofDsn (h : ofDsn text = .ok c) :
    ∃ d a, Url.parse text = .ok d ∧ d.authority = some a
      ∧ d.scheme ∈ ["databend", "databend+http", "databend+https"]
      ∧ (c.transport = .http ↔ d.scheme = "databend+http" ∨ d.scheme = "databend"
        ∧ lastValue (Url.Form.pairs (d.query.getD "")) "sslmode" = some "disable")
      ∧ c.host = a.host.text
      ∧ c.effectivePort.toNat = a.port.getD (if c.transport = .http then 80 else 443)
      ∧ ((∃ u, c.endpoint = .ok u) ↔ ∃ host, Url.Host.special c.host.toList = .ok host)
      ∧ ∀ u, c.endpoint = .ok u → u.scheme = (if c.transport = .http then "http" else "https")
        ∧ u.effectivePort? = some c.effectivePort.toNat
        ∧ u.path.text = "/" ∧ u.query = none ∧ u.fragment = none
        ∧ ∃ b, u.authority = some b ∧ b.username = "" ∧ b.password = none
          ∧ Url.Host.special c.host.toList = .ok b.host ∧ b.host.IsClosed := by
  unfold ofDsn at h
  split at h
  · next d hd =>
    obtain ⟨named, start, hnamed, hstart, hc⟩ := ofUrl_eq_ok_iff.1 h
    have hfresh := isFresh_of_ofAuthority hstart
    have hoptions := hfresh.hasOptions hc
    obtain ⟨a, ha, hne, hhost, -, -, -, -, hport⟩ := ofAuthority_ok hstart
    have ho := Url.isOpaque_of_parse hd (opaque_of_transportOfScheme hnamed) ha
    have htext : c.host = a.host.text := hoptions.host.trans hhost
    have hservice {u : Url} := endpoint_eq_ok_iff (u := u) ho.host hne htext
    refine ⟨d, a, hd, ha, ?_, hc.transport_eq_http_iff hfresh hnamed, htext, ?_, ?_, fun u hu => ?_⟩
    · unfold transportOfScheme at hnamed
      split at hnamed <;> simp_all
    · rw [effectivePort, hoptions.port.trans hport]
      cases hp : a.port with
      | none => cases c.transport <;> rfl
      | some n =>
        have hn := ho.port n hp
        simp only [Option.map_some, Option.getD_some]
        exact UInt16.toNat_ofNat_of_lt' (show n < 65536 by omega)
    · simp [hservice]
    · obtain ⟨host, hspecial, rfl⟩ := hservice.1 hu
      refine ⟨?_, effectivePort?_serviceUrl c host, rfl, rfl, rfl, _, rfl, rfl, rfl, hspecial,
        Url.isClosed_of_special hspecial⟩
      unfold serviceUrl
      cases c.transport <;> rfl
  · cases h

/-- An address in brackets that is shortened, with the port that TLS has anyway. -/
theorem endpoint_of_ofDsn_address :
    let text := "Databend://u:p@[0:0::1]:443/db?sslmode=disable&sslmode=require#f"
    ∃ c u, ofDsn text = .ok c ∧ c.transport ≠ .http ∧ c.endpoint = .ok u ∧ u.scheme = "https"
      ∧ u.effectivePort? = some 443 ∧ u.path.text = "/" ∧ u.query = none ∧ u.fragment = none := by
  intro text
  have hread : ofDsn text = .ok
      { host := "[::1]", port := some 443, credentials := ⟨"u", some "p"⟩, database := some "db",
        sslMode := some .require } := by
    decide +kernel
  have hspecial : Url.Host.special "[::1]".toList = .ok (.ipv6 [0, 0, 0, 0, 0, 0, 0, 1]) := by
    decide +kernel
  obtain ⟨-, -, -, -, -, -, -, -, hends, hurl⟩ := endpoint_of_ofDsn hread
  obtain ⟨u, hu⟩ := hends.2 ⟨_, hspecial⟩
  obtain ⟨hscheme, hport, hpath, hquery, hfragment, -⟩ := hurl u hu
  exact ⟨_, u, hread, by decide, hu, hscheme, hport, hpath, hquery, hfragment⟩

end Config

end QueryClient
