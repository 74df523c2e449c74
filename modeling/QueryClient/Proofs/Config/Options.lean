import QueryClient.Config.Dsn
import QueryClient.Proofs.SortedMap
import QueryClient.Proofs.Text.Decimal

/-!
# The options of a connection string

The options that a configuration writes are the ones that it is read from (`withOptions_dsnOptions`), and
what any options leave behind can be written (`IsReadable.withOptions`). A timeout is written in whole
seconds, so it may come back longer.
-/

namespace QueryClient

open Text

namespace Duration

/-- The duration in whole seconds, rounded up. -/
def wholeSeconds (d : Duration) : Duration :=
  .ofSeconds d.ceilSeconds

theorem wholeSeconds_ofSeconds (n : Nat) : (ofSeconds n).wholeSeconds = ofSeconds n := by
  have h : (n * 1000000000 + 999999999) / 1000000000 = n := by omega
  simp only [wholeSeconds, ofSeconds, ceilSeconds, h]

/-- Whether a timeout can be written. -/
def IsWritable (d : Duration) : Prop :=
  1000000 ≤ d.nanoseconds ∧ d.nanoseconds ≤ (UInt64.size - 1) * 1000000000

end Duration

namespace Config

/-- The options that are known by name. -/
def optionNames : List String :=
  ["sslmode", "wait_time_secs", "max_rows_in_buffer", "max_rows_per_page",
    "page_request_timeout_secs", "connect_timeout", "load_timeout_secs", "tenant", "warehouse"]

variable {c : Config}

theorem withOption_of_not_mem {key : String} (h : key ∉ optionNames) (value : String) :
    c.withOption key value = .ok (c.withSetting key value) := by
  unfold withOption
  split <;> simp_all [optionNames, pure, Except.pure]

theorem withOptions_append (l more : List (String × String)) :
    c.withOptions (l ++ more) = (c.withOptions l).bind (·.withOptions more) := by
  induction l generalizing c with
  | nil => rfl
  | cons e l ih =>
    simp only [List.cons_append, withOptions, bind, Except.bind]
    cases c.withOption e.1 e.2 with
    | error e => rfl
    | ok c => exact ih

/-! ## Writing -/

section Writing

theorem withOptions_dsnOption {α : Type} {key : String} {text : α → String} {value : Option α}
    (set : Option α → Config) (hnone : value = none → c = set none)
    (hsome : ∀ a, value = some a → c.withOption key (text a) = .ok (set (some a))) :
    c.withOptions (dsnOption key text value) = .ok (set value) := by
  cases value with
  | none => rw [← hnone rfl]; rfl
  | some a =>
    simp only [dsnOption, withOptions, hsome a rfl]
    rfl

theorem count_text (key : String) (n : UInt64) : count key (Decimal.text n.toNat) = .ok n := by
  have hmax : n.toNat ≤ UInt64.size - 1 := Nat.le_sub_one_of_lt n.toNat_lt
  simp only [count, Decimal.text, String.toList_ofList, Decimal.readNat?_digits hmax,
    UInt64.ofNat_toNat]

theorem ceilSeconds_of_isWritable {d : Duration} (h : d.IsWritable) :
    ∃ n : UInt64, n ≠ 0 ∧ n.toNat = d.ceilSeconds := by
  obtain ⟨hlow, hhigh⟩ := h
  have hceil : 1 ≤ d.ceilSeconds ∧ d.ceilSeconds < UInt64.size := by
    unfold UInt64.size at hhigh ⊢
    unfold Duration.ceilSeconds
    omega
  have hn : (UInt64.ofNat d.ceilSeconds).toNat = d.ceilSeconds :=
    UInt64.toNat_ofNat_of_lt hceil.2
  refine ⟨_, ?_, hn⟩
  intro h
  rw [h, UInt64.toNat_zero] at hn
  omega

theorem seconds_text (key : String) {d : Duration} (h : d.IsWritable) :
    seconds key (Decimal.text d.ceilSeconds) = .ok d.wholeSeconds := by
  obtain ⟨n, hne, hn⟩ := ceilSeconds_of_isWritable h
  rw [seconds, ← hn, count_text, Duration.wholeSeconds, ← hn]
  simp only [bind, Except.bind, hne, if_false]
  rfl

theorem ofText_text (m : SslMode) : SslMode.ofText m.text = .ok m := by
  cases m <;> rfl

theorem withOptions_settings {l : List (String × String)} (h : ∀ e ∈ l, e.1 ∉ optionNames) :
    c.withOptions l
      = .ok { c with settings := l.foldl (fun m e => m.insert e.1 e.2) c.settings } := by
  induction l generalizing c with
  | nil => rfl
  | cons e l ih =>
    obtain ⟨he, hl⟩ := List.forall_mem_cons.1 h
    simp only [withOptions, withOption_of_not_mem he, bind, Except.bind, ih hl]
    rfl

/-- The configuration with its timeouts as they can be written. -/
def inWholeSeconds (c : Config) : Config :=
  { c with
    pageTimeout := c.pageTimeout.map Duration.wholeSeconds
    connectTimeout := c.connectTimeout.map Duration.wholeSeconds
    loadTimeout := c.loadTimeout.map Duration.wholeSeconds }

def timeouts (c : Config) : List Duration :=
  c.pageTimeout.toList ++ c.connectTimeout.toList ++ c.loadTimeout.toList

theorem mem_timeouts {d : Duration} :
    d ∈ c.timeouts
      ↔ c.pageTimeout = some d ∨ c.connectTimeout = some d ∨ c.loadTimeout = some d := by
  simp [timeouts]

theorem withOptions_dsnOptions (hs : ∀ e ∈ c.settings.entries, e.1 ∉ optionNames)
    (ht : ∀ d ∈ c.timeouts, d.IsWritable) :
    ({ host := c.host, port := c.port, credentials := c.credentials, database := c.database }
        : Config).withOptions c.dsnOptions
      = .ok { c.inWholeSeconds with transport := .https, isExplicit := false } := by
  -- Every option leaves the fields of the later ones unset.
  let c₀ : Config :=
    { host := c.host, port := c.port, credentials := c.credentials, database := c.database }
  let c₁ : Config := { c₀ with sslMode := c.sslMode }
  let c₂ : Config := { c₁ with pagination := { waitSeconds := c.pagination.waitSeconds } }
  let c₃ : Config := { c₂ with
    pagination := { c₂.pagination with bufferRows := c.pagination.bufferRows } }
  let c₄ : Config := { c₃ with pagination := c.pagination }
  let c₅ : Config := { c₄ with pageTimeout := c.pageTimeout.map Duration.wholeSeconds }
  let c₆ : Config := { c₅ with connectTimeout := c.connectTimeout.map Duration.wholeSeconds }
  let c₇ : Config := { c₆ with loadTimeout := c.loadTimeout.map Duration.wholeSeconds }
  let c₈ : Config := { c₇ with tenant := c.tenant }
  let c₉ : Config := { c₈ with warehouse := c.warehouse }
  have hmode : c₀.withOptions (dsnOption "sslmode" SslMode.text c.sslMode) = .ok c₁ :=
    withOptions_dsnOption (fun v => { c₀ with sslMode := v }) (fun _ => rfl)
      fun a _ => by simp only [withOption, ofText_text]; rfl
  have hwait : c₁.withOptions (dsnOption "wait_time_secs" (fun n => Decimal.text n.toNat)
      c.pagination.waitSeconds) = .ok c₂ :=
    withOptions_dsnOption (fun v => { c₁ with pagination := { waitSeconds := v } })
      (fun _ => rfl) fun n _ => by simp only [withOption, count_text]; rfl
  have hbuffer : c₂.withOptions (dsnOption "max_rows_in_buffer" (fun n => Decimal.text n.toNat)
      c.pagination.bufferRows) = .ok c₃ :=
    withOptions_dsnOption
      (fun v => { c₂ with pagination := { c₂.pagination with bufferRows := v } })
      (fun _ => rfl) fun n _ => by simp only [withOption, count_text]; rfl
  have hrows : c₃.withOptions (dsnOption "max_rows_per_page" (fun n => Decimal.text n.toNat)
      c.pagination.pageRows) = .ok c₄ :=
    withOptions_dsnOption
      (fun v => { c₃ with pagination := { c₃.pagination with pageRows := v } })
      (fun _ => rfl) fun n _ => by simp only [withOption, count_text]; rfl
  have hpage : c₄.withOptions (dsnOption "page_request_timeout_secs"
      (fun d => Decimal.text d.ceilSeconds) c.pageTimeout) = .ok c₅ :=
    withOptions_dsnOption
      (fun v => { c₄ with pageTimeout := v.map Duration.wholeSeconds })
      (fun _ => rfl) fun d hd => by
        simp only [withOption, seconds_text _ (ht d (mem_timeouts.2 (.inl hd)))]
        rfl
  have hconnect : c₅.withOptions (dsnOption "connect_timeout"
      (fun d => Decimal.text d.ceilSeconds) c.connectTimeout) = .ok c₆ :=
    withOptions_dsnOption
      (fun v => { c₅ with connectTimeout := v.map Duration.wholeSeconds })
      (fun _ => rfl) fun d hd => by
        simp only [withOption, seconds_text _ (ht d (mem_timeouts.2 (.inr (.inl hd))))]
        rfl
  have hload : c₆.withOptions (dsnOption "load_timeout_secs"
      (fun d => Decimal.text d.ceilSeconds) c.loadTimeout) = .ok c₇ :=
    withOptions_dsnOption
      (fun v => { c₆ with loadTimeout := v.map Duration.wholeSeconds })
      (fun _ => rfl) fun d hd => by
        simp only [withOption, seconds_text _ (ht d (mem_timeouts.2 (.inr (.inr hd))))]
        rfl
  have htenant : c₇.withOptions (dsnOption "tenant" id c.tenant) = .ok c₈ :=
    withOptions_dsnOption (fun v => { c₇ with tenant := v }) (fun _ => rfl) fun _ _ => rfl
  have hwarehouse : c₈.withOptions (dsnOption "warehouse" id c.warehouse) = .ok c₉ :=
    withOptions_dsnOption (fun v => { c₈ with warehouse := v }) (fun _ => rfl)
      fun _ _ => rfl
  have hsettings : c₉.withOptions c.settings.entries = .ok { c₉ with settings := c.settings } := by
    rw [withOptions_settings hs]
    have hempty : c₉.settings = {} := rfl
    rw [hempty, SortedMap.foldl_insert_entries]
  change c₀.withOptions c.dsnOptions = _
  simp only [dsnOptions, withOptions_append, hmode, hwait, hbuffer, hrows, hpage, hconnect, hload,
    htenant, hwarehouse, hsettings, Except.bind]
  rfl

end Writing

/-! ## Reading -/

section Reading

/-- What options leave behind: settings under names of their own, and timeouts in whole seconds. -/
structure IsReadable (c : Config) : Prop where
  settings : ∀ e ∈ c.settings.entries, e.1 ∉ optionNames
  timeouts : ∀ d ∈ c.timeouts, ∃ n, 0 < n ∧ n < UInt64.size ∧ d = .ofSeconds n

theorem ofSeconds_of_seconds {key value : String} {d : Duration} (h : seconds key value = .ok d) :
    ∃ n, 0 < n ∧ n < UInt64.size ∧ d = .ofSeconds n := by
  unfold seconds at h
  obtain ⟨n, -, h⟩ := exists_of_bind h
  split at h
  · cases h
  · next hn =>
    obtain rfl := Except.ok.inj h
    refine ⟨n.toNat, Nat.pos_of_ne_zero fun hz => hn (UInt64.toNat_inj.1 hz), n.toNat_lt, rfl⟩

theorem IsReadable.withTimeout {c' : Config} (hc : c.IsReadable) {key value : String}
    {new : Duration} (h : seconds key value = .ok new) (hs : c'.settings = c.settings)
    (ht : ∀ d ∈ c'.timeouts, d = new ∨ d ∈ c.timeouts) : c'.IsReadable where
  settings := hs ▸ hc.settings
  timeouts d hd := (ht d hd).elim (fun hd => hd ▸ ofSeconds_of_seconds h) (hc.timeouts d)

theorem IsReadable.withSetting {key : String} (hc : c.IsReadable) (hk : key ∉ optionNames)
    (value : String) : (c.withSetting key value).IsReadable where
  settings e he := by
    rcases SortedMap.mem_insertEntry he with rfl | he
    · exact hk
    · exact hc.settings e he
  timeouts := hc.timeouts

/-- An option changes neither the host nor the user nor the database. -/
theorem IsReadable.withOption {c' : Config} {key value : String} (hc : c.IsReadable)
    (h : c.withOption key value = .ok c') :
    c'.IsReadable ∧ c'.host = c.host ∧ c'.credentials = c.credentials
      ∧ c'.database = c.database := by
  unfold Config.withOption at h
  split at h
  case h_10 hmode hwait hbuffer hrows hpage hconnect hload htenant hwarehouse =>
    obtain rfl := Except.ok.inj h
    have hk : key ∉ optionNames := by
      simp only [optionNames, List.mem_cons, List.not_mem_nil, or_false, not_or]
      exact ⟨hmode, hwait, hbuffer, hrows, hpage, hconnect, hload, htenant, hwarehouse⟩
    exact ⟨hc.withSetting hk value, rfl, rfl, rfl⟩
  case h_5 | h_6 | h_7 =>
    obtain ⟨d, hd, h⟩ := exists_of_bind h
    obtain rfl := Except.ok.inj h
    refine ⟨hc.withTimeout hd rfl fun d' hd' => ?_, rfl, rfl, rfl⟩
    simp only [mem_timeouts, Option.some.injEq] at hd' ⊢
    grind
  case h_1 | h_2 | h_3 | h_4 =>
    obtain ⟨_, -, h⟩ := exists_of_bind h
    obtain rfl := Except.ok.inj h
    exact ⟨⟨hc.settings, hc.timeouts⟩, rfl, rfl, rfl⟩
  case h_8 | h_9 =>
    obtain rfl := Except.ok.inj h
    exact ⟨⟨hc.settings, hc.timeouts⟩, rfl, rfl, rfl⟩

theorem IsReadable.withOptions {c' : Config} {l : List (String × String)} (hc : c.IsReadable)
    (h : c.withOptions l = .ok c') :
    c'.IsReadable ∧ c'.host = c.host ∧ c'.credentials = c.credentials
      ∧ c'.database = c.database := by
  induction l generalizing c with
  | nil =>
    obtain rfl := Except.ok.inj h
    exact ⟨hc, rfl, rfl, rfl⟩
  | cons e l ih =>
    obtain ⟨next, hnext, h⟩ := exists_of_bind h
    obtain ⟨hread, hhost, huser, hdb⟩ := hc.withOption hnext
    obtain ⟨hread', hhost', huser', hdb'⟩ := ih hread h
    exact ⟨hread', hhost'.trans hhost, huser'.trans huser, hdb'.trans hdb⟩

end Reading

end Config

end QueryClient
