import DepositTrail.Proofs.Variables

set_option autoImplicit false

/-! # Configurations written as variables

A configuration can be written as variables, and there are many ways to do so: a number may have a
plus sign and any number of zeros in front, the digits of the address and the letters of a format
may be capitals, the mark of the address may be left out, and blanks may stand around every value
(`Config.IsShownBy`, `Config.Renders`). Whichever way is taken, the configuration itself is read
back (`Config.variables_read_back`).

What can be written is said by `Config.Writable`: a variable holds neither a value with blanks at
its ends nor a part of a millisecond, and there is no variable for the topic.
-/

namespace DepositTrail

/-! ## Values without blanks -/

namespace Text

/-- A text without any blank has none at its ends. -/
theorem isBare_of_not_blank {t : Text} (hne : t ≠ []) (h : ∀ c ∈ t, isBlank c = false) :
    t.IsBare :=
  ⟨hne, fun hne => h _ (List.head_mem hne), fun hne => h _ (List.getLast_mem hne)⟩

theorem not_blank_of_any {t : Text} (h : t.any isBlank = false) : ∀ c ∈ t, isBlank c = false := by
  simpa using h

theorem not_isBlank_of_isDigit {c : Char} (h : Hex.IsDigit c) : isBlank c = false :=
  Hex.forall_isDigit (P := fun c => isBlank c = false) (by decide) (by decide) (by decide) h

/-- Blanks are no letters, and have no case. -/
theorem isBlank_toLower (c : Char) : isBlank c.toLower = isBlank c :=
  Hex.apply_toLower (by decide) c

/-- A text shows a number: at most one plus sign, any number of zeros, and its numeral. -/
def ShowsNumber (t : Text) (n : ℕ) : Prop :=
  ∃ sign zeros, (sign = [] ∨ sign = ['+']) ∧ t = sign ++ (List.replicate zeros '0' ++ decimal n)

theorem ShowsNumber.isNumeral {t : Text} {n : ℕ} (h : t.ShowsNumber n) : IsNumeral 10 t n := by
  obtain ⟨sign, zeros, hsign, rfl⟩ := h
  exact isNumeral_decimal hsign zeros n

theorem showsNumber_decimal (n : ℕ) : (decimal n).ShowsNumber n := ⟨[], 0, Or.inl rfl, rfl⟩

theorem IsNumeral.isBare {base n : ℕ} (hbase : base ≤ 16) {t : Text} (h : IsNumeral base t n) :
    t.IsBare := by
  obtain ⟨sign, digits, hsign, rfl, hne, hdigits⟩ := h
  refine isBare_of_not_blank (by simp [hne]) ?_
  intro c hc
  rcases List.mem_append.mp hc with hc | hc
  · rcases hsign with rfl | rfl
    · cases hc
    · rw [List.mem_singleton.mp hc]
      decide
  · exact not_isBlank_of_isDigit (hdigits.isDigit hbase c hc)

end Text

theorem Octets.isWritten_toText {n : ℕ} (o : Octets n) : Octets.IsWritten o.toText o :=
  ⟨['0', 'x'], _, Or.inr (Or.inl rfl), rfl, Hex.spells_encode o.toList⟩

theorem Octets.IsWritten.isBare {n : ℕ} (hn : 0 < n) {t : Text} {o : Octets n}
    (h : Octets.IsWritten t o) : t.IsBare := by
  obtain ⟨mark, digits, hmark, rfl, hspells⟩ := h
  have hlength := hspells.length
  rw [o.length_eq] at hlength
  have hmark : ∀ c ∈ mark, Text.isBlank c = false := by
    rcases hmark with rfl | rfl | rfl <;> exact Text.not_blank_of_any rfl
  refine Text.isBare_of_not_blank (List.length_pos_iff.mp ?_) fun c hc => ?_
  · rw [List.length_append]
    omega
  · rcases List.mem_append.mp hc with hc | hc
    · exact hmark c hc
    · exact Text.not_isBlank_of_isDigit ((Hex.exists_spells_iff.mp ⟨_, hspells⟩).2 c hc)

theorem OutputFormat.IsNamed.isBare {t : Text} {f : OutputFormat} (h : f.IsNamed t) :
    t.IsBare := by
  have hnames : ∀ name ∈ f.names, name ≠ [] ∧ ∀ c ∈ name, Text.isBlank c = false := by
    intro name hname
    cases f with
    | text =>
        rw [List.mem_singleton.mp hname]
        exact ⟨by decide, Text.not_blank_of_any rfl⟩
    | jsonLines =>
        rcases List.mem_pair.mp hname with rfl | rfl <;>
          exact ⟨by decide, Text.not_blank_of_any rfl⟩
  obtain ⟨hne, hall⟩ := hnames _ h
  refine Text.isBare_of_not_blank (fun hnil => hne (by rw [hnil]; rfl)) fun c hc => ?_
  rw [← Text.isBlank_toLower]
  exact hall _ (List.mem_map_of_mem hc)

/-- Each setting has a variable of its own. -/
theorem Setting.name_injective : Function.Injective Setting.name := by
  intro s s' h
  cases s <;> cases s' <;> first | rfl | exact absurd h (by decide)

/-! ## Writing a configuration -/

namespace Config

/-- What variables can say about a configuration: its texts have something in them and no blanks
at their ends, its durations are whole numbers of their units, and its topic is the default. -/
structure Writable (c : Config) : Prop where
  apiKey : c.apiKey.reveal.IsBare
  apiUrl : c.apiUrl.IsBare
  eventTopic : c.eventTopic = depositTopic
  throttle : ∃ n : UInt64, c.throttle.nanos = n.toNat * nanosPerMilli
  requestTimeout : ∃ n : UInt64, c.requestTimeout.nanos = n.toNat * nanosPerSecond
  retryBackoff : ∃ n : UInt64, c.retryBackoff.nanos = n.toNat * nanosPerMilli
  checkpointFile : ∀ path, c.checkpointFile = some path → path.IsBare

/-- A text shows a setting of a configuration. -/
def IsShownBy (c : Config) : Setting → Text → Prop
  | .apiKey, t => t = c.apiKey.reveal
  | .apiUrl, t => t = c.apiUrl
  | .contract, t => Octets.IsWritten t c.contract
  | .fromBlock, t => t.ShowsNumber c.fromBlock.toNat
  | .toBlock, t => t.ShowsNumber c.toBlock.toNat
  | .blockRange, t => t.ShowsNumber c.blockRange.toNat
  | .pageSize, t => t.ShowsNumber c.pageSize.toNat
  | .maxResults, t => t.ShowsNumber c.maxResults.toNat
  | .throttle, t => t.ShowsNumber c.throttle.millis
  | .requestTimeout, t => t.ShowsNumber c.requestTimeout.seconds
  | .maxAttempts, t => t.ShowsNumber c.maxAttempts.toNat
  | .retryBackoff, t => t.ShowsNumber c.retryBackoff.millis
  | .outputFormat, t => c.output.IsNamed t
  | .checkpointFile, t => c.checkpointFile = some t

/-- Each variable shows its setting, with blanks around the value or without; a variable is not
set only if there is nothing to be shown. -/
structure Renders (c : Config) (source : Variables) : Prop where
  shows : ∀ s raw, source s.name = some raw → ∃ value, raw.IsPadded value ∧ c.IsShownBy s value
  missing : ∀ s, source s.name = none → ∀ value, ¬ c.IsShownBy s value

/-- What shows a setting has no blanks at its ends. -/
theorem Writable.isBare {c : Config} (hc : c.Writable) {s : Setting} {value : Text}
    (h : c.IsShownBy s value) : value.IsBare := by
  have hnumber : ∀ {n : ℕ}, value.ShowsNumber n → value.IsBare := fun h =>
    h.isNumeral.isBare (by decide)
  cases s with
  | apiKey =>
      obtain rfl : value = _ := h
      exact hc.apiKey
  | apiUrl =>
      obtain rfl : value = _ := h
      exact hc.apiUrl
  | contract => exact Octets.IsWritten.isBare (by decide) h
  | outputFormat => exact OutputFormat.IsNamed.isBare h
  | checkpointFile => exact hc.checkpointFile value h
  | fromBlock | toBlock | blockRange | pageSize | maxResults | throttle | requestTimeout
  | maxAttempts | retryBackoff => exact hnumber h

/-! ## Reading it back -/

section ReadBack

variable {c : Config} {source : Variables}

/-- A setting that can be shown is given a value that shows it. -/
theorem Renders.gives (h : c.Renders source) (hc : c.Writable) {s : Setting} {value : Text}
    (hvalue : c.IsShownBy s value) : ∃ value', Gives source s value' ∧ c.IsShownBy s value' := by
  cases hs : source s.name with
  | none => exact absurd hvalue (h.missing s hs value)
  | some raw =>
      obtain ⟨value', hpadded, hshown⟩ := h.shows s raw hs
      exact ⟨value', ⟨raw, hs, hpadded, hc.isBare hshown⟩, hshown⟩

/-- A number is chosen from what shows it. -/
theorem Renders.chosen (h : c.Renders source) (hc : c.Writable) {α : Type} {s : Setting}
    {Means : Text → α → Prop} {default a : α} {n : ℕ}
    (hshows : ∀ value, c.IsShownBy s value ↔ value.ShowsNumber n)
    (hmeans : ∀ value, Text.IsNumeral 10 value n → Means value a) :
    Chosen source s Means default a := by
  obtain ⟨value, hgives, hshown⟩ :=
    h.gives hc ((hshows (Text.decimal n)).mpr (Text.showsNumber_decimal n))
  exact Or.inl ⟨value, hgives, hmeans value ((hshows value).mp hshown).isNumeral⟩

/-- **What was written** makes up the configuration. -/
theorem Renders.assembled (h : c.Renders source) (hc : c.Writable) : Assembled source c := by
  have hduration : ∀ {s : Setting} {default : UInt64} {d : Duration} {unit : ℕ}, 0 < unit →
      (∀ value, c.IsShownBy s value ↔ value.ShowsNumber (d.nanos / unit)) →
        (∃ n : UInt64, d.nanos = n.toNat * unit) →
          ∃ n : UInt64, Chosen source s MeansWord default n ∧ d.nanos = n.toNat * unit := by
    rintro s default d unit hunit hshows ⟨n, hn⟩
    have hcount : d.nanos / unit = n.toNat := by rw [hn, Nat.mul_div_cancel _ hunit]
    refine ⟨n, h.chosen hc hshows fun value hvalue => ?_, hn⟩
    rw [MeansWord, ← hcount]
    exact hvalue
  have hkey : Gives source .apiKey c.apiKey.reveal := by
    obtain ⟨_, hgives, rfl⟩ := h.gives hc (s := .apiKey) rfl
    exact hgives
  have hurl : Gives source .apiUrl c.apiUrl := by
    obtain ⟨_, hgives, rfl⟩ := h.gives hc (s := .apiUrl) rfl
    exact hgives
  obtain ⟨address, haddress, hcontract⟩ := h.gives hc (s := .contract)
    (Octets.isWritten_toText c.contract)
  have hname : ∃ name, name ∈ c.output.names ∧ name.lower = name := by
    cases c.output
    · exact ⟨_, List.mem_cons_self, rfl⟩
    · exact ⟨_, List.mem_cons_self, rfl⟩
  obtain ⟨name, hname, hlower⟩ := hname
  obtain ⟨format, hformat, hnamed⟩ := h.gives hc (s := .outputFormat) (hlower ▸ hname)
  exact {
    apiKey := hkey
    apiUrl := Or.inl ⟨_, hurl, rfl⟩
    contract := Or.inl ⟨address, haddress, hcontract⟩
    eventTopic := hc.eventTopic
    fromBlock := h.chosen hc (fun _ => Iff.rfl) fun _ => id
    toBlock := h.chosen hc (fun _ => Iff.rfl) fun _ => id
    blockRange := h.chosen hc (fun _ => Iff.rfl) fun _ => id
    pageSize := h.chosen hc (fun _ => Iff.rfl) fun _ => id
    maxResults := h.chosen hc (fun _ => Iff.rfl) fun _ => id
    throttle := hduration (by decide) (fun _ => Iff.rfl) hc.throttle
    requestTimeout := hduration (by decide) (fun _ => Iff.rfl) hc.requestTimeout
    maxAttempts := h.chosen hc (fun _ => Iff.rfl) fun _ => id
    retryBackoff := hduration (by decide) (fun _ => Iff.rfl) hc.retryBackoff
    output := Or.inl ⟨format, hformat, hnamed⟩
    checkpointFile := by
      intro path
      constructor
      · intro hpath
        obtain ⟨path', hgives, hpath'⟩ := h.gives hc (s := .checkpointFile) hpath
        obtain rfl : path = path' := Option.some.inj (hpath.symm.trans hpath')
        exact hgives
      · rintro ⟨raw, hraw, hpadded, hbare⟩
        obtain ⟨path', hpadded', hpath'⟩ := h.shows .checkpointFile raw hraw
        rw [← (Text.trim_eq_iff hbare).mpr hpadded,
          (Text.trim_eq_iff (hc.checkpointFile path' hpath')).mpr hpadded']
        exact hpath' }

end ReadBack

/-! ## One way to write it -/

/-- The plainest text that shows a setting, if there is something to be shown. -/
def plain? (c : Config) : Setting → Option Text
  | .apiKey => some c.apiKey.reveal
  | .apiUrl => some c.apiUrl
  | .contract => some c.contract.toText
  | .fromBlock => some (Text.decimal c.fromBlock.toNat)
  | .toBlock => some (Text.decimal c.toBlock.toNat)
  | .blockRange => some (Text.decimal c.blockRange.toNat)
  | .pageSize => some (Text.decimal c.pageSize.toNat)
  | .maxResults => some (Text.decimal c.maxResults.toNat)
  | .throttle => some (Text.decimal c.throttle.millis)
  | .requestTimeout => some (Text.decimal c.requestTimeout.seconds)
  | .maxAttempts => some (Text.decimal c.maxAttempts.toNat)
  | .retryBackoff => some (Text.decimal c.retryBackoff.millis)
  | .outputFormat => c.output.names.head?
  | .checkpointFile => c.checkpointFile

/-- All settings. -/
def allSettings : List Setting := .apiKey :: .apiUrl :: .checkpointFile :: inOrder

/-- The variables that hold the plainest texts. -/
def toVariables (c : Config) : Variables := fun name =>
  (allSettings.find? (·.name = name)).bind c.plain?

theorem toVariables_name (c : Config) (s : Setting) : c.toVariables s.name = c.plain? s := by
  have hfind : allSettings.find? (·.name = s.name) = some s := by
    cases s <;> decide
  rw [toVariables, hfind, Option.bind_some]

/-- Another text that shows a setting may stand in its variable. -/
theorem Renders.update {c : Config} {source : Variables} (h : c.Renders source) {s : Setting}
    {raw value : Text} (hraw : raw.IsPadded value) (hvalue : c.IsShownBy s value) :
    c.Renders (Function.update source s.name (some raw)) where
  shows := by
    intro s' raw' h'
    by_cases hs : s' = s
    · subst hs
      rw [Function.update_self] at h'
      obtain rfl := Option.some.inj h'
      exact ⟨value, hraw, hvalue⟩
    · rw [Function.update_of_ne (Setting.name_injective.ne hs)] at h'
      exact h.shows s' raw' h'
  missing := by
    intro s' h'
    by_cases hs : s' = s
    · subst hs
      rw [Function.update_self] at h'
      cases h'
    · rw [Function.update_of_ne (Setting.name_injective.ne hs)] at h'
      exact h.missing s' h'

theorem isShownBy_of_plain? {c : Config} {s : Setting} {value : Text}
    (h : c.plain? s = some value) : c.IsShownBy s value := by
  cases s with
  | apiKey | apiUrl => exact (Option.some.inj h).symm
  | contract =>
      obtain rfl := Option.some.inj h
      exact Octets.isWritten_toText _
  | outputFormat =>
      revert h
      unfold plain? IsShownBy
      cases c.output
      · rintro ⟨⟩
        exact List.mem_cons_self
      · rintro ⟨⟩
        exact List.mem_cons_self
  | checkpointFile => exact h
  | fromBlock | toBlock | blockRange | pageSize | maxResults | throttle | requestTimeout
  | maxAttempts | retryBackoff =>
      obtain rfl := Option.some.inj h
      exact Text.showsNumber_decimal _

/-- Every configuration is written in the plainest way. -/
theorem renders_toVariables (c : Config) : c.Renders c.toVariables where
  shows := by
    intro s raw h
    rw [toVariables_name] at h
    exact ⟨raw, Text.isPadded_self raw, isShownBy_of_plain? h⟩
  missing := by
    intro s h value hvalue
    rw [toVariables_name] at h
    cases s with
    | checkpointFile =>
        obtain hvalue : c.checkpointFile = some value := hvalue
        obtain h : c.checkpointFile = none := h
        rw [h] at hvalue
        cases hvalue
    | outputFormat =>
        revert h
        unfold plain?
        cases c.output <;> exact nofun
    | apiKey | apiUrl | contract | fromBlock | toBlock | blockRange | pageSize | maxResults
    | throttle | requestTimeout | maxAttempts | retryBackoff => cases h

/-- **A configuration that was written as variables is read back**, whichever way it was written
in, and there is a way. -/
theorem variables_read_back (c : Config) (hcheck : c.check = .ok c) (hc : c.Writable) :
    (∃ source, c.Renders source) ∧ ∀ source, c.Renders source → ofVariables source = .ok c := by
  refine ⟨⟨c.toVariables, c.renders_toVariables⟩, fun source h => ?_⟩
  exact ofVariables_eq_ok_iff.mpr ⟨h.assembled hc, (check_eq_ok_iff.mp hcheck).2⟩

/-- Lines of JSON for an address in capitals without its mark, from a block with a sign and a zero
in front, and a format half in capitals with blanks around it. -/
theorem variables_read_back_capitals :
    let c : Config := { default "abc".toList with
      contract := ⟨List.replicate 20 0xAB, rfl⟩, fromBlock := 7, throttle := Duration.ofMillis 250,
      output := .jsonLines, checkpointFile := some "scan.db".toList }
    let source : Variables := Function.update (Function.update (Function.update c.toVariables
      Setting.contract.name (some (List.replicate 20 ['A', 'b']).flatten))
      Setting.fromBlock.name (some "+07".toList))
      Setting.outputFormat.name (some " JSON-Lines\n".toList)
    c.check = .ok c ∧ c.Writable ∧ c.Renders source ∧ ofVariables source = .ok c := by
  intro c source
  have hcheck : c.check = .ok c := rfl
  have hc : c.Writable := {
    apiKey := Text.isBare_of_not_blank (by decide) (Text.not_blank_of_any rfl)
    apiUrl := Text.isBare_of_not_blank (by decide) (Text.not_blank_of_any rfl)
    eventTopic := rfl
    throttle := ⟨250, Duration.nanos_ofMillis 250⟩
    requestTimeout := ⟨30, Duration.nanos_ofSeconds 30⟩
    retryBackoff := ⟨500, Duration.nanos_ofMillis 500⟩
    checkpointFile := by
      rintro _ ⟨⟩
      exact Text.isBare_of_not_blank (by decide) (Text.not_blank_of_any rfl) }
  have haddress : c.IsShownBy .contract (List.replicate 20 ['A', 'b']).flatten :=
    ⟨[], _, Or.inl rfl, rfl, rfl⟩
  have hblock : c.IsShownBy .fromBlock "+07".toList :=
    ⟨['+'], 1, Or.inr rfl, by decide +kernel⟩
  have hformat : c.IsShownBy .outputFormat "JSON-Lines".toList :=
    List.mem_cons_of_mem _ List.mem_cons_self
  have hrenders : c.Renders source :=
    ((c.renders_toVariables.update (Text.isPadded_self _) haddress).update
      (Text.isPadded_self _) hblock).update ⟨[' '], ['\n'], rfl,
        List.forall_mem_singleton.mpr rfl, List.forall_mem_singleton.mpr rfl⟩ hformat
  exact ⟨hcheck, hc, hrenders, (variables_read_back c hcheck hc).2 source hrenders⟩

end Config

end DepositTrail
