import DepositTrail.Config.Variables
import DepositTrail.Proofs.NumeralGrammar
import DepositTrail.Proofs.Settings
import Mathlib.Data.List.DropRight

set_option autoImplicit false

/-! # What becomes of variables

A variable gives a value if there is something between the blanks at its ends (`Config.Gives`), and
nothing else about it matters. Without a key there is no configuration. Otherwise the first of the
settings in `Setting.inOrder` whose value cannot be read is blamed (`Config.Blamed`); if there is
none, the values and defaults make up a configuration (`Config.Assembled`), and what is left is
whether this one fits (`Config.ofVariables_decides`).

The eleven settings that are read one after the other are gone through by one step
(`Config.judged_bind`): either the setting is blamed, all those before it having passed, or it has
passed too and its value is what the rest goes on with.
-/

namespace DepositTrail

/-! ## Blanks at the ends -/

namespace Text

/-- There is something in the text, and no blank at its ends. -/
structure IsBare (t : Text) : Prop where
  ne_nil : t ≠ []
  head : ∀ h : t ≠ [], isBlank (t.head h) = false
  last : ∀ h : t ≠ [], isBlank (t.getLast h) = false

/-- A text is a value with blanks before and behind it. -/
def IsPadded (raw value : Text) : Prop :=
  ∃ front back, raw = front ++ value ++ back ∧ (∀ c ∈ front, isBlank c) ∧ ∀ c ∈ back, isBlank c

theorem isPadded_self (t : Text) : t.IsPadded t := ⟨[], [], by simp, nofun, nofun⟩

theorem trimEnd_eq (t : Text) : t.trimEnd = t.rdropWhile isBlank := rfl

/-- Trimming takes blanks away. -/
theorem isPadded_trim (t : Text) : t.IsPadded t.trim := by
  refine ⟨t.takeWhile isBlank, t.trimStart.rtakeWhile isBlank, ?_, ?_, ?_⟩
  · rw [trim, trimEnd_eq, List.append_assoc, List.rdropWhile_append_rtakeWhile, trimStart,
      List.takeWhile_append_dropWhile]
  · exact fun c hc => List.mem_takeWhile_imp hc
  · exact fun c hc => List.mem_rtakeWhile_imp hc

/-- Trimming takes all blanks away. -/
theorem isBare_trim {t : Text} (h : t.trim ≠ []) : t.trim.IsBare := by
  refine ⟨h, fun _ => ?_, fun _ => ?_⟩
  · -- the first character is that of the text without the blanks at its start
    obtain ⟨rest, hrest⟩ : t.trim <+: t.trimStart := List.rdropWhile_prefix isBlank _
    have hstart : t.trimStart ≠ [] := by
      rw [← hrest]
      exact List.append_ne_nil_of_left_ne_nil h _
    have hhead : t.trim.head h = t.trimStart.head hstart := by
      simp only [← hrest, List.head_append_of_ne_nil h]
    rw [hhead]
    exact List.head_dropWhile_not isBlank hstart
  · exact Bool.eq_false_iff.mpr (List.rdropWhile_last_not isBlank t.trimStart h)

/-- **The trimmed text** is the value that has blanks around it. -/
theorem trim_eq_iff {raw value : Text} (h : value.IsBare) :
    raw.trim = value ↔ raw.IsPadded value := by
  constructor
  · rintro rfl
    exact isPadded_trim raw
  · rintro ⟨front, back, rfl, hfront, hback⟩
    have hdrop : ∀ {blanks rest : Text}, (∀ c ∈ blanks, isBlank c) →
        (hne : rest ≠ []) → isBlank (rest.head hne) = false →
          (blanks ++ rest).dropWhile isBlank = rest := by
      intro blanks rest hblanks hne hhead
      rw [List.dropWhile_append_of_pos hblanks]
      obtain ⟨c, t, rfl⟩ := List.exists_cons_of_ne_nil hne
      exact List.dropWhile_cons_of_neg (by simpa using hhead)
    have hstart : (front ++ value ++ back).trimStart = value ++ back := by
      rw [trimStart, List.append_assoc]
      refine hdrop hfront (List.append_ne_nil_of_left_ne_nil h.ne_nil _) ?_
      rw [List.head_append_of_ne_nil h.ne_nil]
      exact h.head _
    rw [trim, hstart, trimEnd, List.reverse_append,
      hdrop (by simpa using hback) (by simpa using h.ne_nil) (by simpa using h.last h.ne_nil),
      List.reverse_reverse]

end Text

namespace Config

variable {source : Variables}

/-- A setting is given a value: its variable holds the value, blanks at the ends apart. -/
def Gives (source : Variables) (s : Setting) (value : Text) : Prop :=
  ∃ raw, source s.name = some raw ∧ raw.IsPadded value ∧ value.IsBare

theorem given?_eq_some_iff {s : Setting} {value : Text} :
    given? source s = some value ↔ Gives source s value := by
  unfold given? Gives
  cases source s.name with
  | none => simp
  | some raw =>
      simp only [Option.some.injEq, exists_eq_left']
      constructor
      · intro h
        split at h
        · cases h
        · rename_i hne
          obtain rfl := Option.some.inj h
          exact ⟨Text.isPadded_trim raw, Text.isBare_trim hne⟩
      · rintro ⟨hpadded, hbare⟩
        rw [(Text.trim_eq_iff hbare).mpr hpadded, if_neg hbare.ne_nil]

theorem given?_eq_none_iff {s : Setting} :
    given? source s = none ↔ ∀ value, ¬ Gives source s value := by
  simp only [Option.eq_none_iff_forall_ne_some, ne_eq, given?_eq_some_iff]

theorem Gives.unique {s : Setting} {value value' : Text} (h : Gives source s value)
    (h' : Gives source s value') : value = value' := by
  rw [← given?_eq_some_iff] at h h'
  exact Option.some.inj (h.symm.trans h')

end Config

/-! ## What values mean -/

/-- The names of an output format, in small letters. -/
def OutputFormat.names : OutputFormat → List Text
  | .text => ["text".toList]
  | .jsonLines => ["jsonl".toList, "json-lines".toList]

/-- A text is a name of the format, its capitals taken as small letters. -/
def OutputFormat.IsNamed (t : Text) (f : OutputFormat) : Prop := t.lower ∈ f.names

theorem OutputFormat.isNamed_text {t : Text} : IsNamed t .text ↔ t.lower = "text".toList :=
  List.mem_singleton

theorem OutputFormat.isNamed_jsonLines {t : Text} :
    IsNamed t .jsonLines ↔ t.lower = "jsonl".toList ∨ t.lower = "json-lines".toList := by
  rw [IsNamed, names, List.mem_cons, List.mem_singleton]

/-- No name belongs to two formats, and a value without blanks at its ends is not trimmed. -/
theorem OutputFormat.read_eq_ok_iff {t : Text} (h : t.IsBare) {f : OutputFormat} :
    OutputFormat.read t = .ok f ↔ IsNamed t f := by
  have htrim : t.trim = t := (Text.trim_eq_iff h).mpr (Text.isPadded_self t)
  unfold OutputFormat.read
  simp only [htrim]
  cases f with
  | text =>
      rw [isNamed_text]
      split_ifs with hfirst hsecond
      · exact iff_of_true rfl hfirst
      · exact iff_of_false nofun hfirst
      · exact iff_of_false nofun hfirst
  | jsonLines =>
      rw [isNamed_jsonLines]
      split_ifs with hfirst hsecond
      · rw [hfirst]
        exact iff_of_false nofun (by decide)
      · exact iff_of_true rfl hsecond
      · exact iff_of_false nofun hsecond

/-- A text is a decimal numeral of a number of 64 bits. -/
def MeansWord (t : Text) (n : UInt64) : Prop := Text.IsNumeral 10 t n.toNat

/-- A text is a decimal numeral of a number of 32 bits. -/
def MeansHalfWord (t : Text) (n : UInt32) : Prop := Text.IsNumeral 10 t n.toNat

/-- A value with which a setting can be made. -/
def Setting.Accepts : Setting → Text → Prop
  | .contract, t => ∃ a : Address, Octets.IsWritten t a
  | .fromBlock, t | .toBlock, t | .blockRange, t | .pageSize, t | .maxResults, t | .throttle, t
  | .requestTimeout, t | .retryBackoff, t => ∃ n, MeansWord t n
  | .maxAttempts, t => ∃ n, MeansHalfWord t n
  | .outputFormat, t => ∃ f, OutputFormat.IsNamed t f
  | .apiKey, _ | .apiUrl, _ | .checkpointFile, _ => True

/-- The value that a problem shows, if it is about a value that cannot be read. -/
def SettingProblem.value? : SettingProblem → Option Text
  | .notNumber value _ | .notAddress value _ | .notFormat value _ => some value
  | .notBelow _ _ | .notPositive | .belowPageSize _ _ | .noAttempt => none

namespace Config

/-- A reader takes the values that mean something for what they mean, and shows any other one in
the problem with it. -/
structure Understands {α : Type} (read : Text → Except SettingProblem α)
    (Means : Text → α → Prop) : Prop where
  ok_iff : ∀ {t a}, t.IsBare → (read t = .ok a ↔ Means t a)
  shown : ∀ {t p}, read t = .error p → p.value? = some t

/-- Numbers below a size are read from their numerals, whatever type they have. -/
theorem understands_numeral {α : Type} {size : ℕ} {ofNat : ℕ → α} {toNat : α → ℕ}
    (hsize : 0 < size) (htoNat : ∀ n < size, toNat (ofNat n) = n)
    (hofNat : ∀ a, ofNat (toNat a) = a) (hlt : ∀ a, toNat a < size) :
    Understands
      (fun t => match Text.readNumeral 10 size t with
        | .ok n => .ok (ofNat n)
        | .error p => .error (.notNumber t p))
      fun t a => Text.IsNumeral 10 t (toNat a) where
  ok_iff := by
    intro t a _
    have hread : ∀ n, Text.readNumeral 10 size t = .ok n ↔ Text.IsNumeral 10 t n ∧ n < size :=
      fun n => Text.readNumeral_eq_ok_iff (by decide) (by decide) hsize
    constructor
    · intro h
      split at h
      · rename_i n hn
        obtain ⟨hnumeral, hn⟩ := (hread n).mp hn
        rw [← Except.ok.inj h, htoNat n hn]
        exact hnumeral
      · cases h
    · intro h
      simp only [(hread (toNat a)).mpr ⟨h, hlt a⟩, hofNat]
  shown := by
    intro t p h
    split at h
    · cases h
    · rw [← Except.error.inj h, SettingProblem.value?]

theorem understands_word : Understands readWord MeansWord :=
  understands_numeral (by decide) (fun _ hn => UInt64.toNat_ofNat_of_lt' hn)
    (fun _ => UInt64.ofNat_toNat) UInt64.toNat_lt

theorem understands_halfWord : Understands readHalfWord MeansHalfWord :=
  understands_numeral (by decide) (fun _ hn => UInt32.toNat_ofNat_of_lt' hn)
    (fun _ => UInt32.ofNat_toNat) UInt32.toNat_lt

theorem understands_address : Understands readAddress Octets.IsWritten where
  ok_iff := by
    intro t a _
    rw [← Octets.read_eq_ok_iff]
    unfold readAddress
    cases Octets.read 20 t <;> simp
  shown := by
    intro t p h
    unfold readAddress at h
    split at h
    · cases h
    · rw [← Except.error.inj h, SettingProblem.value?]

theorem understands_format : Understands readFormat OutputFormat.IsNamed where
  ok_iff := by
    intro t f hbare
    rw [← OutputFormat.read_eq_ok_iff hbare]
    unfold readFormat
    cases OutputFormat.read t <;> simp
  shown := by
    intro t p h
    unfold readFormat at h
    split at h
    · cases h
    · rw [← Except.error.inj h, SettingProblem.value?]

/-! ## One setting -/

variable {source : Variables}

/-- The value that a setting is given means `a`, or it is given none and `a` is the default. -/
def Chosen {α : Type} (source : Variables) (s : Setting) (Means : Text → α → Prop)
    (default a : α) : Prop :=
  (∃ value, Gives source s value ∧ Means value a) ∨
    (∀ value, ¬ Gives source s value) ∧ a = default

section One

variable {α : Type} {s : Setting} {read : Text → Except SettingProblem α}
  {Means : Text → α → Prop} {default a : α}

theorem settingOr_of_gives {value : Text} (h : Gives source s value) :
    settingOr source s read default = match read value with
      | .ok a => .ok a
      | .error p => .error (.invalid s p) := by
  have hgiven := given?_eq_some_iff.mpr h
  unfold settingOr
  split
  · rename_i hnone
    rw [hgiven] at hnone
    cases hnone
  · rename_i t ht
    rw [hgiven] at ht
    obtain rfl := Option.some.inj ht
    rfl

/-- A setting is read as the value that is chosen. -/
theorem settingOr_eq_ok_iff (hread : Understands read Means) :
    settingOr source s read default = .ok a ↔ Chosen source s Means default a := by
  by_cases hgiven : ∃ value, Gives source s value
  · obtain ⟨value, h⟩ := hgiven
    obtain ⟨_, -, -, hbare⟩ := id h
    have hchosen : Chosen source s Means default a ↔ Means value a := by
      constructor
      · rintro (⟨value', h', hmeans⟩ | ⟨hno, -⟩)
        · rwa [h.unique h']
        · exact absurd h (hno value)
      · exact fun hmeans => Or.inl ⟨value, h, hmeans⟩
    rw [hchosen, ← hread.ok_iff hbare, settingOr_of_gives h]
    cases read value <;> simp
  · have hno := not_exists.mp hgiven
    rw [settingOr, given?_eq_none_iff.mpr hno]
    constructor
    · intro h
      exact Or.inr ⟨hno, (Except.ok.inj h).symm⟩
    · rintro (⟨value, h, -⟩ | ⟨-, rfl⟩)
      · exact absurd h (hno value)
      · rfl

/-- Where a setting cannot be read, it is given a value that means nothing, and this value is
shown in the problem. -/
theorem settingOr_eq_error (hread : Understands read Means) {problem : ConfigProblem}
    (h : settingOr source s read default = .error problem) :
    ∃ value p, problem = .invalid s p ∧ p.value? = some value ∧ Gives source s value ∧
      ∀ a, ¬ Means value a := by
  cases hgiven : given? source s with
  | none =>
      rw [settingOr, hgiven] at h
      cases h
  | some value =>
      have hvalue := given?_eq_some_iff.mp hgiven
      obtain ⟨_, -, -, hbare⟩ := id hvalue
      rw [settingOr_of_gives hvalue] at h
      cases hr : read value with
      | ok a =>
          rw [hr] at h
          cases h
      | error p =>
          rw [hr] at h
          refine ⟨value, p, (Except.error.inj h).symm, hread.shown hr, hvalue, ?_⟩
          intro a ha
          rw [(hread.ok_iff hbare).mpr ha] at hr
          cases hr

theorem Chosen.accepts (h : Chosen source s Means default a)
    (haccepts : ∀ value a, Means value a → s.Accepts value) :
    ∀ value, Gives source s value → s.Accepts value := by
  intro value hvalue
  rcases h with ⟨value', hvalue', hmeans⟩ | ⟨hno, -⟩
  · rw [hvalue.unique hvalue']
    exact haccepts value' a hmeans
  · exact absurd hvalue (hno value)

end One

/-! ## All settings -/

/-- The settings that are read as something else than text, in the order in which they are read. -/
def inOrder : List Setting :=
  [.contract, .fromBlock, .toBlock, .blockRange, .pageSize, .maxResults, .maxAttempts,
    .outputFormat, .throttle, .requestTimeout, .retryBackoff]

/-- A value that is given can be read. -/
def Passes (source : Variables) (s : Setting) : Prop :=
  ∀ value, Gives source s value → s.Accepts value

/-- A setting is the first one that is given a value which cannot be read. -/
def Blamed (source : Variables) (s : Setting) (value : Text) : Prop :=
  Gives source s value ∧ ¬ s.Accepts value ∧
    ∃ before after, inOrder = before ++ s :: after ∧ ∀ s' ∈ before, Passes source s'

/-- A configuration is made of the values that are given, and of the defaults for the others. -/
structure Assembled (source : Variables) (c : Config) : Prop where
  apiKey : Gives source .apiKey c.apiKey.reveal
  apiUrl : Chosen source .apiUrl Eq defaultUrl c.apiUrl
  contract : Chosen source .contract Octets.IsWritten depositContract c.contract
  eventTopic : c.eventTopic = depositTopic
  fromBlock : Chosen source .fromBlock MeansWord 29029018 c.fromBlock
  toBlock : Chosen source .toBlock MeansWord 38504792 c.toBlock
  blockRange : Chosen source .blockRange MeansWord 1000 c.blockRange
  pageSize : Chosen source .pageSize MeansWord 100 c.pageSize
  maxResults : Chosen source .maxResults MeansWord 10000 c.maxResults
  throttle : ∃ n : UInt64, Chosen source .throttle MeansWord 200 n ∧
    c.throttle.nanos = n.toNat * nanosPerMilli
  requestTimeout : ∃ n : UInt64, Chosen source .requestTimeout MeansWord 30 n ∧
    c.requestTimeout.nanos = n.toNat * nanosPerSecond
  maxAttempts : Chosen source .maxAttempts MeansHalfWord 3 c.maxAttempts
  retryBackoff : ∃ n : UInt64, Chosen source .retryBackoff MeansWord 500 n ∧
    c.retryBackoff.nanos = n.toNat * nanosPerMilli
  output : Chosen source .outputFormat OutputFormat.IsNamed .text c.output
  checkpointFile : ∀ path, c.checkpointFile = some path ↔ Gives source .checkpointFile path

/-- What comes of variables with a key: a setting is blamed, or a configuration is made and
checked. -/
def Judged (source : Variables) (result : Except ConfigProblem Config) : Prop :=
  (∃ s value p, Blamed source s value ∧ p.value? = some value ∧
      result = .error (.invalid s p)) ∨
    ∃ c, Assembled source c ∧ result = c.check

/-- Some settings have passed, and others are still to be read. -/
structure Passed (source : Variables) (before after : List Setting) : Prop where
  order : inOrder = before ++ after
  passes : ∀ s ∈ before, Passes source s

/-- **One setting is read.** It is blamed, or it passes too and the rest goes on with its value. -/
theorem judged_bind {α : Type} {s : Setting} {before after : List Setting}
    {read : Text → Except SettingProblem α} {Means : Text → α → Prop} {default : α}
    {rest : α → Except ConfigProblem Config} (hpassed : Passed source before (s :: after))
    (hread : Understands read Means) (haccepts : ∀ value, s.Accepts value ↔ ∃ a, Means value a)
    (hrest : ∀ a, Chosen source s Means default a → Passed source (before ++ [s]) after →
      Judged source (rest a)) :
    Judged source (settingOr source s read default >>= rest) := by
  cases h : settingOr source s read default with
  | error problem =>
      obtain ⟨value, p, rfl, hshown, hvalue, hno⟩ := settingOr_eq_error hread h
      have hrefused : ¬ s.Accepts value := by
        rw [haccepts, not_exists]
        exact hno
      exact Or.inl ⟨s, value, p,
        ⟨hvalue, hrefused, before, after, hpassed.order, hpassed.passes⟩, hshown, rfl⟩
  | ok a =>
      have hchosen := (settingOr_eq_ok_iff hread).mp h
      have hpasses : Passes source s :=
        hchosen.accepts fun value a hmeans => (haccepts value).mpr ⟨a, hmeans⟩
      refine hrest a hchosen ⟨?_, ?_⟩
      · rw [List.append_assoc, List.singleton_append]
        exact hpassed.order
      · intro s' hs'
        rcases List.mem_append.mp hs' with hs' | hs'
        · exact hpassed.passes s' hs'
        · rw [List.mem_singleton.mp hs']
          exact hpasses

/-- **Variables with a key** are judged. -/
theorem judged_ofVariables {key : Text} (hkey : Gives source .apiKey key) :
    Judged source (ofVariables source) := by
  have h₀ : Passed source [] inOrder := ⟨rfl, nofun⟩
  unfold ofVariables
  rw [given?_eq_some_iff.mpr hkey]
  refine judged_bind h₀ understands_address (fun _ => Iff.rfl) fun contract hcontract h₁ => ?_
  refine judged_bind h₁ understands_word (fun _ => Iff.rfl) fun fromBlock hfrom h₂ => ?_
  refine judged_bind h₂ understands_word (fun _ => Iff.rfl) fun toBlock hto h₃ => ?_
  refine judged_bind h₃ understands_word (fun _ => Iff.rfl) fun blockRange hrange h₄ => ?_
  refine judged_bind h₄ understands_word (fun _ => Iff.rfl) fun pageSize hsize h₅ => ?_
  refine judged_bind h₅ understands_word (fun _ => Iff.rfl) fun maxResults hresults h₆ => ?_
  refine judged_bind h₆ understands_halfWord (fun _ => Iff.rfl) fun attempts hattempts h₇ => ?_
  refine judged_bind h₇ understands_format (fun _ => Iff.rfl) fun output houtput h₈ => ?_
  refine judged_bind h₈ understands_word (fun _ => Iff.rfl) fun throttle hthrottle h₉ => ?_
  refine judged_bind h₉ understands_word (fun _ => Iff.rfl) fun timeout htimeout h₁₀ => ?_
  refine judged_bind h₁₀ understands_word (fun _ => Iff.rfl) fun backoff hbackoff _ => ?_
  have hurl : Chosen source .apiUrl Eq defaultUrl ((given? source .apiUrl).getD defaultUrl) := by
    cases hgiven : given? source .apiUrl with
    | none => exact Or.inr ⟨given?_eq_none_iff.mp hgiven, rfl⟩
    | some url => exact Or.inl ⟨url, given?_eq_some_iff.mp hgiven, rfl⟩
  refine Or.inr ⟨_, ?_, rfl⟩
  exact {
    apiKey := hkey
    apiUrl := hurl
    contract := hcontract
    eventTopic := rfl
    fromBlock := hfrom
    toBlock := hto
    blockRange := hrange
    pageSize := hsize
    maxResults := hresults
    throttle := ⟨throttle, hthrottle, Duration.nanos_ofMillis throttle⟩
    requestTimeout := ⟨timeout, htimeout, Duration.nanos_ofSeconds timeout⟩
    maxAttempts := hattempts
    retryBackoff := ⟨backoff, hbackoff, Duration.nanos_ofMillis backoff⟩
    output := houtput
    checkpointFile := fun _ => given?_eq_some_iff }

/-! ## The first one to blame, and the configuration -/

/-- Text is taken as it is. -/
theorem understands_text : Understands (fun t => .ok t) Eq where
  ok_iff := by
    intro t a _
    rw [Except.ok.injEq]
  shown := nofun

theorem Chosen.unique {α : Type} {s : Setting} {read : Text → Except SettingProblem α}
    {Means : Text → α → Prop} {default a b : α} (hread : Understands read Means)
    (ha : Chosen source s Means default a) (hb : Chosen source s Means default b) : a = b := by
  rw [← settingOr_eq_ok_iff hread] at ha hb
  exact Except.ok.inj (ha.symm.trans hb)

/-- There is one configuration at most that the values make up. -/
theorem Assembled.unique {c c' : Config} (h : Assembled source c) (h' : Assembled source c') :
    c = c' := by
  have hduration : ∀ {s : Setting} {default : UInt64} {unit : ℕ} {d d' : Duration},
      (∃ n : UInt64, Chosen source s MeansWord default n ∧ d.nanos = n.toNat * unit) →
        (∃ n : UInt64, Chosen source s MeansWord default n ∧ d'.nanos = n.toNat * unit) →
          d = d' := by
    rintro s default unit d d' ⟨n, hn, hd⟩ ⟨n', hn', hd'⟩
    rw [hn.unique understands_word hn'] at hd
    exact Duration.nanos_injective (hd.trans hd'.symm)
  have hkey : c.apiKey = c'.apiKey := congrArg ApiKey.mk (h.apiKey.unique h'.apiKey)
  have hfile : c.checkpointFile = c'.checkpointFile := by
    apply Option.ext
    intro path
    rw [h.checkpointFile, h'.checkpointFile]
  obtain ⟨_, _, _, _, _, _, _, _, _, _, _, _, _, _, _⟩ := c
  obtain ⟨_, _, _, _, _, _, _, _, _, _, _, _, _, _, _⟩ := c'
  simp only [mk.injEq]
  exact ⟨hkey, h.apiUrl.unique understands_text h'.apiUrl,
    h.contract.unique understands_address h'.contract, h.eventTopic.trans h'.eventTopic.symm,
    h.fromBlock.unique understands_word h'.fromBlock,
    h.toBlock.unique understands_word h'.toBlock,
    h.blockRange.unique understands_word h'.blockRange,
    h.pageSize.unique understands_word h'.pageSize,
    h.maxResults.unique understands_word h'.maxResults, hduration h.throttle h'.throttle,
    hduration h.requestTimeout h'.requestTimeout,
    h.maxAttempts.unique understands_halfWord h'.maxAttempts,
    hduration h.retryBackoff h'.retryBackoff, h.output.unique understands_format h'.output, hfile⟩

/-- Where the values make up a configuration, none of them is refused. -/
theorem Assembled.passes {c : Config} (h : Assembled source c) (s : Setting) :
    Passes source s := by
  obtain ⟨_, hthrottle, -⟩ := h.throttle
  obtain ⟨_, htimeout, -⟩ := h.requestTimeout
  obtain ⟨_, hbackoff, -⟩ := h.retryBackoff
  cases s with
  | apiKey | apiUrl | checkpointFile => exact fun _ _ => trivial
  | contract => exact h.contract.accepts fun _ a ha => ⟨a, ha⟩
  | fromBlock => exact h.fromBlock.accepts fun _ n hn => ⟨n, hn⟩
  | toBlock => exact h.toBlock.accepts fun _ n hn => ⟨n, hn⟩
  | blockRange => exact h.blockRange.accepts fun _ n hn => ⟨n, hn⟩
  | pageSize => exact h.pageSize.accepts fun _ n hn => ⟨n, hn⟩
  | maxResults => exact h.maxResults.accepts fun _ n hn => ⟨n, hn⟩
  | throttle => exact hthrottle.accepts fun _ n hn => ⟨n, hn⟩
  | requestTimeout => exact htimeout.accepts fun _ n hn => ⟨n, hn⟩
  | maxAttempts => exact h.maxAttempts.accepts fun _ n hn => ⟨n, hn⟩
  | retryBackoff => exact hbackoff.accepts fun _ n hn => ⟨n, hn⟩
  | outputFormat => exact h.output.accepts fun _ f hf => ⟨f, hf⟩

/-- There is one setting at most to blame: the first one that does not pass. -/
theorem Blamed.unique {s s' : Setting} {value value' : Text} (h : Blamed source s value)
    (h' : Blamed source s' value') : s = s' ∧ value = value' := by
  classical
  have hfirst : ∀ {s value}, Blamed source s value →
      inOrder.find? (fun s => ¬ Passes source s) = some s := by
    rintro s value ⟨hgives, hrefused, before, after, horder, hbefore⟩
    rw [List.find?_eq_some_iff_append]
    refine ⟨?_, before, after, horder, ?_⟩
    · simpa using fun hpasses => hrefused (hpasses value hgives)
    · simpa using hbefore
  obtain rfl := Option.some.inj ((hfirst h).symm.trans (hfirst h'))
  exact ⟨rfl, h.1.unique h'.1⟩

theorem ofVariables_of_no_key (h : ∀ key, ¬ Gives source .apiKey key) :
    ofVariables source = .error .noApiKey := by
  rw [ofVariables, given?_eq_none_iff.mpr h]

/-- The configuration that the values make up is checked. -/
theorem ofVariables_of_assembled {c : Config} (h : Assembled source c) :
    ofVariables source = c.check := by
  rcases judged_ofVariables h.apiKey with ⟨s, value, -, ⟨hgives, hrefused, -⟩, -, -⟩ | ⟨c', h', hc'⟩
  · exact absurd (h.passes s value hgives) hrefused
  · rw [hc', h.unique h']

/-- The setting to blame is blamed, and its value is shown. -/
theorem ofVariables_of_blamed {key : Text} (hkey : Gives source .apiKey key) {s : Setting}
    {value : Text} (h : Blamed source s value) :
    ∃ p, ofVariables source = .error (.invalid s p) ∧ p.value? = some value := by
  rcases judged_ofVariables hkey with ⟨s', value', p, h', hp, hresult⟩ | ⟨c, hc, -⟩
  · obtain ⟨rfl, rfl⟩ := h.unique h'
    exact ⟨p, hresult, hp⟩
  · exact absurd (hc.passes s value h.1) h.2.1

theorem check_eq_ok_iff {c c' : Config} : c.check = .ok c' ↔ c' = c ∧ c.Fits := by
  rw [← problem?_eq_none_iff, check]
  cases c.problem? <;> simp [eq_comm]

theorem check_eq_error_iff {c : Config} {p : ConfigProblem} :
    c.check = .error p ↔ c.Misfit p := by
  rw [← problem?_eq_some_iff, check]
  cases c.problem? <;> simp

/-- A condition that is not met is no value that cannot be read. -/
theorem Misfit.value? {c : Config} {s : Setting} {p : SettingProblem}
    (h : c.Misfit (.invalid s p)) : p.value? = none := by
  cases h <;> rfl

/-- **A configuration comes of variables** if their values make it up and it fits. -/
theorem ofVariables_eq_ok_iff {c : Config} :
    ofVariables source = .ok c ↔ Assembled source c ∧ c.Fits := by
  constructor
  · intro h
    by_cases hkey : ∃ key, Gives source .apiKey key
    · obtain ⟨key, hkey⟩ := hkey
      rcases judged_ofVariables hkey with ⟨_, _, _, -, -, hresult⟩ | ⟨c', hc', hresult⟩
      · rw [hresult] at h
        cases h
      · rw [hresult] at h
        obtain ⟨rfl, hfits⟩ := check_eq_ok_iff.mp h
        exact ⟨hc', hfits⟩
    · rw [ofVariables_of_no_key (not_exists.mp hkey)] at h
      cases h
  · rintro ⟨h, hfits⟩
    rw [ofVariables_of_assembled h, check_eq_ok_iff]
    exact ⟨rfl, hfits⟩

/-- **Variables are decided by their values.** Blanks around a value do not count, and a variable
of nothing but blanks counts as none. Without a key this is the problem. With a key the problem is
the first setting in order whose value cannot be read, and this value is shown in it. If there is
none, values and defaults make up one configuration; the problem is the first condition that it
does not meet, and there is no problem if it meets them all. So every configuration that comes
of variables passes its check, and its pages hold the results that are served. -/
theorem ofVariables_decides (source : Variables) :
    (∀ source', (∀ s value, Gives source' s value ↔ Gives source s value) →
        ofVariables source' = ofVariables source) ∧
      (ofVariables source = .error .noApiKey ↔ ∀ key, ¬ Gives source .apiKey key) ∧
      (∀ key, Gives source .apiKey key →
        (∀ s value, Blamed source s value ↔
          ∃ p, ofVariables source = .error (.invalid s p) ∧ p.value? = some value) ∧
        ((∀ s value, ¬ Blamed source s value) → ∃ c, Assembled source c ∧
          (∀ p, ofVariables source = .error p ↔ c.Misfit p) ∧
          ∀ c', ofVariables source = .ok c' ↔ c' = c ∧ c.Fits)) ∧
      ∀ c, ofVariables source = .ok c → c.check = .ok c ∧ 1 ≤ c.maxPages ∧
        c.pageSize.toNat * c.maxPages ≤ c.maxResults.toNat ∧
        c.maxResults.toNat < c.pageSize.toNat * (c.maxPages + 1) := by
  refine ⟨?_, ?_, ?_, ?_⟩
  · intro source' h
    have hgiven : ∀ s, given? source' s = given? source s := by
      intro s
      apply Option.ext
      intro value
      rw [given?_eq_some_iff, given?_eq_some_iff, h]
    simp only [ofVariables, settingOr, hgiven]
  · constructor
    · intro h key hkey
      rcases judged_ofVariables hkey with ⟨_, _, _, -, -, hresult⟩ | ⟨c, -, hresult⟩
      · rw [hresult] at h
        cases h
      · rw [hresult, check_eq_error_iff] at h
        cases h
    · exact ofVariables_of_no_key
  · intro key hkey
    refine ⟨fun s value => ⟨ofVariables_of_blamed hkey, ?_⟩, ?_⟩
    · rintro ⟨p, h, hp⟩
      rcases judged_ofVariables hkey with ⟨s', value', p', hblamed, hp', hresult⟩ | ⟨c, -, hresult⟩
      · rw [hresult, Except.error.injEq, ConfigProblem.invalid.injEq] at h
        obtain ⟨rfl, rfl⟩ := h
        rw [hp, Option.some.injEq] at hp'
        rwa [hp']
      · -- a condition that is not met shows no value
        rw [hresult, check_eq_error_iff] at h
        rw [h.value?] at hp
        cases hp
    · intro hno
      rcases judged_ofVariables hkey with ⟨s, value, _, hblamed, -, -⟩ | ⟨c, hc, hresult⟩
      · exact absurd hblamed (hno s value)
      · rw [hresult]
        exact ⟨c, hc, fun p => check_eq_error_iff, fun c' => check_eq_ok_iff⟩
  · intro c h
    obtain ⟨-, hfits⟩ := ofVariables_eq_ok_iff.mp h
    exact ⟨check_eq_ok_iff.mpr ⟨rfl, hfits⟩, hfits.maxPages_pos, hfits.mul_maxPages⟩

/-- A key, and an end of the blocks that is no number, that lies below the default start, or that
lies above it; and the second one with blanks around it. -/
theorem ofVariables_decides_ends :
    let sourceOf (toBlock : String) : Variables := fun name =>
      if name = Setting.apiKey.name then some " abc".toList
      else if name = Setting.toBlock.name then some toBlock.toList else none
    (∀ s value, Gives (sourceOf " 20\t") s value ↔ Gives (sourceOf "20") s value) ∧
      ofVariables (sourceOf " 20\t") = ofVariables (sourceOf "20") ∧
      Gives (sourceOf "lots") .apiKey "abc".toList ∧
      Blamed (sourceOf "lots") .toBlock "lots".toList ∧
      Gives (sourceOf "20") .apiKey "abc".toList ∧ (∀ s value, ¬ Blamed (sourceOf "20") s value) ∧
      (∃ c, Assembled (sourceOf "20") c ∧
        c.Misfit (.invalid .fromBlock (.notBelow 29029018 20))) ∧
      ∃ c, ofVariables (sourceOf "29029020") = .ok c ∧ c.check = .ok c ∧ 1 ≤ c.maxPages := by
  intro sourceOf
  have hgiven : ∀ toBlock, given? (sourceOf toBlock) .apiKey = some "abc".toList := fun _ => rfl
  have hkey : ∀ toBlock, Gives (sourceOf toBlock) .apiKey "abc".toList := fun toBlock =>
    given?_eq_some_iff.mp (hgiven toBlock)
  have hblanks : ∀ s value, Gives (sourceOf " 20\t") s value ↔ Gives (sourceOf "20") s value := by
    have hsame : ∀ s, given? (sourceOf " 20\t") s = given? (sourceOf "20") s := by
      intro s
      cases s <;> rfl
    intro s value
    rw [← given?_eq_some_iff, ← given?_eq_some_iff, hsame]
  have hlots : ofVariables (sourceOf "lots")
      = .error (.invalid .toBlock (.notNumber "lots".toList .badDigit)) := rfl
  have hbelow : ofVariables (sourceOf "20")
      = .error (.invalid .fromBlock (.notBelow 29029018 20)) := rfl
  obtain ⟨-, -, hdecides, -⟩ := ofVariables_decides (sourceOf "lots")
  obtain ⟨hsame, -, hdecided, -⟩ := ofVariables_decides (sourceOf "20")
  obtain ⟨-, -, -, hfits⟩ := ofVariables_decides (sourceOf "29029020")
  obtain ⟨hblamed, hassembled⟩ := hdecided _ (hkey "20")
  have hno : ∀ s value, ¬ Blamed (sourceOf "20") s value := by
    intro s value h
    obtain ⟨p, hp, hvalue⟩ := (hblamed s value).mp h
    rw [hbelow, Except.error.injEq, ConfigProblem.invalid.injEq] at hp
    rw [← hp.2] at hvalue
    cases hvalue
  obtain ⟨c, hc, hmisfit, -⟩ := hassembled hno
  have hok : ∃ c, ofVariables (sourceOf "29029020") = .ok c := ⟨_, rfl⟩
  obtain ⟨c', hc'⟩ := hok
  exact ⟨hblanks, hsame _ hblanks, hkey "lots",
    ((hdecides _ (hkey "lots")).1 _ _).mpr ⟨_, hlots, rfl⟩, hkey "20", hno,
    ⟨c, hc, (hmisfit _).mp hbelow⟩, c', hc', (hfits c' hc').1, (hfits c' hc').2.1⟩

end Config

end DepositTrail
