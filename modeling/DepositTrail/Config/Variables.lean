import DepositTrail.Config

set_option autoImplicit false

/-! # Configuration from variables

Each setting is read from a variable of its own. Blanks around a value do not count, and a
value of nothing but blanks counts as none, so the default stays. The key alone has no
default. The variables are read in a fixed order, and the first one that cannot be read is
blamed; only then is it checked whether the settings fit together.
-/

namespace DepositTrail.Config

/-- A source of variables: the value of each one that is set. -/
abbrev Variables := String → Option Text

/-- The value of a setting without the blanks around it, unless there is nothing else. -/
def given? (source : Variables) (s : Setting) : Option Text :=
  match source s.name with
  | none => none
  | some raw => if raw.trim = [] then none else some raw.trim

/-- A setting that is read by `read`, or its default. -/
def settingOr {α : Type} (source : Variables) (s : Setting)
    (read : Text → Except SettingProblem α) (default : α) : Except ConfigProblem α :=
  match given? source s with
  | none => .ok default
  | some t =>
      match read t with
      | .ok a => .ok a
      | .error p => .error (.invalid s p)

def readWord (t : Text) : Except SettingProblem UInt64 :=
  match Text.readNumeral 10 UInt64.size t with
  | .ok n => .ok (UInt64.ofNat n)
  | .error p => .error (.notNumber t p)

def readHalfWord (t : Text) : Except SettingProblem UInt32 :=
  match Text.readNumeral 10 UInt32.size t with
  | .ok n => .ok (UInt32.ofNat n)
  | .error p => .error (.notNumber t p)

def readAddress (t : Text) : Except SettingProblem Address :=
  match Octets.read 20 t with
  | .ok a => .ok a
  | .error p => .error (.notAddress t p)

def readFormat (t : Text) : Except SettingProblem OutputFormat :=
  match OutputFormat.read t with
  | .ok f => .ok f
  | .error understood => .error (.notFormat t understood)

/-- Read a configuration from variables. -/
def ofVariables (source : Variables) : Except ConfigProblem Config := do
  let some key := given? source .apiKey | .error .noApiKey
  let base := Config.default key
  let contract ← settingOr source .contract readAddress base.contract
  let fromBlock ← settingOr source .fromBlock readWord base.fromBlock
  let toBlock ← settingOr source .toBlock readWord base.toBlock
  let blockRange ← settingOr source .blockRange readWord base.blockRange
  let pageSize ← settingOr source .pageSize readWord base.pageSize
  let maxResults ← settingOr source .maxResults readWord base.maxResults
  let maxAttempts ← settingOr source .maxAttempts readHalfWord base.maxAttempts
  let output ← settingOr source .outputFormat readFormat base.output
  let throttle ← settingOr source .throttle readWord 200
  let requestTimeout ← settingOr source .requestTimeout readWord 30
  let retryBackoff ← settingOr source .retryBackoff readWord 500
  check
    { apiKey := ⟨key⟩
      apiUrl := (given? source .apiUrl).getD defaultUrl
      contract, eventTopic := depositTopic, fromBlock, toBlock, blockRange, pageSize, maxResults
      throttle := Duration.ofMillis throttle
      requestTimeout := Duration.ofSeconds requestTimeout
      maxAttempts
      retryBackoff := Duration.ofMillis retryBackoff
      output
      checkpointFile := given? source .checkpointFile }

end DepositTrail.Config
