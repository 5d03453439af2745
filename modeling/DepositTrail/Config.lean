import DepositTrail.Address
import DepositTrail.Duration

set_option autoImplicit false

/-! # Configuration

What one scan is told: whom to ask, for which logs, over which blocks, in which portions, how
patiently, and where to put what it finds. `Config.check` says whether the parts fit together;
a scan starts only if they do.

Every problem names the setting it is about, by the name of its environment variable.
-/

namespace DepositTrail

/-- The key with which the explorer knows its customer. Descriptions never show it. -/
structure ApiKey where
  reveal : Text
deriving Repr, DecidableEq

/-- How deposits are written. -/
inductive OutputFormat
  | text
  | jsonLines
deriving Repr, DecidableEq

/-- Read the name of a format, whatever its case and the blanks around it; otherwise the name
as it was understood is handed back. -/
def OutputFormat.read (t : Text) : Except Text OutputFormat :=
  let name := t.trim.lower
  if name = "text".toList then .ok .text
  else if name = "jsonl".toList ∨ name = "json-lines".toList then .ok .jsonLines
  else .error name

def OutputFormat.unknownMessage (name : Text) : String :=
  "unknown output format '" ++ String.ofList name ++ "' (expected text or jsonl)"

/-- The settings of a scan, one for each environment variable. -/
inductive Setting
  | apiKey
  | apiUrl
  | contract
  | fromBlock
  | toBlock
  | blockRange
  | pageSize
  | maxResults
  | throttle
  | requestTimeout
  | maxAttempts
  | retryBackoff
  | outputFormat
  | checkpointFile
deriving Repr, DecidableEq

def Setting.name : Setting → String
  | .apiKey => "GNOSISSCAN_API_KEY"
  | .apiUrl => "GNOSISSCAN_API_URL"
  | .contract => "DEPOSIT_CONTRACT"
  | .fromBlock => "SCAN_FROM_BLOCK"
  | .toBlock => "SCAN_TO_BLOCK"
  | .blockRange => "BLOCK_RANGE"
  | .pageSize => "PAGE_SIZE"
  | .maxResults => "MAX_RESULTS"
  | .throttle => "THROTTLE_MS"
  | .requestTimeout => "REQUEST_TIMEOUT_SECS"
  | .maxAttempts => "MAX_ATTEMPTS"
  | .retryBackoff => "RETRY_BACKOFF_MS"
  | .outputFormat => "OUTPUT_FORMAT"
  | .checkpointFile => "CHECKPOINT_DB"

/-! ## Problems -/

inductive SettingProblem
  | notNumber (value : Text) (reason : NumeralProblem)
  | notAddress (value : Text) (reason : HexProblem)
  | notFormat (value understood : Text)
  | notBelow (fromBlock toBlock : UInt64)
  | notPositive
  | belowPageSize (maxResults pageSize : UInt64)
  | noAttempt
deriving Repr, DecidableEq

/-- A value between single quotation marks, and what is wrong with it. -/
def SettingProblem.about (value : Text) (reason : String) : String :=
  "'" ++ String.ofList value ++ "': " ++ reason

def SettingProblem.message : SettingProblem → String
  | .notNumber value reason => about value reason.message
  | .notAddress value reason => about value (Octets.problemMessage reason)
  | .notFormat value understood => about value (OutputFormat.unknownMessage understood)
  | .notBelow fromBlock toBlock =>
      toString fromBlock ++ " must be below " ++ Setting.toBlock.name ++ " " ++ toString toBlock
  | .notPositive => "must be positive"
  | .belowPageSize maxResults pageSize =>
      toString maxResults ++ " is smaller than " ++ Setting.pageSize.name ++ " " ++
        toString pageSize
  | .noAttempt => "must be at least 1"

inductive ConfigProblem
  | noApiKey
  | invalid (setting : Setting) (problem : SettingProblem)
deriving Repr, DecidableEq

def ConfigProblem.message : ConfigProblem → String
  | .noApiKey => "You need to export " ++ Setting.apiKey.name
  | .invalid setting problem =>
      "Invalid value for " ++ setting.name ++ ": " ++ problem.message

/-! ## The settings together -/

/-- Everything one scan is told. -/
structure Config where
  apiKey : ApiKey
  apiUrl : Text
  contract : Address
  eventTopic : Topic
  fromBlock : UInt64
  toBlock : UInt64
  blockRange : UInt64
  pageSize : UInt64
  maxResults : UInt64
  throttle : Duration
  requestTimeout : Duration
  maxAttempts : UInt32
  retryBackoff : Duration
  output : OutputFormat
  checkpointFile : Option Text
deriving Repr, DecidableEq

namespace Config

def defaultUrl : Text := "https://api.gnosisscan.io/api".toList

def depositContract : Address :=
  ⟨[0x0b, 0x98, 0x05, 0x7e, 0xa3, 0x10, 0xf4, 0xd3, 0x1f, 0x2a,
    0x45, 0x2b, 0x41, 0x46, 0x47, 0x00, 0x7d, 0x16, 0x45, 0xd9], rfl⟩

/-- The topic of `DepositEvent(bytes,bytes,bytes,bytes,bytes)`. -/
def depositTopic : Topic :=
  ⟨[0x64, 0x9b, 0xbc, 0x62, 0xd0, 0xe3, 0x13, 0x42, 0xaf, 0xea, 0x4e, 0x5c, 0xd8, 0x2d, 0x40, 0x49,
    0xe7, 0xe1, 0xee, 0x91, 0x2f, 0xc0, 0x88, 0x9a, 0xa7, 0x90, 0x80, 0x3b, 0xe3, 0x90, 0x38, 0xc5],
    rfl⟩

/-- The scan that is made when only the key is given. -/
def default (apiKey : Text) : Config where
  apiKey := ⟨apiKey⟩
  apiUrl := defaultUrl
  contract := depositContract
  eventTopic := depositTopic
  fromBlock := 29029018
  toBlock := 38504792
  blockRange := 1000
  pageSize := 100
  maxResults := 10000
  throttle := Duration.ofMillis 200
  requestTimeout := Duration.ofSeconds 30
  maxAttempts := 3
  retryBackoff := Duration.ofMillis 500
  output := .text
  checkpointFile := none

/-- How many pages of a window the explorer serves. -/
def maxPages (c : Config) : Nat := c.maxResults.toNat / max c.pageSize.toNat 1

/-- The first thing about the settings that does not fit, in a fixed order. -/
def problem? (c : Config) : Option ConfigProblem :=
  if c.toBlock ≤ c.fromBlock then
    some (.invalid .fromBlock (.notBelow c.fromBlock c.toBlock))
  else if c.blockRange = 0 then some (.invalid .blockRange .notPositive)
  else if c.pageSize = 0 then some (.invalid .pageSize .notPositive)
  else if c.maxResults < c.pageSize then
    some (.invalid .maxResults (.belowPageSize c.maxResults c.pageSize))
  else if c.maxAttempts = 0 then some (.invalid .maxAttempts .noAttempt)
  else none

/-- The configuration itself, if its settings fit together. -/
def check (c : Config) : Except ConfigProblem Config :=
  match c.problem? with
  | some p => .error p
  | none => .ok c

/-! ## Description -/

def formatWord : OutputFormat → String
  | .text => "Text"
  | .jsonLines => "JsonLines"

/-- One line that shows every setting but the key. -/
def describe (c : Config) : String :=
  let shown (t : Text) : String := String.ofList t.quoted
  "Config \x7b api_key: ApiKey(***), api_url: " ++ shown c.apiUrl ++
    ", contract: " ++ String.ofList c.contract.toText ++
    ", event_topic: " ++ String.ofList c.eventTopic.toText ++
    ", from_block: " ++ toString c.fromBlock ++
    ", to_block: " ++ toString c.toBlock ++
    ", block_range: " ++ toString c.blockRange ++
    ", page_size: " ++ toString c.pageSize ++
    ", max_results: " ++ toString c.maxResults ++
    ", throttle: " ++ c.throttle.toText ++
    ", request_timeout: " ++ c.requestTimeout.toText ++
    ", max_attempts: " ++ toString c.maxAttempts ++
    ", retry_backoff: " ++ c.retryBackoff.toText ++
    ", output: " ++ formatWord c.output ++
    ", checkpoint_db: " ++
      (match c.checkpointFile with
        | none => "None"
        | some path => "Some(" ++ shown path ++ ")") ++
    " \x7d"

end Config

end DepositTrail
