import DepositTrail.Proofs.EnvelopeBodies
import DepositTrail.Proofs.HeldLogs
import DepositTrail.Proofs.Utf8

set_option autoImplicit false

/-! # Explorers for any logs

Whatever logs there are, there is an explorer that holds them (`Explorer.ofLogs_holds`). It
replies to each request with the logs that are asked for, written as JSON: an array of status,
message and result, in which each log is an array of its three values. An envelope that is
written in this way comes back to the client (`Reply.envelope?_saying`), since what is written for
a value is cut into the tokens of this value.
-/

namespace DepositTrail

/-! ## Envelopes that are written -/

/-- An envelope as an array of its parts. -/
def Envelope.toJson (e : Envelope) : Json := .arr [.str e.status, .str e.message, e.result]

/-- Behind a comma the next element comes, unless the array ends there. -/
theorem Envelope.takeNext_comma {α : Type}
    (take : List Json.Token → Except Envelope.Problem (α × List Json.Token))
    {ks : List Json.Token} (h : Json.Begins ks) :
    takeNext take (.comma :: ks) = (take ks).map fun r => (some r.1, r.2) := by
  obtain ⟨k, rest, rfl, hk⟩ := h
  cases k <;> first | rfl | exact absurd rfl hk

theorem Envelope.take_toJson {e : Envelope} (h : Json.Plain 126 e.result) :
    take (Json.tokensOf e.toJson) = .ok ({ e with result := e.result.normal }, []) := by
  have hcut : Json.tokensOf e.toJson
      = .openList :: .string (.ok e.status) none :: .comma :: .string (.ok e.message) none
          :: .comma :: (Json.tokensOf e.result ++ [.closeList]) := by
    simp [toJson, Json.tokensOf, Json.tokensOfItems]
  have hbegins : Json.Begins (Json.tokensOf e.result ++ [.closeList]) := by
    obtain ⟨k, ks, hks, hk⟩ := Json.begins_tokensOf e.result
    exact ⟨k, ks ++ [.closeList], by rw [hks, List.cons_append], hk⟩
  have hresult := takeNext_comma takeResult hbegins
  rw [takeResult_tokensOf h] at hresult
  have hmessage : takeNext takeText (.comma :: .string (.ok e.message) none
      :: .comma :: (Json.tokensOf e.result ++ [.closeList]))
        = .ok (some e.message, .comma :: (Json.tokensOf e.result ++ [.closeList])) := rfl
  rw [hcut]
  simp only [take, takeArray, takeText, bind, Except.bind, hmessage, hresult]
  rfl

theorem Envelope.read_toJson {e : Envelope} (h : Json.Plain 126 e.result) :
    Envelope.read e.toJson.write = .ok { e with result := e.result.normal } := by
  have hplain : Json.Plain 127 e.toJson := by
    refine .arr ?_
    simp only [List.forall_mem_cons]
    exact ⟨.str _, .str _, h, List.forall_mem_nil _⟩
  rw [read, (Json.isTextOf_write hplain).tokens hplain, take_toJson h]

/-- The reply that says what is in an envelope. -/
def Reply.saying (e : Envelope) : Reply := .ofBody e.toJson.write

/-- **An envelope that is replied** comes back, with its result in order. -/
theorem Reply.envelope?_saying {e : Envelope} (h : Json.Plain 126 e.result) :
    (Reply.saying e).attempt.envelope? = some { e with result := e.result.normal } := by
  have hbody : (Reply.saying e).attempt = .ok e.toJson.write := by
    show Except.ok (Text.decodeBody e.toJson.write.utf8) = _
    rw [Text.decodeBody_utf8]
    exact fun hmark => absurd (Option.some.inj hmark) (by decide)
  rw [hbody, Attempt.envelope?, Attempt.reading, Envelope.read_toJson h]
  rfl

/-! ## Logs that are written -/

/-- Values that are in order stay as they are. -/
theorem Json.normalItems_eq_self {items : List Json} (h : ∀ v ∈ items, v.normal = v) :
    normalItems items = items := by
  rw [normalItems_eq_map, List.map_congr_left h, List.map_id']

namespace RawLog

/-- A log as an array of its values. -/
def toJson (log : RawLog) : Json :=
  .arr [.arr (log.topics.map .str), .str log.data, .str log.blockNumber]

theorem ofJson?_toJson (log : RawLog) : ofJson? log.toJson = some log := by
  have htopics : (log.topics.map Json.str).mapM Json.text? = some log.topics :=
    Json.mapM_text?_eq_some_iff.mpr rfl
  show (do
    let topics ← (log.topics.map Json.str).mapM Json.text?
    return (⟨topics, log.data, log.blockNumber⟩ : RawLog)) = some log
  rw [htopics]
  rfl

theorem plain_toJson (log : RawLog) {depth : ℕ} : Json.Plain (depth + 2) log.toJson := by
  have htopics : ∀ v ∈ log.topics.map Json.str, Json.Plain depth v :=
    List.forall_mem_map.mpr fun t _ => .str t
  refine .arr ?_
  simp only [List.forall_mem_cons]
  exact ⟨.arr htopics, .str _, .str _, List.forall_mem_nil _⟩

theorem normal_toJson (log : RawLog) : log.toJson.normal = log.toJson := by
  have htopics : Json.normalItems (log.topics.map Json.str) = log.topics.map Json.str :=
    Json.normalItems_eq_self (List.forall_mem_map.mpr fun _ _ => rfl)
  simp [toJson, Json.normal, Json.normalItems, htopics]

/-- A log of a deposit of five empty strings. -/
def emptyDeposit (topic : Topic) (blockNumber : Text) : RawLog :=
  ⟨[topic.toText], "0x".toList ++ List.replicate 320 '0', blockNumber⟩

end RawLog

/-! ## Explorers -/

/-- The reply that hands out some logs. -/
def Reply.ofLogs (logs : List RawLog) : Reply :=
  .saying ⟨['1'], "OK".toList, .arr (logs.map RawLog.toJson)⟩

theorem Reply.envelope?_ofLogs (logs : List RawLog) :
    (Reply.ofLogs logs).attempt.envelope?
      = some ⟨['1'], "OK".toList, .arr (logs.map RawLog.toJson)⟩ := by
  have hplain : Json.Plain 126 (.arr (logs.map RawLog.toJson)) :=
    .arr (List.forall_mem_map.mpr fun log _ => log.plain_toJson)
  have hnormal : Json.normalItems (logs.map RawLog.toJson) = logs.map RawLog.toJson :=
    Json.normalItems_eq_self (List.forall_mem_map.mpr fun log _ => log.normal_toJson)
  rw [Reply.ofLogs, Reply.envelope?_saying hplain, Json.normal, hnormal]

/-- The explorer that hands out the logs of a list that are asked for. -/
def Explorer.ofLogs (l : List HeldLog) : Explorer Unit := fun s r =>
  ((if (pageOf l r).isEmpty then Reply.noRecords
    else Reply.ofLogs ((pageOf l r).map HeldLog.raw)).attempt, s)

/-- **There is an explorer that holds the logs of a list**, whatever they are. -/
theorem Explorer.ofLogs_holds {c : Config} (hc : (Client.ofConfig c).endpoint.isSome)
    (l : List HeldLog) : (Explorer.ofLogs l).Holds c l := by
  intro s r
  rw [Client.send_of_endpoint hc]
  by_cases hpage : pageOf l r = []
  · simp only [Explorer.ofLogs, hpage, List.isEmpty_nil, if_true]
    exact Tells.noRecords hpage
  · have hsome : (pageOf l r).isEmpty = false := List.isEmpty_eq_false_iff.mpr hpage
    simp only [Explorer.ofLogs, hsome, Bool.false_eq_true, if_false]
    refine ⟨_, Reply.envelope?_ofLogs _, Or.inl ⟨rfl, _, rfl, ?_⟩⟩
    rw [List.map_map, List.map_map]
    exact List.map_congr_left fun x _ => x.raw.ofJson?_toJson

end DepositTrail
