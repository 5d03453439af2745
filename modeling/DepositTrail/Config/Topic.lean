import DepositTrail.Config

set_option autoImplicit false

/-! # The topic of deposits

The default topic is written out in the configuration, so that a scan does not compute it. The
statement here fails if a byte of it changes: it is the hash of the signature of the event with
which the contract records a deposit.
-/

namespace DepositTrail.Config

/-- The event with which the contract records a deposit. -/
def depositSignature : String := "DepositEvent(bytes,bytes,bytes,bytes,bytes)"

/-- The default topic is the hash of the signature. -/
theorem depositTopic_toList : depositTopic.toList = eventTopicBytes depositSignature := by
  decide +kernel

end DepositTrail.Config
