import DepositTrail.Endpoint
import DepositTrail.Envelope
import DepositTrail.Explorer

set_option autoImplicit false

/-! # Asking with patience

A client asks for one page until it has a body, until a failure comes that no second try can
mend, or until its attempts are used up. Before each new attempt it waits, twice as long as the
time before.

`pursue` is this rule alone, on anything that can be tried again and again; its result lists
the failures after which another attempt was made, each with the wait before it.
-/

namespace DepositTrail

/-- How a question was pursued: the failures that were tried again, with the waits after them,
the last attempt, and the state left behind. -/
structure Course (σ : Type) where
  retried : List (Failure × Duration)
  last : Attempt
  state : σ

/-- Make one attempt, and at most so many more as long as it can help. -/
def pursue {σ : Type} (send : σ → Attempt × σ) : Nat → Duration → σ → Course σ
  | 0, _, s => ⟨[], (send s).1, (send s).2⟩
  | left + 1, wait, s =>
      match send s with
      | (.ok body, s) => ⟨[], .ok body, s⟩
      | (.error f, s) =>
          if f.isRetryable then
            let c := pursue send left wait.double s
            { c with retried := (f, wait) :: c.retried }
          else ⟨[], .error f, s⟩

structure Client where
  endpoint : Option Endpoint
  maxAttempts : Nat
  backoff : Duration
deriving Repr, DecidableEq

namespace Client

/-- The client of a configuration; at least one attempt is made. -/
def ofConfig (c : Config) : Client where
  endpoint := Endpoint.read? c.apiUrl
  maxAttempts := max 1 c.maxAttempts.toNat
  backoff := c.retryBackoff

/-- One attempt: without a usable address nobody is asked. -/
def send {σ : Type} (client : Client) (explorer : Explorer σ) (r : PageRequest) (s : σ) :
    Attempt × σ :=
  match client.endpoint with
  | none => (.error .unusableUrl, s)
  | some _ => explorer s r

def ask {σ : Type} (client : Client) (explorer : Explorer σ) (r : PageRequest) (s : σ) :
    Course σ :=
  pursue (client.send explorer r) (client.maxAttempts - 1) client.backoff s

/-- The target of a request, if the client can send any. -/
def target? (client : Client) (r : PageRequest) : Option Text :=
  client.endpoint.map (Endpoint.target · r)

end Client

/-- One attempt for a request, and how it ended. -/
structure Exchange where
  request : PageRequest
  attempt : Attempt

def Course.exchanges {σ : Type} (c : Course σ) (r : PageRequest) : List Exchange :=
  c.retried.map (fun f => ⟨r, .error f.1⟩) ++ [⟨r, c.last⟩]

/-- The targets of the requests that have arrived at the explorer. -/
def Client.targets (client : Client) (exchanges : List Exchange) : List Text :=
  (exchanges.filter fun x => x.attempt.arrived).filterMap fun x => client.target? x.request

end DepositTrail
