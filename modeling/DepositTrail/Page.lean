import DepositTrail.Window

set_option autoImplicit false

/-! # Pages

The explorer hands out the logs of a window in pages of equal size, counted from one, and no
more pages than its ceiling on results allows. A request names the window, the page and its
size, the contract and the customer's key.
-/

namespace DepositTrail

/-- A request for one page of the logs of a contract. The address and the key are texts, since
the explorer is asked with whatever is put there. -/
structure PageRequest where
  address : Text
  fromBlock : Nat
  toBlock : Nat
  page : Nat
  offset : Nat
  apiKey : ApiKey
deriving Repr, DecidableEq

/-- What all requests of a scan share. -/
structure PageTemplate where
  address : Address
  apiKey : ApiKey
  pageSize : Nat
  maxPages : Nat
deriving Repr, DecidableEq

namespace PageTemplate

def ofConfig (c : Config) : PageTemplate where
  address := c.contract
  apiKey := c.apiKey
  pageSize := c.pageSize.toNat
  maxPages := c.maxPages

def request (t : PageTemplate) (w : Window) (page : Nat) : PageRequest where
  address := t.address.checksummed
  fromBlock := w.first
  toBlock := w.stop
  page := page
  offset := t.pageSize
  apiKey := t.apiKey

/-- The requests for so many pages of a window, from one page on. -/
def pagesFrom (t : PageTemplate) (w : Window) : Nat → Nat → List PageRequest
  | 0, _ => []
  | n + 1, page => t.request w page :: pagesFrom t w n (page + 1)

def pages (t : PageTemplate) (w : Window) : List PageRequest := t.pagesFrom w t.maxPages 1

/-- The requests for at most `limit` pages of a window, and whether there are more. -/
def firstPages (t : PageTemplate) (w : Window) (limit : Nat) : List PageRequest × Bool :=
  (t.pagesFrom w (min limit t.maxPages) 1, limit < t.maxPages)

end PageTemplate

end DepositTrail
