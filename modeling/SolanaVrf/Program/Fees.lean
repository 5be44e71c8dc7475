import SolanaVrf.Api.Steel
import SolanaVrf.Api.QueueAccount

/-! # Fees and queue access

What a request costs, which queue is exempt, and the transfer from a queue to its
oracle. A queue account is opened on its whole data and written back after the
discriminator.
-/

namespace SolanaVrf
set_option autoImplicit false

open Pod Fallible

def isFeeExemptEphemeralQueue (queue : Pubkey) : Bool := queue == DEFAULT_EPHEMERAL_QUEUE

def cost (highPriority : Bool) : Nat :=
  if highPriority then VRF_HIGH_PRIORITY_LAMPORTS_COST else VRF_LAMPORTS_COST

def QueueItem.cost (item : QueueItem) : Nat := SolanaVrf.cost (item.priorityRequest == 1)

/-- Borrowing the lamports of one account twice fails. -/
def transferFee (queue oracle : Pubkey) (amount : Nat) (l : Ledger) : Except Fault Ledger := do
  require (queue ≠ oracle) (Fault.program .accountBorrowFailed)
  require (amount ≤ (l queue).lamports) (Fault.program .insufficientFunds)
  let l := l.setLamports queue ((l queue).lamports - amount)
  require ((l oracle).lamports + amount < u64Limit) (Fault.program .invalidArgument)
  return l.setLamports oracle ((l oracle).lamports + amount)

def ofProgram {α : Type} : Except ProgramError α → Except Fault α
  | .ok a => .ok a
  | .error e => .error (.program e)

def openQueue (l : Ledger) (queue : Pubkey) : Except Fault QueueAccount :=
  ofProgram (QueueAccount.load (l queue).data)

def queueHeader (l : Ledger) (queue : Pubkey) : Except Fault Queue :=
  ofProgram (Queue.tryFromBytes (l queue).data)

def storeQueue (l : Ledger) (queue : Pubkey) (q : QueueAccount) : Ledger :=
  l.setData queue ((l queue).data.take 8 ++ q.acc)

end SolanaVrf
