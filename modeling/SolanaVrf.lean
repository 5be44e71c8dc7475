import SolanaVrf.Lib.Pod
import SolanaVrf.Lib.Slices
import SolanaVrf.Lib.Tiling
import SolanaVrf.Lib.Borsh
import SolanaVrf.Lib.Fallible
import SolanaVrf.Lib.Transition
import SolanaVrf.Lib.Nested
import SolanaVrf.Lib.EqualityProof
import SolanaVrf.Api.Basic
import SolanaVrf.Api.Queue
import SolanaVrf.Api.QueueAccount
import SolanaVrf.Api.Instruction
import SolanaVrf.Platform.Ledger
import SolanaVrf.Platform.Runtime
import SolanaVrf.Platform.System
import SolanaVrf.Api.Steel
import SolanaVrf.Api.Verify
import SolanaVrf.Program.Fees
import SolanaVrf.Program.Requests
import SolanaVrf.Program.Queues
import SolanaVrf.Queue.Records
import SolanaVrf.Queue.Scan
import SolanaVrf.Queue.Lookup
import SolanaVrf.Queue.Insert
import SolanaVrf.Queue.Remove
import SolanaVrf.Queue.Refinement
import SolanaVrf.Chain.Accounts
import SolanaVrf.Chain.Live
import SolanaVrf.Chain.Effects
import SolanaVrf.Chain.Requests
import SolanaVrf.Chain.World
import SolanaVrf.Chain.Books
import SolanaVrf.Chain.LifeCycle
import SolanaVrf.Chain.Solvency
import SolanaVrf.Chain.Identifiers
import SolanaVrf.Chain.Callbacks
import SolanaVrf.Chain.Registry
import SolanaVrf.Vrf.Group
import SolanaVrf.Vrf.Prover
import SolanaVrf.Vrf.Agreement
import SolanaVrf.Service.Scheduler
import SolanaVrf.Service.Tracking
import SolanaVrf.Service.Views
import SolanaVrf.Queue.OneByOne
import SolanaVrf.Chain.Bodies
import SolanaVrf.Chain.Usage
import SolanaVrf.Chain.Coherence
import SolanaVrf.Chain.Draining
import SolanaVrf.Service.Fulfilment
import SolanaVrf.Queue.Determined
import SolanaVrf.Queue.Layout
import SolanaVrf.Queue.Interface
import SolanaVrf.Queue.Totality
import SolanaVrf.Service.Expiry
import SolanaVrf.Service.Opening
import SolanaVrf.Service.Snapshots
import SolanaVrf.Service.Sending
import SolanaVrf.Service.Deadlines
import SolanaVrf.Service.Slots
import SolanaVrf.Service.Caches
import SolanaVrf.Chain.Moves
import SolanaVrf.Chain.Authority
import SolanaVrf.Service.Answers
import SolanaVrf.Service.Commands
import SolanaVrf.Service.RoundTrips
import SolanaVrf.Service.Delegation
