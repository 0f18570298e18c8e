import Conduit.Bench.Copying
import Conduit.Bench.Metered
import Conduit.Bench.Staged
import Conduit.Bench.Watch
import Conduit.Closing
import Conduit.Digest
import Conduit.Json.Text
import Conduit.Proofs.Buffer.Cursors
import Conduit.Proofs.Buffer.Queue
import Conduit.Proofs.Buffer.Scripts
import Conduit.Proofs.Buffer.Twins
import Conduit.Proofs.Closing
import Conduit.Proofs.Engine.Balance
import Conduit.Proofs.Engine.Blame
import Conduit.Proofs.Engine.Bounding
import Conduit.Proofs.Engine.BulkLedger
import Conduit.Proofs.Engine.BulkSteps
import Conduit.Proofs.Engine.Conveyance
import Conduit.Proofs.Engine.CopyLedger
import Conduit.Proofs.Engine.Counts
import Conduit.Proofs.Engine.Delivery
import Conduit.Proofs.Engine.EarlyLedger
import Conduit.Proofs.Engine.EarlyPath
import Conduit.Proofs.Engine.EarlySteps
import Conduit.Proofs.Engine.Ending
import Conduit.Proofs.Engine.Finishing
import Conduit.Proofs.Engine.Greeting
import Conduit.Proofs.Engine.Haste
import Conduit.Proofs.Engine.Keeping
import Conduit.Proofs.Engine.Ledger
import Conduit.Proofs.Engine.Lending
import Conduit.Proofs.Engine.Mirroring
import Conduit.Proofs.Engine.Notices
import Conduit.Proofs.Engine.Returning
import Conduit.Proofs.Engine.Splicing
import Conduit.Proofs.Engine.Staging
import Conduit.Proofs.Engine.Timing
import Conduit.Proofs.Engine.Transparency
import Conduit.Proofs.Fault.Crossing
import Conduit.Proofs.Fault.Joining
import Conduit.Proofs.Fault.Recovery
import Conduit.Proofs.Fault.Wording
import Conduit.Proofs.Peer.Conduct
import Conduit.Proofs.Sink.Conduct
import Conduit.Proofs.Sink.Descriptor
import Conduit.Proofs.Sink.Giving
import Conduit.Proofs.Sink.Greeting
import Conduit.Proofs.Sink.Landing
import Conduit.Proofs.Sink.Leading
import Conduit.Proofs.Sink.Merging
import Conduit.Proofs.Sink.Mirroring
import Conduit.Proofs.Sink.Muttering
import Conduit.Proofs.Sink.Timing
import Conduit.Proofs.Source.Custody
import Conduit.Proofs.Source.Draws
import Conduit.Proofs.Source.Flowing
import Conduit.Proofs.Source.Heeding
import Conduit.Proofs.Source.Layers
import Conduit.Proofs.Source.Leading
import Conduit.Proofs.Source.Merging
import Conduit.Proofs.Source.Piped
import Conduit.Proofs.Source.Reads
import Conduit.Proofs.Source.Replay
import Conduit.Proofs.Source.Restacking
import Conduit.Proofs.Source.Stacks
import Conduit.Proofs.Source.Stock
import Conduit.Proofs.Splice.Accounts
import Conduit.Proofs.Splice.Agreement
import Conduit.Proofs.Splice.Books
import Conduit.Proofs.Splice.Obliging
import Conduit.Proofs.Splice.Passage
import Conduit.Proofs.Splice.Pipes
import Conduit.Proofs.Splice.Sparing
import Conduit.Proofs.Splice.Steps
import Conduit.Proofs.Splice.Transfers
import Conduit.Proofs.Staged.Feeding
import Conduit.Proofs.Staged.Log
import Conduit.Proofs.Staged.Moving
import Conduit.Proofs.Staged.Pulling
import Conduit.Proofs.Transfer.Agreement
import Conduit.Proofs.Transfer.Conserving
import Conduit.Proofs.Transfer.Fetching
import Conduit.Proofs.Transfer.Filling
import Conduit.Proofs.Transfer.Likeness
import Conduit.Proofs.Transfer.Patience
import Conduit.Proofs.Transfer.Pouring
import Conduit.Proofs.Transfer.Stalling
import Conduit.Proofs.Transfer.Steady
import Conduit.Proofs.Transfer.Telling
import Conduit.Proofs.World.Agreement
import Conduit.Proofs.World.Elsewhere
import Conduit.Proofs.World.Estate
import Conduit.Proofs.World.Likeness
import Conduit.Proofs.World.Muttering
import Conduit.Proofs.World.Obliging
import Conduit.Proofs.World.Ownership
import Conduit.Proofs.World.Pools
import Conduit.Proofs.World.Residue
import Conduit.Proofs.World.Returns
import Conduit.Proofs.World.Routing
import Conduit.Proofs.World.Settling
import Conduit.Proofs.World.Sharing
import Conduit.Proofs.World.Tenancy
import Conduit.Proofs.World.Views
import Conduit.Settings.Form
