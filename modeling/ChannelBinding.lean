import ChannelBinding.Main
import ChannelBinding.Session.Job
import ChannelBinding.Proofs.World.Basic
import ChannelBinding.Proofs.World.Effect
import ChannelBinding.Proofs.World.Inversion
import ChannelBinding.Proofs.World.Account
import ChannelBinding.Proofs.Cells
import ChannelBinding.Proofs.Agreement
import ChannelBinding.Proofs.Custody
import ChannelBinding.Proofs.Sending
import ChannelBinding.Proofs.World.Change
import ChannelBinding.Proofs.HandOver
import ChannelBinding.Proofs.Shutdown
import ChannelBinding.Proofs.Wiring
import ChannelBinding.Proofs.EndToEnd
import ChannelBinding.Proofs.Failover
import ChannelBinding.Proofs.Holders
import ChannelBinding.Proofs.Bookkeeping
import ChannelBinding.Proofs.World.Observer
import ChannelBinding.Proofs.Representation
import ChannelBinding.Proofs.Alone
import ChannelBinding.Proofs.Meeting
import ChannelBinding.Proofs.Refusal
import ChannelBinding.Proofs.Rollback
import ChannelBinding.Proofs.Leftovers
import ChannelBinding.Proofs.InHand
import ChannelBinding.Proofs.Visits
import ChannelBinding.Proofs.Decision
import ChannelBinding.Proofs.Unbinding
import ChannelBinding.Proofs.Restart
import ChannelBinding.Proofs.Plan
import ChannelBinding.Proofs.Renaming
import ChannelBinding.Proofs.Mirror.Cache
import ChannelBinding.Proofs.Mirror.Binder
import ChannelBinding.Proofs.Mirror.System
import ChannelBinding.Proofs.Mirror.Frame
import ChannelBinding.Proofs.Mirror.Steps
import ChannelBinding.Proofs.Course
import ChannelBinding.Proofs.Mirror.Doings
import ChannelBinding.Proofs.Interference
import ChannelBinding.Proofs.Dispatch
import ChannelBinding.Proofs.Turns
import ChannelBinding.Proofs.Passage
import ChannelBinding.Proofs.Reports
import ChannelBinding.Proofs.Validity
import ChannelBinding.Proofs.Walk
import ChannelBinding.Proofs.Terms
import ChannelBinding.Proofs.Acceptance
import ChannelBinding.Proofs.Asking
import ChannelBinding.Proofs.Using
import ChannelBinding.Proofs.Clearance
import ChannelBinding.Proofs.Selection
import ChannelBinding.Proofs.Waiting
import ChannelBinding.Proofs.World.Posting
import ChannelBinding.Proofs.World.Journal
import ChannelBinding.Proofs.World.Transaction
import ChannelBinding.Proofs.Demo.Run
