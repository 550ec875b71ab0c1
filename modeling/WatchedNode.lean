import WatchedNode.Remote
import WatchedNode.Store.Sessions
import WatchedNode.Scenario
import WatchedNode.Proofs.Loop.Stir
import WatchedNode.Proofs.Loop.Calm
import WatchedNode.Proofs.Notification
import WatchedNode.Proofs.Loop.Pulse
import WatchedNode.Proofs.Belief
import WatchedNode.Proofs.Loop.Stack
import WatchedNode.Proofs.Store.Speech
import WatchedNode.Proofs.Agreement
import WatchedNode.Proofs.Store.Transport
import WatchedNode.Proofs.Loop.Chores
import WatchedNode.Proofs.Store.Vigil
import WatchedNode.Proofs.Store.Sending
import WatchedNode.Proofs.Store.Account
import WatchedNode.Proofs.Store.Roll
import WatchedNode.Proofs.Loop.Standing
import WatchedNode.Proofs.Accounting
import WatchedNode.Proofs.Store.Watching
import WatchedNode.Proofs.Watching
import WatchedNode.Proofs.Closing
import WatchedNode.Proofs.Hearing
import WatchedNode.Proofs.Convergence
import WatchedNode.Proofs.Loop.Grain
import WatchedNode.Proofs.Loop.Seats
import WatchedNode.Proofs.Loop.Queue
import WatchedNode.Proofs.Loop.Workers
import WatchedNode.Proofs.Survival
import WatchedNode.Proofs.Loop.Record
import WatchedNode.Proofs.Loop.Pending
import WatchedNode.Proofs.Quiescence
import WatchedNode.Proofs.Discipline
import WatchedNode.Proofs.Listening
import WatchedNode.Proofs.Store.Probing
import WatchedNode.Proofs.Sparing
import WatchedNode.Proofs.Carriage
import WatchedNode.Proofs.Probing
import WatchedNode.Proofs.Protocol
import WatchedNode.Proofs.Loop.Answers
import WatchedNode.Proofs.Provenance
import WatchedNode.Proofs.Loop.Agenda
import WatchedNode.Proofs.Loop.Flights
import WatchedNode.Proofs.Loop.Ledger
import WatchedNode.Proofs.Loop.Onward
import WatchedNode.Proofs.Loop.Summons
import WatchedNode.Proofs.Settling
import WatchedNode.Proofs.Registry
import WatchedNode.Proofs.Store.Retry
import WatchedNode.Proofs.Retrying
import WatchedNode.Proofs.Starting
import WatchedNode.Proofs.Shutting
import WatchedNode.Proofs.Looking
import WatchedNode.Proofs.Keys
import WatchedNode.Proofs.Tokens
import WatchedNode.Proofs.Codec.Base64
import WatchedNode.Proofs.Codec.Inflate
import WatchedNode.Proofs.Codec.Archive
import WatchedNode.Proofs.Codec.Content
import WatchedNode.Proofs.Store.Passage
import WatchedNode.Proofs.Storing
import WatchedNode.Proofs.Store.Directories
import WatchedNode.Proofs.Store.Climb
import WatchedNode.Proofs.Attending
import WatchedNode.Proofs.Ensuring
import WatchedNode.Proofs.Store.Ending
import WatchedNode.Proofs.Manning
import WatchedNode.Proofs.Recovering
import WatchedNode.Proofs.Grammar
