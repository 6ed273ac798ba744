import Conduit.Buffer.Consume
import Conduit.Buffer.Search
import Conduit.Connection.Sink
import Conduit.Proofs.Reader.Terminator
import Conduit.Reader.Channel
import Conduit.Session.Dispatch
import Conduit.Settings.Decode
import Conduit.Worker.Pool
import Conduit.Proofs.Reader.Units
import Conduit.Proofs.Reader.Closing
import Conduit.Proofs.Reader.Restarting
import Conduit.Proofs.Reader.Queue
import Conduit.Proofs.Chain.Run
import Conduit.Proofs.Chain.Trace
import Conduit.Proofs.Chain.Order
import Conduit.Proofs.Chain.Passes
import Conduit.Proofs.Chain.Balance
import Conduit.Proofs.Chain.Reruns
import Conduit.Proofs.Chain.Visits
import Conduit.Proofs.Session.Drain
import Conduit.Proofs.Session.Life
import Conduit.Proofs.Session.Fanout
import Conduit.Proofs.Session.Sending
import Conduit.Proofs.Session.Dispatching
import Conduit.Proofs.Attribute.Handle
import Conduit.Proofs.Attribute.Map
import Conduit.Proofs.Attribute.Refine
import Conduit.Proofs.Attribute.Alike
import Conduit.Proofs.Attribute.Reading
import Conduit.Proofs.Connection.Drivers
import Conduit.Proofs.Connection.Apart
import Conduit.Proofs.Connection.Passage
import Conduit.Proofs.Connection.Turns
import Conduit.Proofs.Connection.Feed
import Conduit.Proofs.Connection.Account
import Conduit.Proofs.Buffer.Consume
import Conduit.Proofs.Buffer.Shelf
import Conduit.Proofs.Buffer.Positions
import Conduit.Proofs.Connection.Delivery
import Conduit.Proofs.Attribute.Declare
import Conduit.Proofs.Arena.Circulation
import Conduit.Proofs.Arena.Ledger
import Conduit.Proofs.Worker.Units
import Conduit.Proofs.Worker.Jobs
import Conduit.Proofs.Worker.Service
import Conduit.Proofs.Worker.Watching
import Conduit.Proofs.Chain.Uses
import Conduit.Proofs.Worker.Stacks
import Conduit.Proofs.Session.CloseFrame
import Conduit.Proofs.Settings.Acceptance
import Conduit.Proofs.Worker.Swapping
import Conduit.Proofs.Worker.Timeline
import Conduit.Proofs.Arena.Rounding
