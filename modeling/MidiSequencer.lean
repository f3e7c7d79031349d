import MidiSequencer.Main
import MidiSequencer.Event.Describe
import MidiSequencer.Proofs.Codec.RoundTrip
import MidiSequencer.Native.Call
import MidiSequencer.Native.Kernel
import MidiSequencer.Native.Rehearsal
import MidiSequencer.Proofs.Codec.Canonical
import MidiSequencer.Proofs.Histories
import MidiSequencer.Proofs.Waiting.Retry
import MidiSequencer.Proofs.Recording
import MidiSequencer.Proofs.Resources.Account
import MidiSequencer.Proofs.Resources.Asking
import MidiSequencer.Proofs.Resources.Commands
import MidiSequencer.Proofs.Resources.Handles
import MidiSequencer.Proofs.Resources.Pairing
import MidiSequencer.Proofs.Conduct.Actions
import MidiSequencer.Proofs.Conduct.Loops
import MidiSequencer.Proofs.Conduct.Operations
import MidiSequencer.Proofs.Conduct.Sessions
import MidiSequencer.Proofs.Passages
import MidiSequencer.Proofs.Closing.Objects
import MidiSequencer.Proofs.Closing.Frame
import MidiSequencer.Proofs.Closing.Finality
import MidiSequencer.Proofs.Waiting.Patience
import MidiSequencer.Proofs.Failures.Reporting
import MidiSequencer.Proofs.Simulation.Scripts
import MidiSequencer.Proofs.Output.Accepted
import MidiSequencer.Proofs.Output.Delivery
import MidiSequencer.Proofs.Listing.Admission
import MidiSequencer.Proofs.Listing.Ascent
import MidiSequencer.Proofs.Listing.Tables
import MidiSequencer.Proofs.Listing.Exactness
import MidiSequencer.Proofs.Codec.Representable
import MidiSequencer.Proofs.Listing.Sorting
import MidiSequencer.Proofs.Listing.Keys
import MidiSequencer.Proofs.Listing.Order
import MidiSequencer.Proofs.Listing.Filling
import MidiSequencer.Proofs.Listing.Gains
import MidiSequencer.Proofs.Listing.Loosening
import MidiSequencer.Proofs.Listing.Reports
import MidiSequencer.Proofs.Listing.Served
import MidiSequencer.Proofs.Listing.Directions
import MidiSequencer.Proofs.Listing.Traversal
import MidiSequencer.Proofs.Transfers
import MidiSequencer.Proofs.Input.Conservation
import MidiSequencer.Proofs.Listing.Courses
import MidiSequencer.Proofs.Waiting.Agreement
import MidiSequencer.Proofs.Listing.Trials
import MidiSequencer.Proofs.Simulation.Faults
import MidiSequencer.Proofs.Listing.Questions
import MidiSequencer.Proofs.Listing.Breaking
import MidiSequencer.Proofs.Listing.Wholeness
import MidiSequencer.Proofs.Codec.Documented
import MidiSequencer.Proofs.Closing.Refusals
import MidiSequencer.Proofs.Opening.Decisions
import MidiSequencer.Proofs.Registry.Mapping
import MidiSequencer.Proofs.Simulation.Moments
import MidiSequencer.Proofs.Routing.Subscriptions
import MidiSequencer.Proofs.Queues.Sessions
import MidiSequencer.Proofs.Commands.Notes
import MidiSequencer.Proofs.Commands.Modes
import MidiSequencer.Proofs.Addresses.Grammar
import MidiSequencer.Proofs.Descriptors.Carrying
import MidiSequencer.Proofs.Numbering.Runs
import MidiSequencer.Proofs.Waiting.Timeouts
