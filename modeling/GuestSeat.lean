import GuestSeat.Cli.Arguments
import GuestSeat.Cli.Help
import GuestSeat.Cli.Run
import GuestSeat.Clip
import GuestSeat.ClipRegistry
import GuestSeat.Config.Basic
import GuestSeat.Config.File
import GuestSeat.Cursor.Realizer
import GuestSeat.Cursor.Tracker
import GuestSeat.Document.Codec
import GuestSeat.Document.Part
import GuestSeat.Document.Settled
import GuestSeat.Document.Shape
import GuestSeat.Document.Tree
import GuestSeat.Environment.Basic
import GuestSeat.Environment.Exchange
import GuestSeat.Environment.Windows
import GuestSeat.Event.Basic
import GuestSeat.Event.Codec
import GuestSeat.Event.Mask
import GuestSeat.Event.Valuators
import GuestSeat.Flags
import GuestSeat.Geometry.CoordinateMap
import GuestSeat.Geometry.Rect
import GuestSeat.Ids
import GuestSeat.Input
import GuestSeat.Json.Literal
import GuestSeat.Json.Reader
import GuestSeat.Json.Token
import GuestSeat.Json.Writer
import GuestSeat.Main
import GuestSeat.Merge
import GuestSeat.Message.Basic
import GuestSeat.Message.Codec
import GuestSeat.OrderedMap
import GuestSeat.Proofs.Clip.Answer
import GuestSeat.Proofs.Clip.CaptureWindows
import GuestSeat.Proofs.Clip.Course
import GuestSeat.Proofs.Clip.Custody
import GuestSeat.Proofs.Clip.Debounce
import GuestSeat.Proofs.Clip.FocusLoss
import GuestSeat.Proofs.Clip.Ledger
import GuestSeat.Proofs.Clip.Mirror
import GuestSeat.Proofs.Clip.Outcome
import GuestSeat.Proofs.Clip.Ownership
import GuestSeat.Proofs.Clip.Phantom
import GuestSeat.Proofs.Clip.Process
import GuestSeat.Proofs.Clip.Quiet
import GuestSeat.Proofs.Clip.Refinement
import GuestSeat.Proofs.Clip.ReleaseRequest
import GuestSeat.Proofs.Clip.Resolution
import GuestSeat.Proofs.Clip.Run
import GuestSeat.Proofs.Clip.Standing
import GuestSeat.Proofs.Clip.Validity
import GuestSeat.Proofs.Cursor.Change
import GuestSeat.Proofs.Cursor.Convergence
import GuestSeat.Proofs.Cursor.Delivery
import GuestSeat.Proofs.Cursor.Layers
import GuestSeat.Proofs.Cursor.View
import GuestSeat.Proofs.Document.Carried
import GuestSeat.Proofs.Document.Events
import GuestSeat.Proofs.Document.FlagText
import GuestSeat.Proofs.Document.Records
import GuestSeat.Proofs.Drain.Axes
import GuestSeat.Proofs.Drain.Devices
import GuestSeat.Proofs.Drain.Exact
import GuestSeat.Proofs.Drain.Handover
import GuestSeat.Proofs.Drain.Merging
import GuestSeat.Proofs.Drain.Oblivious
import GuestSeat.Proofs.Drain.Order
import GuestSeat.Proofs.Drain.Pulling
import GuestSeat.Proofs.Drain.Surroundings
import GuestSeat.Proofs.Drain.Trail
import GuestSeat.Proofs.Focus.Activation
import GuestSeat.Proofs.Focus.Fallback
import GuestSeat.Proofs.Focus.Offers
import GuestSeat.Proofs.Focus.Retry
import GuestSeat.Proofs.Json.RoundTrip
import GuestSeat.Proofs.Json.Tokens
import GuestSeat.Proofs.Pointer.Action
import GuestSeat.Proofs.Pointer.CapturePlace
import GuestSeat.Proofs.Pointer.FenceSerial
import GuestSeat.Proofs.Pointer.WarpFence
import GuestSeat.Proofs.RawMotion.Idle
import GuestSeat.Proofs.RawMotion.Lifetime
import GuestSeat.Proofs.RawMotion.Remainder
import GuestSeat.Proofs.RawMotion.Source
import GuestSeat.Proofs.Seat.Calls
import GuestSeat.Proofs.Seat.Deeds
import GuestSeat.Proofs.Seat.Errands
import GuestSeat.Proofs.Seat.Face
import GuestSeat.Proofs.Seat.Grab
import GuestSeat.Proofs.Seat.Handlers
import GuestSeat.Proofs.Seat.Numbering
import GuestSeat.Proofs.Seat.Requests
import GuestSeat.Proofs.Seat.Routine
import GuestSeat.Proofs.Seat.Unclaimed
import GuestSeat.Proofs.Seat.Upshot
import GuestSeat.Proofs.Text.Fields
import GuestSeat.Proofs.Text.Numerals
import GuestSeat.Proofs.Trace.Delivery
import GuestSeat.Proofs.Trace.Lines
import GuestSeat.Proofs.Valuators.Gathering
import GuestSeat.Proofs.Valuators.Summing
import GuestSeat.Proofs.Windows.Acknowledgement
import GuestSeat.Proofs.Windows.Ancestry
import GuestSeat.Proofs.Windows.Coalescing
import GuestSeat.Proofs.Windows.Correction
import GuestSeat.Proofs.Windows.Echo
import GuestSeat.Proofs.Windows.Frame
import GuestSeat.Proofs.Windows.Fullscreen
import GuestSeat.Proofs.Windows.GeometryFence
import GuestSeat.Proofs.Windows.Placement
import GuestSeat.Proofs.Windows.Pruning
import GuestSeat.Proofs.Windows.Reappearance
import GuestSeat.Proofs.Windows.Reparenting
import GuestSeat.Proofs.Windows.Settling
import GuestSeat.Proofs.Windows.Standstill
import GuestSeat.Proofs.Windows.Waiting
import GuestSeat.Proofs.Windows.Withdrawal
import GuestSeat.Proofs.Wire.Dealing
import GuestSeat.Proofs.Wire.Widening
import GuestSeat.RawMotion.Accumulator
import GuestSeat.RawMotion.Session
import GuestSeat.Request
import GuestSeat.Seat.Basic
import GuestSeat.Seat.Clip
import GuestSeat.Seat.Cursor
import GuestSeat.Seat.Dispatch
import GuestSeat.Seat.Drain
import GuestSeat.Seat.Focus
import GuestSeat.Seat.Pointer
import GuestSeat.Seat.RawMotion
import GuestSeat.Seat.Validity
import GuestSeat.Seat.WindowState
import GuestSeat.Serial
import GuestSeat.Session
import GuestSeat.Text.Blank
import GuestSeat.Text.Printing
import GuestSeat.Text.Quoted
import GuestSeat.Text.Radix
import GuestSeat.Text.Visible
import GuestSeat.Toml.Document
import GuestSeat.Toml.Scalar
import GuestSeat.Toml.Text
import GuestSeat.Toml.Value
import GuestSeat.Trace.Replay
import GuestSeat.Trace.Step
import GuestSeat.Window
import GuestSeat.WindowManager.Correction
import GuestSeat.WindowManager.State
import GuestSeat.Wire.Basic
import GuestSeat.Wire.Record
