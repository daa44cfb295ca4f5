import Cutscene.Cast
import Cutscene.Decimal.Binary
import Cutscene.Decimal.Layout
import Cutscene.Decimal.Shortest
import Cutscene.Direction
import Cutscene.Disk
import Cutscene.Disk.Path
import Cutscene.Facing
import Cutscene.Flags.Store
import Cutscene.Format.Fields
import Cutscene.Format.Flags
import Cutscene.Format.Place
import Cutscene.Format.Progress
import Cutscene.Format.Script
import Cutscene.Format.Settings
import Cutscene.Format.Status
import Cutscene.Format.Town
import Cutscene.Journal.Detail
import Cutscene.Journal.Filter
import Cutscene.Journal.Note
import Cutscene.Json.Decode
import Cutscene.Json.Literal
import Cutscene.Json.Number
import Cutscene.Json.Problem
import Cutscene.Json.Reader
import Cutscene.Json.Tree
import Cutscene.Json.Writer
import Cutscene.Main
import Cutscene.Performance
import Cutscene.Progress
import Cutscene.Progress.Slots
import Cutscene.Proofs.Cast.Custody
import Cutscene.Proofs.Cast.Frames
import Cutscene.Proofs.Cast.Tickets
import Cutscene.Proofs.Disk.Writing
import Cutscene.Proofs.Flags.File
import Cutscene.Proofs.Format.Flags
import Cutscene.Proofs.Format.Order
import Cutscene.Proofs.Format.Script
import Cutscene.Proofs.Format.Town
import Cutscene.Proofs.Journal.Reading
import Cutscene.Proofs.Json.Containers
import Cutscene.Proofs.Json.Decoding
import Cutscene.Proofs.Json.Extent
import Cutscene.Proofs.Json.Layout
import Cutscene.Proofs.Json.Numbers
import Cutscene.Proofs.Json.Records
import Cutscene.Proofs.Json.RoundTrip
import Cutscene.Proofs.Json.Spelling
import Cutscene.Proofs.Performance.Acceptance
import Cutscene.Proofs.Performance.Consistency
import Cutscene.Proofs.Performance.Deeds
import Cutscene.Proofs.Performance.Flags
import Cutscene.Proofs.Performance.NextStop
import Cutscene.Proofs.Performance.Renewal
import Cutscene.Proofs.Performance.Replay
import Cutscene.Proofs.Performance.Stretch
import Cutscene.Proofs.Progress.Slots
import Cutscene.Proofs.Review.Findings
import Cutscene.Proofs.Review.Reach
import Cutscene.Proofs.Review.Walkers
import Cutscene.Proofs.Screen.Reveal
import Cutscene.Proofs.Selection.Leaders
import Cutscene.Proofs.Selection.Pick
import Cutscene.Proofs.Session.Appearing
import Cutscene.Proofs.Session.Awaited
import Cutscene.Proofs.Session.Bystanders
import Cutscene.Proofs.Session.Chronicle
import Cutscene.Proofs.Session.Confirming
import Cutscene.Proofs.Session.Display
import Cutscene.Proofs.Session.Episode
import Cutscene.Proofs.Session.Errands
import Cutscene.Proofs.Session.Headway
import Cutscene.Proofs.Session.Pace
import Cutscene.Proofs.Session.Presence
import Cutscene.Proofs.Session.Refusal
import Cutscene.Proofs.Session.Register
import Cutscene.Proofs.Session.Rejection
import Cutscene.Proofs.Session.Saving
import Cutscene.Proofs.Session.Shift
import Cutscene.Proofs.Session.Story
import Cutscene.Proofs.Session.Tokens
import Cutscene.Proofs.Session.Typing
import Cutscene.Proofs.Terminal.Allowance
import Cutscene.Proofs.Terminal.Chains
import Cutscene.Proofs.Terminal.Endless
import Cutscene.Proofs.Terminal.Marches
import Cutscene.Proofs.Terminal.Pace
import Cutscene.Proofs.Terminal.Printing
import Cutscene.Proofs.Terminal.Walkers
import Cutscene.Review
import Cutscene.Scene
import Cutscene.Screen
import Cutscene.Screen.Menu
import Cutscene.Screen.Typewriter
import Cutscene.Script
import Cutscene.Selection
import Cutscene.Session
import Cutscene.Settings
import Cutscene.SortedMap
import Cutscene.Status
import Cutscene.Terminal.Check
import Cutscene.Terminal.Failure
import Cutscene.Terminal.Invocation
import Cutscene.Terminal.Play
import Cutscene.Text.Blank
import Cutscene.Text.Quoted
import Cutscene.Text.Unshown
import Cutscene.Text.Utf8
import Cutscene.Town
import Cutscene.Wallet
