import Storyboard.Text.Blank
import Storyboard.Text.Hex
import Storyboard.Text.Lines
import Storyboard.Text.Numeral
import Storyboard.Text.Word
import Storyboard.Text.Escaped
import Storyboard.Text.Quoted
import Storyboard.Dict
import Storyboard.Location
import Storyboard.Color
import Storyboard.Number.Decimal
import Storyboard.Number.Binary
import Storyboard.Grid.Row
import Storyboard.Grid.Header
import Storyboard.Command
import Storyboard.Fault
import Storyboard.Notice
import Storyboard.Compile.Factory
import Storyboard.Compile.Program
import Storyboard.Cast
import Storyboard.Tag.Piece
import Storyboard.Tag.Markup
import Storyboard.Scenario
import Storyboard.Asset.Fault
import Storyboard.Asset.Store
import Storyboard.Asset.Depot
import Storyboard.Stage.Desk
import Storyboard.Stage.Status
import Storyboard.Stage.Basic
import Storyboard.Player.Perform
import Storyboard.Player.Run
import Storyboard.Player.Session
import Storyboard.Json.Numeral
import Storyboard.Json.Basic
import Storyboard.Json.Printer
import Storyboard.Json.Reader
import Storyboard.Json.Codec
import Storyboard.Files.Path
import Storyboard.Files.Tree
import Storyboard.Source.Settings
import Storyboard.Source.Directory
import Storyboard.CommandLine.Arguments
import Storyboard.CommandLine.Console
import Storyboard.CommandLine.Report
import Storyboard.Main
import Storyboard.Proofs.Stage
import Storyboard.Proofs.Compile.Entries
import Storyboard.Proofs.Compile.Segmentation
import Storyboard.Proofs.Compile.Labels
import Storyboard.Proofs.Compile.Unresolved
import Storyboard.Proofs.Player.Acknowledgement
import Storyboard.Proofs.Player.Deed
import Storyboard.Proofs.Player.History
import Storyboard.Proofs.Player.Stopping
import Storyboard.Proofs.Player.Walk
import Storyboard.Proofs.Asset.Reconciliation
import Storyboard.Proofs.Asset.Custody
import Storyboard.Proofs.Player.Trail
import Storyboard.Proofs.Player.Itinerary
import Storyboard.Proofs.Player.Prefetch
import Storyboard.Proofs.Player.Latch
import Storyboard.Proofs.Player.Loading
import Storyboard.Proofs.Player.Stalling
import Storyboard.Proofs.Player.Noticing
import Storyboard.Proofs.Player.Dangling
import Storyboard.Proofs.Player.Custody
import Storyboard.Proofs.Compile.Prepared
import Storyboard.Proofs.Asset.Equipment
import Storyboard.Proofs.Console.Recital
import Storyboard.Proofs.Console.Prospect
import Storyboard.Proofs.Console.Playback
import Storyboard.Proofs.Console.Polling
import Storyboard.Proofs.Console.Interactive
import Storyboard.Proofs.Console.Automatic
import Storyboard.Proofs.Asset.Registry
import Storyboard.Proofs.Tag.Cut
import Storyboard.Proofs.Tag.Rendering
import Storyboard.Proofs.Compile.Order
import Storyboard.Proofs.Grid.Columns
import Storyboard.Proofs.Cast.Table
import Storyboard.Proofs.Compile.Building
import Storyboard.Proofs.Grid.Writing
import Storyboard.Proofs.Compile.WellFormed
import Storyboard.Proofs.Files.Walk
import Storyboard.Proofs.Source.Sheets
import Storyboard.Proofs.Json.Forms
import Storyboard.Proofs.Compile.Flaws
import Storyboard.Proofs.Compile.Breaking
import Storyboard.Proofs.Asset.Fulfilment
import Storyboard.Proofs.Compile.Arrangement
import Storyboard.Proofs.Tag.Splitting
import Storyboard.Proofs.Scenario.Reloading
import Storyboard.Proofs.Compile.Choices
import Storyboard.Proofs.Compile.Pointing
import Storyboard.Proofs.Color
import Storyboard.Proofs.Compile.Arguments
import Storyboard.Proofs.Compile.Registrations
