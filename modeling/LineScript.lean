import LineScript.Calendar.Moment
import LineScript.CommandLine.Piece
import LineScript.CommandLine.Program
import LineScript.CommandLine.Request
import LineScript.CommandLine.Switch
import LineScript.Config.Basic
import LineScript.Config.File
import LineScript.Config.Load
import LineScript.Config.Setting
import LineScript.Config.Value
import LineScript.Decimal.Rounded
import LineScript.Decimal.Shortest
import LineScript.Encoding.Basic
import LineScript.Encoding.Codec
import LineScript.Encoding.Decode
import LineScript.Encoding.Encode
import LineScript.Encoding.Pieces
import LineScript.Fault
import LineScript.Files.Disk
import LineScript.Files.Error
import LineScript.Files.Path
import LineScript.Files.Snapshot
import LineScript.Files.Tree
import LineScript.Main
import LineScript.Memory.Budget
import LineScript.Memory.Store
import LineScript.Proofs.Config.Field
import LineScript.Proofs.Config.Layering
import LineScript.Proofs.Memory.Account
import LineScript.Proofs.Memory.Ceiling
import LineScript.Proofs.Memory.Ledger
import LineScript.Proofs.Script.Check
import LineScript.Proofs.Script.Concatenation
import LineScript.Proofs.Script.Header
import LineScript.Proofs.Script.Layout
import LineScript.Proofs.Script.QuoteStyle
import LineScript.Proofs.Script.Scan
import LineScript.Proofs.Script.Segmentation
import LineScript.Proofs.Script.WindowBlock
import LineScript.Proofs.Script.Wording
import LineScript.Proofs.Session.Action
import LineScript.Proofs.Session.Announcement
import LineScript.Proofs.Session.Arguments
import LineScript.Proofs.Session.Books
import LineScript.Proofs.Session.Bracketing
import LineScript.Proofs.Session.Breakdown
import LineScript.Proofs.Session.Change
import LineScript.Proofs.Session.Concatenation
import LineScript.Proofs.Session.Content
import LineScript.Proofs.Session.Coupling
import LineScript.Proofs.Session.DepthIndependence
import LineScript.Proofs.Session.DepthLimit
import LineScript.Proofs.Session.Directory
import LineScript.Proofs.Session.Effect
import LineScript.Proofs.Session.Evaluation
import LineScript.Proofs.Session.Form
import LineScript.Proofs.Session.HostIndependence
import LineScript.Proofs.Session.Inclusion
import LineScript.Proofs.Session.Inlining
import LineScript.Proofs.Session.Isolation
import LineScript.Proofs.Session.Malformed
import LineScript.Proofs.Session.Nesting
import LineScript.Proofs.Session.NewestWindow
import LineScript.Proofs.Session.Origin
import LineScript.Proofs.Session.Outcome
import LineScript.Proofs.Session.Payload
import LineScript.Proofs.Session.Prediction
import LineScript.Proofs.Session.Printing
import LineScript.Proofs.Session.Provenance
import LineScript.Proofs.Session.Reach
import LineScript.Proofs.Session.Reentrancy
import LineScript.Proofs.Session.Refusal
import LineScript.Proofs.Session.Relocation
import LineScript.Proofs.Session.Reported
import LineScript.Proofs.Session.Requoting
import LineScript.Proofs.Session.RoundTrip
import LineScript.Proofs.Session.SameProgress
import LineScript.Proofs.Session.ScriptRun
import LineScript.Proofs.Session.Signal
import LineScript.Proofs.Session.SingleStatement
import LineScript.Proofs.Session.Stack
import LineScript.Proofs.Session.StructuralPass
import LineScript.Proofs.Session.Tracing
import LineScript.Proofs.Session.Transcript
import LineScript.Proofs.Session.WindowDeclaration
import LineScript.Proofs.Session.WritesFor
import LineScript.Proofs.Table
import LineScript.Proofs.Text.Recognition
import LineScript.Proofs.Text.Trim
import LineScript.Script.Check
import LineScript.Script.Command
import LineScript.Script.Line
import LineScript.Script.Location
import LineScript.Script.Outline
import LineScript.Script.Problem
import LineScript.Script.QuoteStyle
import LineScript.Script.Report
import LineScript.Script.Segment
import LineScript.Script.Statement
import LineScript.Script.Window
import LineScript.Session.Action
import LineScript.Session.Event
import LineScript.Session.Exec
import LineScript.Session.Frame
import LineScript.Session.Host
import LineScript.Session.Run
import LineScript.Session.Stack
import LineScript.Session.State
import LineScript.Table
import LineScript.Text.Base64
import LineScript.Text.Basic
import LineScript.Text.Blank
import LineScript.Text.Character
import LineScript.Text.Json
import LineScript.Text.LineBreak
import LineScript.Text.Numeral
import LineScript.Text.PrintableRanges
import LineScript.Text.Quoted
import LineScript.Text.Search
import LineScript.Text.WordRanges
import LineScript.Yaml.Cursor
import LineScript.Yaml.Document
import LineScript.Yaml.Error
import LineScript.Yaml.Layout
import LineScript.Yaml.Node
import LineScript.Yaml.Number
import LineScript.Yaml.Scalar
import LineScript.Yaml.Source
import LineScript.Yaml.Stamp
import LineScript.Yaml.Tag
import LineScript.Yaml.Token
