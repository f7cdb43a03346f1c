import RouteTable.Assoc
import RouteTable.Text.Quoted
import RouteTable.Text.Uppercase
import RouteTable.Number.Double
import RouteTable.Json.Printer
import RouteTable.Json.Reader
import RouteTable.Action
import RouteTable.Call
import RouteTable.Controller
import RouteTable.Route
import RouteTable.Summary
import RouteTable.RoutePath
import RouteTable.Scope
import RouteTable.ReadFault
import RouteTable.DirectRoute
import RouteTable.Recognizer
import RouteTable.Source.Calls
import RouteTable.Source.Word
import RouteTable.Source.Literal
import RouteTable.Source.Block
import RouteTable.Source.Reader
import RouteTable.Datum.Display
import RouteTable.Number.Numeral
import RouteTable.Yaml.Reader
import RouteTable.Glob
import RouteTable.Settings
import RouteTable.Log.Setup
import RouteTable.Log.Template
import RouteTable.Log.Time
import RouteTable.Session
import RouteTable.Report
import RouteTable.Report.Table
import RouteTable.Report.Panel
import RouteTable.Scope.Steps
import RouteTable.Command.Arguments
import RouteTable.Command.Run
import RouteTable.Main
import RouteTable.Proofs.Walk.Restoration
import RouteTable.Proofs.Walk.History
import RouteTable.Proofs.Session.Isolation
import RouteTable.Proofs.Compare.Namespace
import RouteTable.Proofs.Compare.Receiver
import RouteTable.Proofs.Compare.Label
import RouteTable.Proofs.Compare.OpaqueText
import RouteTable.Proofs.Walk.Every
import RouteTable.Proofs.Routes.Action
import RouteTable.Proofs.Routes.Segment
import RouteTable.Proofs.Routes.Controller
import RouteTable.Proofs.Source.Reading
import RouteTable.Proofs.Source.Rewriting
import RouteTable.Proofs.Source.Comment
import RouteTable.Proofs.Source.Grouping
import RouteTable.Proofs.Files.Listing
import RouteTable.Proofs.Session.Accounting
import RouteTable.Proofs.Command.Document
import RouteTable.Proofs.Session.Ledger
import RouteTable.Proofs.Settings.RoundTrip
import RouteTable.Proofs.Log.Lines
import RouteTable.Proofs.Routes.Foreign
import RouteTable.Proofs.Routes.Spelling
import RouteTable.Proofs.Routes.Inference
import RouteTable.Proofs.Routes.Declaration
import RouteTable.Proofs.Compare.Splice
import RouteTable.Proofs.Compare.Inlining
import RouteTable.Proofs.Routes.Slashes
import RouteTable.Proofs.Compare.NameLists
import RouteTable.Proofs.Compare.Placement
import RouteTable.Proofs.Compare.ScopeController
import RouteTable.Proofs.Routes.Selection
import RouteTable.Proofs.Routes.Naming
import RouteTable.Proofs.Routes.CamelCase
import RouteTable.Proofs.Scope.Defaults
import RouteTable.Proofs.Scope.Balance
import RouteTable.Proofs.Session.Summary
import RouteTable.Proofs.Source.Arguments
import RouteTable.Proofs.Source.Interpolation
