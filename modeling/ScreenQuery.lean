import ScreenQuery.Bridge.Adb
import ScreenQuery.Bridge.Basic
import ScreenQuery.Bridge.SavedDump
import ScreenQuery.Bridge.Script
import ScreenQuery.Cache
import ScreenQuery.Calendar
import ScreenQuery.CommandLine.Execute
import ScreenQuery.CommandLine.Grammar
import ScreenQuery.CommandLine.Options
import ScreenQuery.ContentHash
import ScreenQuery.Decimal.Shortest
import ScreenQuery.Dump
import ScreenQuery.Failure
import ScreenQuery.Fallback
import ScreenQuery.Flag
import ScreenQuery.Geometry
import ScreenQuery.Handle
import ScreenQuery.Json.Basic
import ScreenQuery.Json.Number
import ScreenQuery.Json.Term
import ScreenQuery.Json.Token
import ScreenQuery.Key
import ScreenQuery.Main
import ScreenQuery.Markup.Attribute
import ScreenQuery.Markup.Event
import ScreenQuery.Markup.Reference
import ScreenQuery.Markup.Repair
import ScreenQuery.Node
import ScreenQuery.Outline
import ScreenQuery.Plan
import ScreenQuery.Proofs.Arena
import ScreenQuery.Proofs.Bridge.Calls
import ScreenQuery.Proofs.Bridge.Capture
import ScreenQuery.Proofs.Bridge.Phone
import ScreenQuery.Proofs.Bridge.Typing
import ScreenQuery.Proofs.CommandLine.Find
import ScreenQuery.Proofs.CommandLine.Lines
import ScreenQuery.Proofs.ContentHash
import ScreenQuery.Proofs.ContentHash.Change
import ScreenQuery.Proofs.Description
import ScreenQuery.Proofs.Dump.Comments
import ScreenQuery.Proofs.Dump.Draft
import ScreenQuery.Proofs.Dump.Elements
import ScreenQuery.Proofs.Dump.Lookup
import ScreenQuery.Proofs.Dump.Noise
import ScreenQuery.Proofs.Dump.Rectangles
import ScreenQuery.Proofs.Dump.Repeated
import ScreenQuery.Proofs.Dump.RoundTrip
import ScreenQuery.Proofs.Dump.Storable
import ScreenQuery.Proofs.Dump.Truncation
import ScreenQuery.Proofs.Dump.Values
import ScreenQuery.Proofs.Fallback
import ScreenQuery.Proofs.Geometry
import ScreenQuery.Proofs.Geometry.Encoding
import ScreenQuery.Proofs.Geometry.Limits
import ScreenQuery.Proofs.Json.Number
import ScreenQuery.Proofs.Json.Term
import ScreenQuery.Proofs.Json.Token
import ScreenQuery.Proofs.Log
import ScreenQuery.Proofs.Markup.Attributes
import ScreenQuery.Proofs.Markup.Comment
import ScreenQuery.Proofs.Markup.Document
import ScreenQuery.Proofs.Markup.Events
import ScreenQuery.Proofs.Markup.NormalForm
import ScreenQuery.Proofs.Markup.Reading
import ScreenQuery.Proofs.Markup.Reference
import ScreenQuery.Proofs.Markup.Rendering
import ScreenQuery.Proofs.Markup.Repair
import ScreenQuery.Proofs.Markup.Repaired
import ScreenQuery.Proofs.Navigation
import ScreenQuery.Proofs.Outline
import ScreenQuery.Proofs.Outline.Lines
import ScreenQuery.Proofs.Path
import ScreenQuery.Proofs.Path.Written
import ScreenQuery.Proofs.Position
import ScreenQuery.Proofs.PreOrder
import ScreenQuery.Proofs.Query
import ScreenQuery.Proofs.Query.Alternatives
import ScreenQuery.Proofs.Query.Names
import ScreenQuery.Proofs.Query.Scope
import ScreenQuery.Proofs.Record
import ScreenQuery.Proofs.ResourceId
import ScreenQuery.Proofs.Selector
import ScreenQuery.Proofs.Session.Alternatives
import ScreenQuery.Proofs.Session.Course
import ScreenQuery.Proofs.Session.Currency
import ScreenQuery.Proofs.Session.History
import ScreenQuery.Proofs.Session.Idle
import ScreenQuery.Proofs.Session.Input
import ScreenQuery.Proofs.Session.Locks
import ScreenQuery.Proofs.Session.Performance
import ScreenQuery.Proofs.Session.Record
import ScreenQuery.Proofs.Session.Requery
import ScreenQuery.Proofs.Session.Trace
import ScreenQuery.Proofs.Session.Usage
import ScreenQuery.Proofs.Session.Waits
import ScreenQuery.Proofs.Shorthand
import ScreenQuery.Proofs.Subtree
import ScreenQuery.Proofs.Text.Dictionary
import ScreenQuery.Proofs.Text.Parts
import ScreenQuery.Proofs.Text.Runs
import ScreenQuery.Proofs.Text.Shortened
import ScreenQuery.Proofs.Text.Utf8
import ScreenQuery.Proofs.Text.Width
import ScreenQuery.Proofs.Wait.Contract
import ScreenQuery.Proofs.Wait.Latency
import ScreenQuery.Proofs.Wait.Pace
import ScreenQuery.Proofs.Wait.Polling
import ScreenQuery.Query
import ScreenQuery.Record.Decode
import ScreenQuery.Record.Encode
import ScreenQuery.Regex.Basic
import ScreenQuery.Regex.CharClass
import ScreenQuery.Regex.Class
import ScreenQuery.Regex.Escape
import ScreenQuery.Regex.Pattern
import ScreenQuery.Scenario
import ScreenQuery.Selector.Basic
import ScreenQuery.Selector.Fault
import ScreenQuery.Selector.Path
import ScreenQuery.Selector.Predicate
import ScreenQuery.Selector.Shorthand
import ScreenQuery.Session.Operation
import ScreenQuery.Session.Run
import ScreenQuery.Session.System
import ScreenQuery.Snapshot
import ScreenQuery.Text.Basic
import ScreenQuery.Text.Blank
import ScreenQuery.Text.Casing
import ScreenQuery.Text.CasingTable
import ScreenQuery.Text.CategoryTable
import ScreenQuery.Text.Dictionary
import ScreenQuery.Text.Numeral
import ScreenQuery.Text.Property
import ScreenQuery.Text.PropertyTable
import ScreenQuery.Text.Quoted
import ScreenQuery.Text.Runs
import ScreenQuery.Text.ScriptTable
import ScreenQuery.Text.Shortened
import ScreenQuery.Text.Utf8
import ScreenQuery.Text.Width
import ScreenQuery.Text.WidthTable
import ScreenQuery.Timing
import ScreenQuery.Wait
