import TerminalDecoration.Attribute
import TerminalDecoration.Console
import TerminalDecoration.Control
import TerminalDecoration.Control.Run
import TerminalDecoration.Diagnostic
import TerminalDecoration.Filter
import TerminalDecoration.Filter.Store
import TerminalDecoration.Guarded
import TerminalDecoration.Line.Layout
import TerminalDecoration.Line.Pieces
import TerminalDecoration.Line.Stencil
import TerminalDecoration.Log.Event
import TerminalDecoration.Log.Level
import TerminalDecoration.Log.Logger
import TerminalDecoration.Log.PlainTimes
import TerminalDecoration.Log.TimeLibrary
import TerminalDecoration.Markup.Plain
import TerminalDecoration.Markup.Resolve
import TerminalDecoration.Markup.Rewound
import TerminalDecoration.Markup.Token
import TerminalDecoration.Palette
import TerminalDecoration.Proofs.Attribute
import TerminalDecoration.Proofs.Control.Event
import TerminalDecoration.Proofs.Markup.KnownToken
import TerminalDecoration.Proofs.Markup.Line
import TerminalDecoration.Proofs.Markup.PlainPattern
import TerminalDecoration.Proofs.Markup.Token
import TerminalDecoration.Proofs.Style.Grammar
import TerminalDecoration.Proofs.Text.Pattern
import TerminalDecoration.Proofs.Text.Pieces
import TerminalDecoration.Proofs.Text.Scan
import TerminalDecoration.Session
import TerminalDecoration.Session.Answer
import TerminalDecoration.Session.Command
import TerminalDecoration.Session.Object
import TerminalDecoration.Sink
import TerminalDecoration.Sink.Failure
import TerminalDecoration.Sink.Script
import TerminalDecoration.Style
import TerminalDecoration.Style.Cache
import TerminalDecoration.Table
import TerminalDecoration.Terminal
import TerminalDecoration.Text.Lexeme
import TerminalDecoration.Text.Quoted
import TerminalDecoration.Text.Ranges
import TerminalDecoration.Text.UnshownRanges
import TerminalDecoration.Text.Utf8
import TerminalDecoration.Text.Word
import TerminalDecoration.Text.WordClass
import TerminalDecoration.Text.WordRanges
import TerminalDecoration.Proofs.Style.Cache
import TerminalDecoration.Proofs.Style.Recency
import TerminalDecoration.Proofs.Filter.Delivery
import TerminalDecoration.Proofs.Markup.Nesting
import TerminalDecoration.Proofs.Line.Pieces
import TerminalDecoration.Proofs.Text.Utf8
import TerminalDecoration.Proofs.Text.Parts
import TerminalDecoration.Proofs.Control.Erasure
import TerminalDecoration.Proofs.Markup.VisibleText
import TerminalDecoration.Proofs.Line.Parts
import TerminalDecoration.Proofs.Line.MarkupLine
import TerminalDecoration.Proofs.Table
import TerminalDecoration.Proofs.Filter.Streaming
import TerminalDecoration.Proofs.Control.Run
import TerminalDecoration.Proofs.Control.MergedRuns
import TerminalDecoration.Proofs.Control.RepeatedMerge
import TerminalDecoration.Proofs.Control.Convergence
import TerminalDecoration.Proofs.Markup.Resolved
import TerminalDecoration.Proofs.Markup.Unmarked
import TerminalDecoration.Proofs.Sink.Turns
import TerminalDecoration.Proofs.Sink.Course
import TerminalDecoration.Proofs.Style.Fault
import TerminalDecoration.Proofs.Log.Event
import TerminalDecoration.Proofs.Text.Decoding
import TerminalDecoration.Proofs.Filter.History
import TerminalDecoration.Proofs.Filter.Coverage
import TerminalDecoration.Proofs.Session.Footprint
import TerminalDecoration.Proofs.Session.Agreement
import TerminalDecoration.Proofs.Session.Run
import TerminalDecoration.Proofs.Session.Lookups
import TerminalDecoration.Proofs.Session.Filters
import TerminalDecoration.Proofs.Session.Coverage
import TerminalDecoration.Proofs.Session.Isolation
import TerminalDecoration.Proofs.Session.Journal
import TerminalDecoration.Proofs.Session.Twins
import TerminalDecoration.Proofs.Session.Memory
import TerminalDecoration.Proofs.Session.Print
import TerminalDecoration.Proofs.Session.EventLog
import TerminalDecoration.Proofs.Session.Indentation
import TerminalDecoration.Proofs.Session.Installation
