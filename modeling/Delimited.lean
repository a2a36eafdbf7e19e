import Delimited.Text
import Delimited.Escape
import Delimited.HexDump
import Delimited.Error
import Delimited.Event
import Delimited.Charset.Basic
import Delimited.Charset.Label
import Delimited.Charset.Coding
import Delimited.Charset.Calls
import Delimited.Matcher
import Delimited.Pipeline
import Delimited.Json.Reading
import Delimited.Config.Json
import Delimited.Path
import Delimited.Compression
import Delimited.Archive.Directory
import Delimited.Archive.Library
import Delimited.Volume
import Delimited.Conversion
import Delimited.Proofs.Record.Classify
import Delimited.Proofs.Record.Matching
import Delimited.Proofs.Record.Piece
import Delimited.Proofs.Record.Records
import Delimited.Proofs.Record.Written
import Delimited.Proofs.Record.AlwaysQuoted
import Delimited.Proofs.Record.Overlap
import Delimited.Proofs.Run.Rows
import Delimited.Proofs.Run.Agreement
import Delimited.Proofs.Record.Lossless
import Delimited.Proofs.Run.Direct
import Delimited.Proofs.Run.Verbatim
import Delimited.Proofs.Run.Composition
import Delimited.Proofs.Record.KeptQuotes
import Delimited.Proofs.Record.Marks
import Delimited.Proofs.Record.Newlines
import Delimited.Proofs.Record.Balance
import Delimited.Proofs.Run.Lockstep
import Delimited.Proofs.Run.Faults
import Delimited.Proofs.Charset.Unicode
import Delimited.Proofs.Stream.Transport
import Delimited.Proofs.Stream.Ideal
import Delimited.Proofs.Charset.Substitution
import Delimited.Proofs.Stream.Pieces
import Delimited.Proofs.Run.Refinement
import Delimited.Proofs.Archive.Forms
import Delimited.Proofs.Archive.Library
import Delimited.Proofs.Run.Sinks
import Delimited.Proofs.Run.Containers
import Delimited.Proofs.Record.Ending
import Delimited.Proofs.Run.Recording
import Delimited.Proofs.Run.Stages
import Delimited.Proofs.Run.Completion
import Delimited.Proofs.Run.Phases
import Delimited.Proofs.Record.Lookahead
import Delimited.Proofs.Record.CutShort
import Delimited.Proofs.Run.Refusals
import Delimited.Proofs.Escape.Syntax
import Delimited.Proofs.Escape.Printing
import Delimited.Proofs.Text.Replacement
import Delimited.Proofs.Record.Spacing
import Delimited.Proofs.Config.Forms
import Delimited.Proofs.Record.Reuse
import Delimited.Proofs.HexDump.Layout
import Delimited.Proofs.Record.PushBack
