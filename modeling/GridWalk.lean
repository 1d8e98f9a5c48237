import GridWalk.Action
import GridWalk.Attempt
import GridWalk.Cell
import GridWalk.Compile
import GridWalk.CompileResult
import GridWalk.Cursor
import GridWalk.Decimal.Binary64
import GridWalk.Decimal.Shortest
import GridWalk.Diagnostic
import GridWalk.Digest.Sha256
import GridWalk.Direction
import GridWalk.Event
import GridWalk.Grid.Ascii
import GridWalk.Grid.Basic
import GridWalk.Grid.Fault
import GridWalk.Grid.Layout
import GridWalk.Host
import GridWalk.Json.Basic
import GridWalk.Json.Choice
import GridWalk.Json.Codec
import GridWalk.Json.Draft
import GridWalk.Json.Fault
import GridWalk.Json.Number
import GridWalk.Json.Record
import GridWalk.Json.Tagged
import GridWalk.Json.Token
import GridWalk.Json.Written
import GridWalk.Line
import GridWalk.Operand
import GridWalk.Position
import GridWalk.Problem
import GridWalk.Proofs.Compile.Outline
import GridWalk.Run
import GridWalk.Statement
import GridWalk.Symbols
import GridWalk.Text.Blank
import GridWalk.Text.Cut
import GridWalk.Text.Printable
import GridWalk.Text.Quoted
import GridWalk.Text.Word
import GridWalk.Wire.Attempt
import GridWalk.Wire.Level
import GridWalk.Wire.Program
import GridWalk.Wire.Run
import GridWalk.Proofs.Compile.Meaning
import GridWalk.Proofs.Compile.Limit
import GridWalk.Proofs.Grid.Coins
import GridWalk.Proofs.Run.Drain
import GridWalk.Proofs.Run.Geometry
import GridWalk.Proofs.Json.Lawful
import GridWalk.Proofs.Json.Records
import GridWalk.Proofs.Wire.RoundTrip
import GridWalk.Proofs.Compile.Cause
import GridWalk.Proofs.Statement.Grammar
import GridWalk.Proofs.Compile.Unrolling
import GridWalk.Proofs.Compile.Renumber
import GridWalk.Proofs.Host
import GridWalk.Proofs.Run.Calls
import GridWalk.Proofs.Run.Invariant
import GridWalk.Proofs.Run.History
import GridWalk.Proofs.Run.Summary
import GridWalk.Proofs.Run.Resumption
import GridWalk.Proofs.Compile.FirstError
import GridWalk.Proofs.Compile.Definitions
import GridWalk.Proofs.Compile.Composition
import GridWalk.Proofs.Grid.Acceptance
import GridWalk.Proofs.Halt
import GridWalk.Proofs.Reading
import GridWalk.Proofs.Edits
import GridWalk.Proofs.Grid.Rows
import GridWalk.Proofs.Grid.Ascii
import GridWalk.Proofs.Compile.Fillers
import GridWalk.Proofs.Compile.Comments
import GridWalk.Proofs.LineEndings
import GridWalk.Proofs.Compile.LoopNames
import GridWalk.Proofs.Run.Labels
import GridWalk.Proofs.Session
import GridWalk.Proofs.Statement.Operands
import GridWalk.Proofs.Spans
