import SequenceApi.Main
import SequenceApi.Proofs.Diagram.Agreement
import SequenceApi.Proofs.Diagram.Pairing
import SequenceApi.Proofs.Document.Sharing
import SequenceApi.Proofs.Reference.Cycle
import SequenceApi.Proofs.Json.Distinct
import SequenceApi.Proofs.Schema.Skeleton
import SequenceApi.Proofs.Schema.BodyShape
import SequenceApi.Proofs.Schema.HeldReference
import SequenceApi.Proofs.Schema.KeyOrder
import SequenceApi.Proofs.Diagram.Status
import SequenceApi.Proofs.Document.Origin
import SequenceApi.Proofs.Document.Objections
import SequenceApi.Proofs.Document.Validity
import SequenceApi.Proofs.Diagram.Decomposition
import SequenceApi.Proofs.Diagram.Growth
import SequenceApi.Proofs.Document.Isolation
import SequenceApi.Proofs.Document.Extraction
import SequenceApi.Proofs.Diagram.Waiting
import SequenceApi.Proofs.Document.WellFormed
import SequenceApi.Proofs.Document.Dangling
import SequenceApi.Proofs.Document.Closure
import SequenceApi.Proofs.Diagram.Payload
import SequenceApi.Proofs.Diagram.Acceptance
import SequenceApi.Proofs.Number.Rounding
import SequenceApi.Proofs.Number.Figures
import SequenceApi.Proofs.Json.Readable
import SequenceApi.Proofs.Json.Within
import SequenceApi.Proofs.Json.Spelling
import SequenceApi.Proofs.Json.RoundTrip
import SequenceApi.Proofs.Schema.Readable
import SequenceApi.Proofs.Document.Reporting
import SequenceApi.Proofs.Document.Readable
import SequenceApi.Proofs.Document.Printed
import SequenceApi.Proofs.Schema.Registration
import SequenceApi.Proofs.Schema.Instance
import SequenceApi.Proofs.Document.LastWriter
import SequenceApi.Proofs.Command.Generate
import SequenceApi.Proofs.Document.Layout
import SequenceApi.Proofs.Diagram.Exchange
import SequenceApi.Proofs.Store.Atomic
import SequenceApi.Proofs.Command.Stages
import SequenceApi.Proofs.Command.Verbosity
import SequenceApi.Proofs.Diagram.Tally
import SequenceApi.Proofs.Diagram.Enrichment
import SequenceApi.Proofs.Diagram.Grammar
import SequenceApi.Proofs.Diagram.Code
import SequenceApi.Proofs.Note.Body
import SequenceApi.Proofs.Note.Lines
import SequenceApi.Proofs.Note.Entry
import SequenceApi.Proofs.Document.Services
import SequenceApi.Proofs.Schema.Mirror
import SequenceApi.Proofs.Schema.Rule
import SequenceApi.Proofs.RequestPath
import SequenceApi.Proofs.RequestPath.Nesting
import SequenceApi.Proofs.RequestPath.Balance
import SequenceApi.Proofs.Reference.Pointer
import SequenceApi.Proofs.Settings.Precedence
import SequenceApi.Proofs.Settings.Failure
import SequenceApi.Proofs.Source.Failure
import SequenceApi.Proofs.Json.Alike
import SequenceApi.Proofs.Schema.Invariant
import SequenceApi.Proofs.Document.FileName
import SequenceApi.Proofs.Command.Folder
import SequenceApi.Proofs.Diagram.Quoted
import SequenceApi.Proofs.Console.Table
import SequenceApi.Proofs.Json.Standard
import SequenceApi.Proofs.Document.Standard
