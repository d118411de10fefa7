import KindDispatch.Applicability
import KindDispatch.Bench.Counting
import KindDispatch.Bench.Passes
import KindDispatch.Bench.Run
import KindDispatch.Binary64.Basic
import KindDispatch.Binary64.Reading
import KindDispatch.Binary64.Shortest
import KindDispatch.CommandLine.Arguments
import KindDispatch.CommandLine.Run
import KindDispatch.Config
import KindDispatch.Config.File
import KindDispatch.Corpus
import KindDispatch.Dispatch.Basic
import KindDispatch.Dispatch.Cached
import KindDispatch.Dispatch.Memo
import KindDispatch.Dispatch.Naive
import KindDispatch.Dispatch.Shared
import KindDispatch.Error
import KindDispatch.Files.Collect
import KindDispatch.Files.Path
import KindDispatch.Files.Tree
import KindDispatch.Files.Utf8
import KindDispatch.Heap
import KindDispatch.Json.Forest
import KindDispatch.Json.Text
import KindDispatch.Kind
import KindDispatch.KindSet
import KindDispatch.Main
import KindDispatch.Node
import KindDispatch.Registry
import KindDispatch.Report.Basic
import KindDispatch.Report.Figures
import KindDispatch.Report.Json
import KindDispatch.Report.Text
import KindDispatch.Source.Blank
import KindDispatch.Source.CharacterClass
import KindDispatch.Source.CharacterWidth
import KindDispatch.Source.Cursor
import KindDispatch.Source.Grammar.Expression
import KindDispatch.Source.Grammar.File
import KindDispatch.Source.Grammar.Generics
import KindDispatch.Source.Grammar.Item
import KindDispatch.Source.Grammar.Path
import KindDispatch.Source.Grammar.Pattern
import KindDispatch.Source.Grammar.Rule
import KindDispatch.Source.Grammar.Statement
import KindDispatch.Source.Grammar.Type
import KindDispatch.Source.Literal
import KindDispatch.Source.Lowering
import KindDispatch.Source.Parse
import KindDispatch.Source.Parser
import KindDispatch.Source.Position
import KindDispatch.Source.Slice
import KindDispatch.Source.Snippet
import KindDispatch.Source.Syntax
import KindDispatch.Source.Token
import KindDispatch.Source.TokenStream
import KindDispatch.Toml.Document
import KindDispatch.Toml.Failure
import KindDispatch.Toml.Item
import KindDispatch.Toml.Reader
import KindDispatch.Toml.Scalar
import KindDispatch.Toml.Visible
import KindDispatch.Traversal.Engine
import KindDispatch.Traversal.Script
import KindDispatch.Traversal.Traverser
import KindDispatch.Traversal.Walk
import KindDispatch.Visitor
import KindDispatch.Proofs.Dispatch.Interleaving
import KindDispatch.Proofs.Traversal.Simulation
import KindDispatch.Proofs.Traversal.Plain
import KindDispatch.Proofs.Traversal.History
import KindDispatch.Proofs.Dispatch.Counters
import KindDispatch.Proofs.Bench.Counting
import KindDispatch.Proofs.Bench.Passes
import KindDispatch.Proofs.Bench.Concurrent
import KindDispatch.Proofs.Bench.Costs
import KindDispatch.Proofs.Traversal.Edits
import KindDispatch.Proofs.Traversal.Stop
import KindDispatch.Proofs.Traversal.Termination
import KindDispatch.Proofs.Dispatch.Hits
import KindDispatch.Proofs.Traversal.Parallel
import KindDispatch.Proofs.Traversal.Composition
import KindDispatch.Proofs.Traversal.Tour
import KindDispatch.Proofs.Traversal.ReadOnly
import KindDispatch.Proofs.Traversal.Passive
import KindDispatch.Proofs.Traversal.Filtering
import KindDispatch.Proofs.Traversal.Visits
import KindDispatch.Proofs.Dispatch.Lifetime
import KindDispatch.Proofs.Dispatch.Bounded
import KindDispatch.Proofs.Traversal.Effects
import KindDispatch.Proofs.Traversal.Accounts
import KindDispatch.Proofs.Traversal.Ranges
import KindDispatch.Proofs.Source.Lowering
import KindDispatch.Proofs.Traversal.InPlace
import KindDispatch.Proofs.Source.Highlight
import KindDispatch.Proofs.Source.ByteOrderMark
import KindDispatch.Proofs.Source.Reading
import KindDispatch.Proofs.Source.Items
import KindDispatch.Proofs.Source.TakenFrom
import KindDispatch.Proofs.Source.Reads
import KindDispatch.Proofs.Source.Grammar
import KindDispatch.Proofs.Source.Scanning
import KindDispatch.Proofs.Source.Tokens
import KindDispatch.Proofs.Source.Roots
import KindDispatch.Proofs.Source.Lines
import KindDispatch.Proofs.Source.Slices
import KindDispatch.Proofs.Files.Collected
import KindDispatch.Proofs.Corpus.Loading
import KindDispatch.Proofs.Files.Spellings
import KindDispatch.Proofs.Registration.Refusals
import KindDispatch.Proofs.Heap.Accounting
import KindDispatch.Proofs.Json.Forests
import KindDispatch.Proofs.Report.Envelope
import KindDispatch.Proofs.Report.ByteCounts
import KindDispatch.Proofs.Report.Thousands
import KindDispatch.Proofs.Report.Decimals
import KindDispatch.Proofs.Forest.Histogram
import KindDispatch.Proofs.Files.Extensions
