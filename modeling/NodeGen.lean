import NodeGen.Command
import NodeGen.Command.Arguments
import NodeGen.Command.Dump
import NodeGen.Command.Run
import NodeGen.Decimal.Binary
import NodeGen.Decimal.Shortest
import NodeGen.Decimal.Text
import NodeGen.Document.Load
import NodeGen.Document.OfValue
import NodeGen.Document.Reader
import NodeGen.FileTree
import NodeGen.FileTree.Matching
import NodeGen.FileTree.Path
import NodeGen.FileTree.Units
import NodeGen.Json.Fault
import NodeGen.Json.Pointer
import NodeGen.Json.Printer
import NodeGen.Json.Reader
import NodeGen.Json.Scan
import NodeGen.Json.Value
import NodeGen.Layout
import NodeGen.Layout.Emitter
import NodeGen.Main
import NodeGen.Name
import NodeGen.Pattern
import NodeGen.Proofs.Checks
import NodeGen.Query
import NodeGen.Query.Common
import NodeGen.Query.Eval
import NodeGen.Query.Filter
import NodeGen.Query.Parser
import NodeGen.Query.Token
import NodeGen.Query.Value
import NodeGen.Schema
import NodeGen.Schema.Error
import NodeGen.Schema.Json
import NodeGen.Schema.Validity
import NodeGen.Source
import NodeGen.Source.Lox
import NodeGen.Source.Resolve
import NodeGen.Source.TypeText
import NodeGen.Target
import NodeGen.Target.Java
import NodeGen.Target.Java.Keyword
import NodeGen.Target.Reserved
import NodeGen.Target.Rust
import NodeGen.Target.Rust.Ident
import NodeGen.Text.Blank
import NodeGen.Text.Bounds
import NodeGen.Text.Lowercase
import NodeGen.Text.Printable
import NodeGen.Text.Quoted
import NodeGen.Proofs.Schema.Valid
import NodeGen.Proofs.Schema.Faults
import NodeGen.Proofs.Target.Accepted
import NodeGen.Proofs.Source.Resolution
import NodeGen.Proofs.Layout.Outline
import NodeGen.Proofs.Layout.Emission
import NodeGen.Proofs.Name
import NodeGen.Proofs.Name.Joined
import NodeGen.Proofs.Name.Words
import NodeGen.Proofs.Target.Legibility
import NodeGen.Proofs.Target.Dispatch
import NodeGen.Proofs.Target.Rust.Ident
import NodeGen.Proofs.Target.Declarations
import NodeGen.Proofs.Target.Linkage
import NodeGen.Proofs.Target.Listing
import NodeGen.Proofs.Target.Recovery
import NodeGen.Proofs.Source.Scope
import NodeGen.Proofs.Source.Reordering
import NodeGen.Proofs.Target.Java.Likeness
import NodeGen.Proofs.Target.Java.Erasure
import NodeGen.Proofs.Target.Java.Nesting
import NodeGen.Proofs.Source.Merging
import NodeGen.Proofs.Json.Grammar
import NodeGen.Proofs.Json.Completeness
import NodeGen.Proofs.Document.Encoding
import NodeGen.Proofs.FileTree.Path
import NodeGen.Proofs.FileTree.Change
import NodeGen.Proofs.Command.Effects
import NodeGen.Proofs.FileTree.Writing
import NodeGen.Proofs.Target.Scopes
import NodeGen.Proofs.Target.Rust.Collision
import NodeGen.Proofs.Target.Rust.Spelling
import NodeGen.Proofs.Target.TypeNames
import NodeGen.Proofs.Target.Rust.Containment
import NodeGen.Proofs.Target.Rust.Indirection
import NodeGen.Proofs.Source.Capture
import NodeGen.Proofs.Source.Rereading
import NodeGen.Proofs.Source.Brackets
import NodeGen.Proofs.Source.Nested
import NodeGen.Proofs.Source.Forms
import NodeGen.Proofs.Source.Composition
import NodeGen.Proofs.Source.NormalForm
import NodeGen.Proofs.Source.Malformed
import NodeGen.Proofs.Source.FirstFault
import NodeGen.Proofs.Document.Grouping
import NodeGen.Proofs.Schema.DispatchNames
import NodeGen.Proofs.Json.Collapse
import NodeGen.Proofs.Json.Entire
import NodeGen.Proofs.Json.Remainder
import NodeGen.Proofs.Json.Written
import NodeGen.Proofs.Json.Extent
import NodeGen.Proofs.Document.Agreement
import NodeGen.Proofs.Document.Selection
import NodeGen.Proofs.Document.Repetition
import NodeGen.Proofs.Command.Imports
import NodeGen.Proofs.Json.Soundness
import NodeGen.Proofs.Json.Validity
import NodeGen.Proofs.Json.Printed
import NodeGen.Proofs.Schema.Printed
import NodeGen.Proofs.Command.Printed
import NodeGen.Proofs.Document.Recognition
import NodeGen.Proofs.Document.Beginning
import NodeGen.Proofs.Target.Construction
