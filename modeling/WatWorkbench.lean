import WatWorkbench.Archive.Bzip2
import WatWorkbench.Archive.Crc32
import WatWorkbench.Archive.Deflate
import WatWorkbench.Archive.Entry
import WatWorkbench.Archive.Expansion
import WatWorkbench.Archive.Lzma
import WatWorkbench.Archive.PrefixCode
import WatWorkbench.Archive.Reader
import WatWorkbench.Archive.Writer
import WatWorkbench.Artifact
import WatWorkbench.Catalog
import WatWorkbench.CommandLine.Grammar
import WatWorkbench.CommandLine.Parser
import WatWorkbench.CommandLine.Usage
import WatWorkbench.Compiler
import WatWorkbench.Config.File
import WatWorkbench.Config.Settings
import WatWorkbench.Engine.Basic
import WatWorkbench.Engine.Dictionaries
import WatWorkbench.Engine.Imports
import WatWorkbench.Engine.Script
import WatWorkbench.Engine.Scripted
import WatWorkbench.Engine.WebAssembly
import WatWorkbench.Failure
import WatWorkbench.Files.Fault
import WatWorkbench.Files.Path
import WatWorkbench.Files.System
import WatWorkbench.Log.Capture
import WatWorkbench.Log.Entry
import WatWorkbench.Log.Kind
import WatWorkbench.Log.Record
import WatWorkbench.Log.Template
import WatWorkbench.Log.Tree
import WatWorkbench.Main
import WatWorkbench.Number.BinaryArithmetic
import WatWorkbench.Number.BinaryFormat
import WatWorkbench.Number.DecimalFormat
import WatWorkbench.Number.Double
import WatWorkbench.Number.LittleEndian
import WatWorkbench.Number.Numeral
import WatWorkbench.Packaging.Bundle
import WatWorkbench.Packaging.Documents
import WatWorkbench.Pipeline.Session
import WatWorkbench.Pipeline.World
import WatWorkbench.Playground.Handlers
import WatWorkbench.Playground.Page
import WatWorkbench.Program.Colour
import WatWorkbench.Program.Execution
import WatWorkbench.Program.Invocation
import WatWorkbench.Sandbox
import WatWorkbench.Schema.Assign
import WatWorkbench.Schema.Convert
import WatWorkbench.Schema.Report
import WatWorkbench.Text.Base64
import WatWorkbench.Text.Basic
import WatWorkbench.Text.Case
import WatWorkbench.Text.Classes
import WatWorkbench.Text.Pattern
import WatWorkbench.Text.Quoted
import WatWorkbench.Text.Utf8
import WatWorkbench.Value.Basic
import WatWorkbench.Value.Printer
import WatWorkbench.Wasm.Binary.Reader
import WatWorkbench.Wasm.Binary.Writer
import WatWorkbench.Wasm.Instance
import WatWorkbench.Wasm.Instantiation
import WatWorkbench.Wasm.Instr
import WatWorkbench.Wasm.Leb128
import WatWorkbench.Wasm.Machine
import WatWorkbench.Wasm.Memory
import WatWorkbench.Wasm.Module
import WatWorkbench.Wasm.Numeric
import WatWorkbench.Wasm.Table
import WatWorkbench.Wasm.Text.Field
import WatWorkbench.Wasm.Text.Literal
import WatWorkbench.Wasm.Text.Parser
import WatWorkbench.Wasm.Text.Parser.Instructions
import WatWorkbench.Wasm.Text.Parser.Parts
import WatWorkbench.Wasm.Text.Resolution
import WatWorkbench.Wasm.Text.Tree
import WatWorkbench.Wasm.Text.TypeTable
import WatWorkbench.Wasm.Translation
import WatWorkbench.Wasm.Trap
import WatWorkbench.Wasm.Types
import WatWorkbench.Wasm.Val
import WatWorkbench.Wasm.Validation
import WatWorkbench.Yaml.Content
import WatWorkbench.Yaml.Cursor
import WatWorkbench.Yaml.Fault
import WatWorkbench.Yaml.Grammar
import WatWorkbench.Yaml.Lexer.Basic
import WatWorkbench.Yaml.Lexer.Block
import WatWorkbench.Yaml.Lexer.Directive
import WatWorkbench.Yaml.Lexer.Plain
import WatWorkbench.Yaml.Lexer.Property
import WatWorkbench.Yaml.Lexer.Quoted
import WatWorkbench.Yaml.Lexer.Stream
import WatWorkbench.Yaml.Load
import WatWorkbench.Yaml.Node
import WatWorkbench.Yaml.Scalar
import WatWorkbench.Yaml.Tag
import WatWorkbench.Yaml.Timestamp
import WatWorkbench.Yaml.Token
import WatWorkbench.Proofs.Log.Exclusivity
import WatWorkbench.Proofs.Log.Interceptors
import WatWorkbench.Proofs.Log.Writing
import WatWorkbench.Proofs.Pipeline.Action
import WatWorkbench.Proofs.Pipeline.Compilation
import WatWorkbench.Proofs.Pipeline.Imports
import WatWorkbench.Proofs.Pipeline.Running
import WatWorkbench.Proofs.Pipeline.Operation
import WatWorkbench.Proofs.Pipeline.Underway
import WatWorkbench.Proofs.Pipeline.Settlement
import WatWorkbench.Proofs.Pipeline.Coherence
import WatWorkbench.Proofs.Pipeline.Alongside
import WatWorkbench.Proofs.Pipeline.Reentrancy
import WatWorkbench.Proofs.Log.Lending
import WatWorkbench.Proofs.Log.Restoration
import WatWorkbench.Proofs.Log.Capturing
import WatWorkbench.Proofs.Pipeline.Asking
import WatWorkbench.Proofs.Log.Places
import WatWorkbench.Proofs.Log.Delivery
import WatWorkbench.Proofs.Text.Utf8
import WatWorkbench.Proofs.Text.Points
import WatWorkbench.Proofs.Archive.Inflation
import WatWorkbench.Proofs.Archive.Fields
import WatWorkbench.Proofs.Archive.Entries
import WatWorkbench.Proofs.Archive.Directory
import WatWorkbench.Proofs.Archive.RoundTrip
import WatWorkbench.Proofs.Packaging.Bundle
import WatWorkbench.Proofs.Files.Places
import WatWorkbench.Proofs.Files.Temporary
import WatWorkbench.Proofs.Files.Refusal
import WatWorkbench.Proofs.Packaging.Publication
import WatWorkbench.Proofs.Yaml.Lexing
import WatWorkbench.Proofs.Yaml.Parsing
import WatWorkbench.Proofs.Yaml.Construction
import WatWorkbench.Proofs.Yaml.Scalars
import WatWorkbench.Proofs.Config.Loading
import WatWorkbench.Proofs.Wasm.Execution
import WatWorkbench.Proofs.Engine.Scripts
import WatWorkbench.Proofs.Engine.Budgets
import WatWorkbench.Proofs.Engine.HostCalls
import WatWorkbench.Proofs.Pipeline.HostCalls
import WatWorkbench.Proofs.Pipeline.Steadiness
import WatWorkbench.Proofs.Engine.Headers
import WatWorkbench.Proofs.Packaging.Execution
import WatWorkbench.Proofs.Log.Listening
import WatWorkbench.Proofs.Log.Likeness
import WatWorkbench.Proofs.Pipeline.Scribes
import WatWorkbench.Proofs.Pipeline.Budgets
import WatWorkbench.Proofs.Pipeline.Chronicle
import WatWorkbench.Proofs.Pipeline.RunLog
import WatWorkbench.Proofs.Pipeline.Independence
import WatWorkbench.Proofs.Wasm.References
import WatWorkbench.Proofs.Wasm.Refuelling
import WatWorkbench.Proofs.Engine.Spelling
import WatWorkbench.Proofs.Pipeline.Standard
import WatWorkbench.Proofs.Playground.Visits
import WatWorkbench.Proofs.CommandLine.Notes
import WatWorkbench.Proofs.Files.Writing
import WatWorkbench.Proofs.Program.Steps
import WatWorkbench.Proofs.Program.Endings
import WatWorkbench.Proofs.Program.Verbosity
import WatWorkbench.Proofs.Program.Effects
import WatWorkbench.Proofs.Log.Ascent
import WatWorkbench.Proofs.Log.Reaching
import WatWorkbench.Proofs.Log.Custody
import WatWorkbench.Proofs.Pipeline.Reachability
import WatWorkbench.Proofs.Pipeline.CompileLog
import WatWorkbench.Proofs.Packaging.Escapes
import WatWorkbench.Proofs.Pipeline.Blending
import WatWorkbench.Proofs.Pipeline.Overlays
import WatWorkbench.Proofs.Pipeline.PackageLog
import WatWorkbench.Proofs.Pipeline.LastResult
import WatWorkbench.Proofs.Log.Bystanders
import WatWorkbench.Proofs.Log.Handover
import WatWorkbench.Proofs.Text.Pieces
import WatWorkbench.Proofs.Pipeline.LogString
import WatWorkbench.Proofs.Engine.Aborting
import WatWorkbench.Proofs.Wasm.Names
import WatWorkbench.Proofs.Pipeline.HostFailures
import WatWorkbench.Proofs.Pipeline.Linking
import WatWorkbench.Proofs.Program.Destinations
import WatWorkbench.Proofs.Text.LineEnds
import WatWorkbench.Proofs.Program.Fidelity
import WatWorkbench.Proofs.Yaml.Keys
import WatWorkbench.Proofs.Config.Acceptance
