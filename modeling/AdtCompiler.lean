import AdtCompiler.Backend.Basic
import AdtCompiler.Backend.GoDecl
import AdtCompiler.Backend.GoName
import AdtCompiler.Backend.GoRules
import AdtCompiler.Backend.GoType
import AdtCompiler.Backend.GoUnit
import AdtCompiler.Backend.JavaBody
import AdtCompiler.Backend.JavaRules
import AdtCompiler.Backend.JavaType
import AdtCompiler.Backend.JavaUnit
import AdtCompiler.Cache.Disk
import AdtCompiler.Cache.Entry
import AdtCompiler.Check.Finding
import AdtCompiler.Check.Names
import AdtCompiler.CommandLine.Command
import AdtCompiler.CommandLine.Flag
import AdtCompiler.CommandLine.Profile
import AdtCompiler.CommandLine.Run
import AdtCompiler.Diagnostic.Bag
import AdtCompiler.Diagnostic.Basic
import AdtCompiler.Diagnostic.Colour
import AdtCompiler.Diagnostic.Report
import AdtCompiler.Digest.Framed
import AdtCompiler.Digest.Sha256
import AdtCompiler.Emit
import AdtCompiler.Format.Json
import AdtCompiler.Format.MessagePack
import AdtCompiler.Format.Toml.Document
import AdtCompiler.Format.Toml.Moment
import AdtCompiler.Format.Toml.Number
import AdtCompiler.Format.Toml.Quoted
import AdtCompiler.Format.Toml.Statement
import AdtCompiler.Format.Yaml
import AdtCompiler.Format.Yaml.Plain
import AdtCompiler.Host.Basic
import AdtCompiler.Host.Directory
import AdtCompiler.Host.Failure
import AdtCompiler.Host.FileError
import AdtCompiler.Host.Log
import AdtCompiler.Host.Store
import AdtCompiler.Host.System
import AdtCompiler.Layout.BuildConstraint
import AdtCompiler.Layout.BuildLines
import AdtCompiler.Layout.Columns
import AdtCompiler.Layout.Comment
import AdtCompiler.Layout.Doc.Running
import AdtCompiler.Layout.Doc.Span
import AdtCompiler.Layout.Doc.Text
import AdtCompiler.Layout.DocComment
import AdtCompiler.Layout.Head
import AdtCompiler.Layout.HeadText
import AdtCompiler.Layout.ImportGroup
import AdtCompiler.Layout.ImportPath
import AdtCompiler.Layout.Imports
import AdtCompiler.Layout.Lexeme
import AdtCompiler.Layout.Lines
import AdtCompiler.Layout.Pen
import AdtCompiler.Layout.PenComment
import AdtCompiler.Main
import AdtCompiler.Path
import AdtCompiler.Proofs.Acceptance
import AdtCompiler.Proofs.Cache
import AdtCompiler.Proofs.CacheClearing
import AdtCompiler.Proofs.CacheHistory
import AdtCompiler.Proofs.CacheSoundness
import AdtCompiler.Proofs.Clash
import AdtCompiler.Proofs.Collisions
import AdtCompiler.Proofs.Composition
import AdtCompiler.Proofs.CursorWalk
import AdtCompiler.Proofs.FaultyWorld
import AdtCompiler.Proofs.FileUnits
import AdtCompiler.Proofs.Framing
import AdtCompiler.Proofs.FreshName
import AdtCompiler.Proofs.GoPackage
import AdtCompiler.Proofs.GoScope
import AdtCompiler.Proofs.GoText
import AdtCompiler.Proofs.Grammar
import AdtCompiler.Proofs.JavaScope
import AdtCompiler.Proofs.Lexeme
import AdtCompiler.Proofs.Name
import AdtCompiler.Proofs.Packing
import AdtCompiler.Proofs.Path
import AdtCompiler.Proofs.Position
import AdtCompiler.Proofs.Publication
import AdtCompiler.Proofs.Readable
import AdtCompiler.Proofs.Reading
import AdtCompiler.Proofs.Rendering
import AdtCompiler.Proofs.Resolution
import AdtCompiler.Proofs.RoundTrip
import AdtCompiler.Proofs.RunOutcome
import AdtCompiler.Proofs.Scanning
import AdtCompiler.Proofs.SourceJob
import AdtCompiler.Proofs.Store
import AdtCompiler.Proofs.TargetLog
import AdtCompiler.Proofs.Tiling
import AdtCompiler.Proofs.UnitSequence
import AdtCompiler.Run.Generate
import AdtCompiler.Run.Inspect
import AdtCompiler.Run.Locate
import AdtCompiler.Run.Options
import AdtCompiler.Run.Timer
import AdtCompiler.SemVer.Basic
import AdtCompiler.SemVer.Requirement
import AdtCompiler.Settings.Basic
import AdtCompiler.Settings.Discovery
import AdtCompiler.Source.File
import AdtCompiler.Source.Normalize
import AdtCompiler.Source.Span
import AdtCompiler.Syntax.Doc
import AdtCompiler.Syntax.Parser
import AdtCompiler.Syntax.Printer
import AdtCompiler.Syntax.Ty
import AdtCompiler.Syntax.View
import AdtCompiler.Target.Basic
import AdtCompiler.Target.Fault
import AdtCompiler.Target.File
import AdtCompiler.Target.Memory
import AdtCompiler.Text.Base64
import AdtCompiler.Text.Basic
import AdtCompiler.Text.Blank
import AdtCompiler.Text.Calendar
import AdtCompiler.Text.Fraction
import AdtCompiler.Text.FreshName
import AdtCompiler.Text.Grapheme
import AdtCompiler.Text.Integer
import AdtCompiler.Text.Letter
import AdtCompiler.Text.Normal
import AdtCompiler.Text.Normal.Data
import AdtCompiler.Text.Printable
import AdtCompiler.Text.Quoted
import AdtCompiler.Text.RangeTable
import AdtCompiler.Text.Uppercase
import AdtCompiler.Text.Utf8
import AdtCompiler.Text.Width
import AdtCompiler.Token.Cursor
import AdtCompiler.Token.Kind
import AdtCompiler.Token.Lexer
import AdtCompiler.Token.Listing
import AdtCompiler.Token.Word
import AdtCompiler.Version
import AdtCompiler.Proofs.ReservedWords
import AdtCompiler.Proofs.Insertion
import AdtCompiler.Proofs.Lookahead
import AdtCompiler.Proofs.UnitPath
import AdtCompiler.Proofs.JavaMembers
import AdtCompiler.Proofs.FindingGrowth
import AdtCompiler.Proofs.FindingPlaces
import AdtCompiler.Proofs.TargetCalls
import AdtCompiler.Proofs.UnitCreation
import AdtCompiler.Proofs.TargetAgreement
import AdtCompiler.Proofs.JavaEquality
import AdtCompiler.Proofs.GoReference
import AdtCompiler.Proofs.JavaCore
import AdtCompiler.Proofs.Tameness
import AdtCompiler.Proofs.Collecting
import AdtCompiler.Proofs.CacheOpening
import AdtCompiler.Proofs.RecordedJob
import AdtCompiler.Proofs.WarmCache
import AdtCompiler.Proofs.GoRecord
import AdtCompiler.Proofs.Uppercase
import AdtCompiler.Proofs.GoMembers
import AdtCompiler.Proofs.Lines
import AdtCompiler.Proofs.Excerpt
import AdtCompiler.Proofs.SortedOrder
import AdtCompiler.Proofs.Deduplication
import AdtCompiler.Proofs.LineEnds
import AdtCompiler.Proofs.Provenance
import AdtCompiler.Proofs.FreshSearch
import AdtCompiler.Proofs.JavaBoxing
import AdtCompiler.Proofs.FindingOrder
import AdtCompiler.Proofs.StructuralEquality
