import ApiStubs.Asset.Builtin
import ApiStubs.Asset.Builtin.Go
import ApiStubs.Asset.Builtin.Java
import ApiStubs.Asset.Builtin.Php
import ApiStubs.Asset.Builtin.Typescript
import ApiStubs.Asset.Store
import ApiStubs.Backend.Basic
import ApiStubs.Backend.Registry
import ApiStubs.Backend.Session
import ApiStubs.Backend.View
import ApiStubs.CommandLine.Arguments
import ApiStubs.CommandLine.Run
import ApiStubs.Data.Dialogue
import ApiStubs.Data.Revision
import ApiStubs.Data.SortedMap
import ApiStubs.Disk.Basic
import ApiStubs.Disk.Fault
import ApiStubs.Disk.Host
import ApiStubs.Disk.Path
import ApiStubs.Disk.Publish
import ApiStubs.Failure
import ApiStubs.Generator
import ApiStubs.Json.Fault
import ApiStubs.Json.Number
import ApiStubs.Json.Reader
import ApiStubs.Json.Scan
import ApiStubs.Json.Skip
import ApiStubs.Json.Writer
import ApiStubs.Logging.Control
import ApiStubs.Logging.Level
import ApiStubs.Main
import ApiStubs.Number.Binary64
import ApiStubs.Number.Double
import ApiStubs.Number.Shortest
import ApiStubs.OutputFiles
import ApiStubs.Proofs.Asset.Lookup
import ApiStubs.Proofs.Builtin.Compiled
import ApiStubs.Proofs.Builtin.Go
import ApiStubs.Proofs.Builtin.Java
import ApiStubs.Proofs.Builtin.Pages
import ApiStubs.Proofs.Builtin.Php
import ApiStubs.Proofs.Builtin.Typescript
import ApiStubs.Proofs.Builtin.View
import ApiStubs.Proofs.CommandLine
import ApiStubs.Proofs.Constants
import ApiStubs.Proofs.Disk.Confinement
import ApiStubs.Proofs.Disk.Contents
import ApiStubs.Proofs.Disk.Programs
import ApiStubs.Proofs.Disk.Resolution
import ApiStubs.Proofs.Files.Go
import ApiStubs.Proofs.Files.Java
import ApiStubs.Proofs.Files.Php
import ApiStubs.Proofs.Files.TypescriptClients
import ApiStubs.Proofs.Files.TypescriptTypes
import ApiStubs.Proofs.Generation
import ApiStubs.Proofs.Imports
import ApiStubs.Proofs.Interfaces
import ApiStubs.Proofs.Json.Literal
import ApiStubs.Proofs.Json.Numeral
import ApiStubs.Proofs.Json.Passing
import ApiStubs.Proofs.Json.Place
import ApiStubs.Proofs.Json.Reading
import ApiStubs.Proofs.Json.Record
import ApiStubs.Proofs.Json.Rephrasing
import ApiStubs.Proofs.Json.Tree
import ApiStubs.Proofs.Json.Writing
import ApiStubs.Proofs.Loading
import ApiStubs.Proofs.MethodOptions
import ApiStubs.Proofs.OutputFiles
import ApiStubs.Proofs.OutputFiles.Runs
import ApiStubs.Proofs.Rearrangement
import ApiStubs.Proofs.Schema.Directory
import ApiStubs.Proofs.Schema.Flattening
import ApiStubs.Proofs.Schema.Package
import ApiStubs.Proofs.Schema.Qualification
import ApiStubs.Proofs.Schema.Respelling
import ApiStubs.Proofs.Schema.RoundTrip
import ApiStubs.Proofs.Session
import ApiStubs.Proofs.Settings.Layers
import ApiStubs.Proofs.Settings.Notations
import ApiStubs.Proofs.Settings.Parameter
import ApiStubs.Proofs.Template.Engines
import ApiStubs.Proofs.Template.Fuel
import ApiStubs.Proofs.Template.Mentions
import ApiStubs.Proofs.Template.Recognition
import ApiStubs.Proofs.Template.Sight
import ApiStubs.Proofs.Text.Utf8
import ApiStubs.Proofs.Toml.Lines
import ApiStubs.Proofs.Transports
import ApiStubs.Proofs.Verbs
import ApiStubs.Schema.Basic
import ApiStubs.Schema.Decode
import ApiStubs.Schema.Encode
import ApiStubs.Schema.Package
import ApiStubs.Schema.Subject
import ApiStubs.Schema.Union
import ApiStubs.Settings.Basic
import ApiStubs.Settings.Fault
import ApiStubs.Settings.Json
import ApiStubs.Settings.Parameter
import ApiStubs.Settings.Resolve
import ApiStubs.Settings.Toml
import ApiStubs.Target.Language
import ApiStubs.Template.Arithmetic
import ApiStubs.Template.Callable
import ApiStubs.Template.Capture
import ApiStubs.Template.Constant
import ApiStubs.Template.Engine
import ApiStubs.Template.Engines
import ApiStubs.Template.Equality
import ApiStubs.Template.Eval
import ApiStubs.Template.Fault
import ApiStubs.Template.Parser
import ApiStubs.Template.Scope
import ApiStubs.Template.Syntax
import ApiStubs.Template.Token
import ApiStubs.Template.Value
import ApiStubs.Text.Blank
import ApiStubs.Text.CaseData
import ApiStubs.Text.Casing
import ApiStubs.Text.CodeRange
import ApiStubs.Text.Decimal
import ApiStubs.Text.PrintData
import ApiStubs.Text.Quoted
import ApiStubs.Text.Split
import ApiStubs.Text.Utf8
import ApiStubs.Toml.Atom
import ApiStubs.Toml.Fault
import ApiStubs.Toml.Statement
import ApiStubs.Toml.Table
import ApiStubs.Toml.Text
