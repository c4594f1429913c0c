import TypedClient.Client.Artifact
import TypedClient.Client.Bootstrap
import TypedClient.Client.Files
import TypedClient.Client.Hooks
import TypedClient.Client.Requests
import TypedClient.Client.Types
import TypedClient.CommandLine.Arguments
import TypedClient.CommandLine.Help
import TypedClient.CommandLine.Outcome
import TypedClient.CommandLine.Setting
import TypedClient.Document.Basic
import TypedClient.Document.Decoding
import TypedClient.Document.Format
import TypedClient.Document.Lookup
import TypedClient.Endpoint.Basic
import TypedClient.Endpoint.Extraction
import TypedClient.Json.Basic
import TypedClient.Json.Compact
import TypedClient.Json.Cursor
import TypedClient.Json.Decoder
import TypedClient.Json.Fault
import TypedClient.Json.Lexeme
import TypedClient.Json.Members
import TypedClient.Json.Reader
import TypedClient.Main
import TypedClient.Model
import TypedClient.Naming
import TypedClient.Number.Binary64
import TypedClient.Number.Decimal
import TypedClient.Number.Layout
import TypedClient.Number.Shortest
import TypedClient.Ordered
import TypedClient.PathTemplate
import TypedClient.Proofs.Client.BoundTypes
import TypedClient.Proofs.Client.Documentation
import TypedClient.Proofs.Client.Forwarding
import TypedClient.Proofs.Client.Lockstep
import TypedClient.Proofs.Client.NoDocument
import TypedClient.Proofs.Client.Printable
import TypedClient.Proofs.Client.PrintedHooks
import TypedClient.Proofs.Client.PrintedRequests
import TypedClient.Proofs.Client.QueryKeys
import TypedClient.Proofs.Client.RequestCall
import TypedClient.Proofs.Client.TypeComments
import TypedClient.Proofs.Client.TypeNames
import TypedClient.Proofs.Client.UsedNames
import TypedClient.Proofs.Document.ReferenceChains
import TypedClient.Proofs.Document.Renewal
import TypedClient.Proofs.Document.RenewedReferences
import TypedClient.Proofs.Endpoint.Agreement
import TypedClient.Proofs.Endpoint.ArgumentNames
import TypedClient.Proofs.Endpoint.Declared
import TypedClient.Proofs.Endpoint.Extraction
import TypedClient.Proofs.Endpoint.HiddenNames
import TypedClient.Proofs.Endpoint.Isolation
import TypedClient.Proofs.Endpoint.Naming
import TypedClient.Proofs.Endpoint.ParameterOrder
import TypedClient.Proofs.Endpoint.PathIdentifiers
import TypedClient.Proofs.Endpoint.PathParameters
import TypedClient.Proofs.Endpoint.Renewal
import TypedClient.Proofs.Endpoint.Symbols
import TypedClient.Proofs.Endpoint.UsedSchemas
import TypedClient.Proofs.Json.LiteralType
import TypedClient.Proofs.Json.NumberText
import TypedClient.Proofs.Model.Allocation
import TypedClient.Proofs.Model.EndpointNames
import TypedClient.Proofs.Model.Hoisting
import TypedClient.Proofs.Model.Merging
import TypedClient.Proofs.Model.NameSearch
import TypedClient.Proofs.Model.Names
import TypedClient.Proofs.Model.Placement
import TypedClient.Proofs.Model.TypeSymbols
import TypedClient.Proofs.Naming.CamelCase
import TypedClient.Proofs.Naming.PathNames
import TypedClient.Proofs.Reference.Alias
import TypedClient.Proofs.Reference.Calls
import TypedClient.Proofs.Reference.Chain
import TypedClient.Proofs.Reference.Circularity
import TypedClient.Proofs.Reference.Correspondence
import TypedClient.Proofs.Reference.Declarations
import TypedClient.Proofs.Reference.FreshNames
import TypedClient.Proofs.Reference.Inlining
import TypedClient.Proofs.Reference.Meaning
import TypedClient.Proofs.Reference.PointerNames
import TypedClient.Proofs.Reference.Resolution
import TypedClient.Proofs.Reference.SymbolNames
import TypedClient.Proofs.Reference.Symbols
import TypedClient.Proofs.Reference.Termination
import TypedClient.Proofs.Reference.Trail
import TypedClient.Proofs.Reference.Visibility
import TypedClient.Proofs.Reference.Walk
import TypedClient.Proofs.Run.History
import TypedClient.Proofs.Run.Loading
import TypedClient.Proofs.Run.Steps
import TypedClient.Proofs.Run.Writing
import TypedClient.Proofs.Schema.Components
import TypedClient.Proofs.Schema.Exposed
import TypedClient.Proofs.Schema.KeywordOrder
import TypedClient.Proofs.Schema.Nullability
import TypedClient.Proofs.Schema.Parts
import TypedClient.Proofs.Schema.Pointers
import TypedClient.Proofs.Script.Binding
import TypedClient.Proofs.Script.BlockComment
import TypedClient.Proofs.Script.Callees
import TypedClient.Proofs.Script.Identifier
import TypedClient.Proofs.Script.Lines
import TypedClient.Proofs.Script.Mentions
import TypedClient.Proofs.Script.Request
import TypedClient.Proofs.Script.StringLiteral
import TypedClient.Proofs.Script.Template
import TypedClient.Proofs.Script.TypeTexts
import TypedClient.Proofs.Script.ValidIdentifier
import TypedClient.Proofs.ScriptText.Declarations
import TypedClient.Proofs.ScriptText.Faithful
import TypedClient.Proofs.ScriptText.Legible
import TypedClient.Proofs.ScriptText.Reading
import TypedClient.Proofs.ScriptText.Scanning
import TypedClient.Proofs.ScriptText.Tree
import TypedClient.Proofs.ScriptText.Types
import TypedClient.Proofs.ScriptText.Written
import TypedClient.Proofs.Shape.Denoted
import TypedClient.Proofs.Shape.Reading
import TypedClient.Proofs.Shape.Renaming
import TypedClient.Proofs.Shape.Spelling
import TypedClient.Proofs.Shape.TypeNames
import TypedClient.Proofs.Shape.Unfolding
import TypedClient.Proofs.TypeText.Denotation
import TypedClient.Proofs.TypeText.Expression
import TypedClient.Proofs.TypeText.Layout
import TypedClient.Proofs.TypeText.Names
import TypedClient.Proofs.TypeText.Reading
import TypedClient.Proofs.TypeText.Spelling
import TypedClient.Proofs.TypeText.Token
import TypedClient.Proofs.Workspace.Creation
import TypedClient.Proofs.Workspace.Edits
import TypedClient.Proofs.Workspace.Files
import TypedClient.Proofs.Workspace.Places
import TypedClient.Proofs.Yaml.PlainScalar
import TypedClient.Proofs.Yaml.Prose
import TypedClient.Reference.Expansion
import TypedClient.Reference.Fresh
import TypedClient.Reference.Pointer
import TypedClient.Reference.Resolver
import TypedClient.Run.Failure
import TypedClient.Run.Generation
import TypedClient.Run.Loading
import TypedClient.Run.Request
import TypedClient.Run.Surroundings
import TypedClient.Run.Writing
import TypedClient.Schema.Basic
import TypedClient.Schema.Keywords
import TypedClient.Script.Expression
import TypedClient.Script.File
import TypedClient.Script.Identifier
import TypedClient.Script.Literal
import TypedClient.Shape.Basic
import TypedClient.Shape.Render
import TypedClient.Source
import TypedClient.Text.Blank
import TypedClient.Text.Digits
import TypedClient.Text.Quoted
import TypedClient.Text.Split
import TypedClient.Text.Uppercase
import TypedClient.Text.Visible
import TypedClient.Url.Basic
import TypedClient.Url.Domain
import TypedClient.Url.Host
import TypedClient.Url.Percent
import TypedClient.Url.Punycode
import TypedClient.Url.Reading
import TypedClient.Warning
import TypedClient.Workspace.Basic
import TypedClient.Workspace.Fault
import TypedClient.Workspace.Operations
import TypedClient.Yaml.Conversion
import TypedClient.Yaml.Event
import TypedClient.Yaml.Fault
import TypedClient.Yaml.Reading
import TypedClient.Yaml.Scalar
import TypedClient.Yaml.Token
import TypedClient.Yaml.Token.Cursor
import TypedClient.Yaml.Token.Scalar
import TypedClient.Yaml.Token.Stream
import TypedClient.Yaml.Token.Tag
import TypedClient.Yaml.Value
