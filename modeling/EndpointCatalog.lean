import EndpointCatalog.Archive.Fault
import EndpointCatalog.Archive.Gzip
import EndpointCatalog.Archive.Inflate
import EndpointCatalog.Archive.Member
import EndpointCatalog.Archive.Tar
import EndpointCatalog.Archive.Unpacking
import EndpointCatalog.Catalog
import EndpointCatalog.CommandLine
import EndpointCatalog.CommandLine.Arguments
import EndpointCatalog.Console.Emoji
import EndpointCatalog.Console.EmojiNames
import EndpointCatalog.Console.Markup
import EndpointCatalog.Console.Style
import EndpointCatalog.Console.Table
import EndpointCatalog.Console.Wrap
import EndpointCatalog.Cst.Bytes
import EndpointCatalog.Cst.Conversion
import EndpointCatalog.Cst.Dialect
import EndpointCatalog.Cst.FaultSearch
import EndpointCatalog.Cst.Node
import EndpointCatalog.Cst.Parser
import EndpointCatalog.Cst.Parser.Class
import EndpointCatalog.Cst.Parser.Declaration
import EndpointCatalog.Cst.Parser.Literal
import EndpointCatalog.Cst.Parser.Operand
import EndpointCatalog.Cst.Parser.Operator
import EndpointCatalog.Cst.Parser.Parameter
import EndpointCatalog.Cst.Parser.Signature
import EndpointCatalog.Cst.Parser.State
import EndpointCatalog.Cst.Parser.Statement
import EndpointCatalog.Cst.Parser.Type
import EndpointCatalog.Cst.Projection
import EndpointCatalog.Cst.Token.Extent
import EndpointCatalog.Cst.Token.Semicolon
import EndpointCatalog.Detection
import EndpointCatalog.Dialect
import EndpointCatalog.Discovery
import EndpointCatalog.Estree.Dialect
import EndpointCatalog.Estree.Fault
import EndpointCatalog.Estree.Node
import EndpointCatalog.Estree.Parser
import EndpointCatalog.Estree.Parser.Binding
import EndpointCatalog.Estree.Parser.Class
import EndpointCatalog.Estree.Parser.Function
import EndpointCatalog.Estree.Parser.Module
import EndpointCatalog.Estree.Parser.Operator
import EndpointCatalog.Estree.Parser.Primary
import EndpointCatalog.Estree.Parser.State
import EndpointCatalog.Estree.Parser.Statement
import EndpointCatalog.Estree.Spelling
import EndpointCatalog.Estree.Token
import EndpointCatalog.Estree.Token.Escape
import EndpointCatalog.Estree.Token.Extent
import EndpointCatalog.Estree.Token.Lexer
import EndpointCatalog.Estree.Token.Numeral
import EndpointCatalog.Estree.Token.Regex
import EndpointCatalog.Extraction
import EndpointCatalog.Failure
import EndpointCatalog.FileTree
import EndpointCatalog.FileTree.Disk
import EndpointCatalog.FileTree.Visit
import EndpointCatalog.Json.Reader
import EndpointCatalog.Json.Writer
import EndpointCatalog.Log
import EndpointCatalog.Loop
import EndpointCatalog.Main
import EndpointCatalog.Matching
import EndpointCatalog.Metadata
import EndpointCatalog.Number.Binary64
import EndpointCatalog.Number.Literal
import EndpointCatalog.Number.Shortest
import EndpointCatalog.Path
import EndpointCatalog.Pattern.Acceptance
import EndpointCatalog.Profile
import EndpointCatalog.Proofs.Acquisition
import EndpointCatalog.Proofs.Acquisition.Page
import EndpointCatalog.Proofs.Acquisition.Redaction
import EndpointCatalog.Proofs.Acquisition.Source
import EndpointCatalog.Proofs.Catalog
import EndpointCatalog.Proofs.Comments.Metadata
import EndpointCatalog.Proofs.Comments.Reads
import EndpointCatalog.Proofs.Comments.Relation
import EndpointCatalog.Proofs.Comments.Route
import EndpointCatalog.Proofs.Configuration
import EndpointCatalog.Proofs.Confinement
import EndpointCatalog.Proofs.Console.Emoji
import EndpointCatalog.Proofs.Console.Escaped
import EndpointCatalog.Proofs.Console.Pieces
import EndpointCatalog.Proofs.Console.Shown
import EndpointCatalog.Proofs.Conversion
import EndpointCatalog.Proofs.Correspondence
import EndpointCatalog.Proofs.Custody
import EndpointCatalog.Proofs.Custody.Effects
import EndpointCatalog.Proofs.Detection
import EndpointCatalog.Proofs.Detection.Enumeration
import EndpointCatalog.Proofs.Detection.Points
import EndpointCatalog.Proofs.Detection.Tally
import EndpointCatalog.Proofs.Entries
import EndpointCatalog.Proofs.Escape.Halves
import EndpointCatalog.Proofs.Escape.Spelling
import EndpointCatalog.Proofs.Fallback
import EndpointCatalog.Proofs.FaultSearch
import EndpointCatalog.Proofs.FileTree
import EndpointCatalog.Proofs.FileTree.Following
import EndpointCatalog.Proofs.FileTree.Reordering
import EndpointCatalog.Proofs.FileTree.Staying
import EndpointCatalog.Proofs.FileTree.Writing
import EndpointCatalog.Proofs.Handler.Agreement
import EndpointCatalog.Proofs.Handler.Chain
import EndpointCatalog.Proofs.Handler.Code
import EndpointCatalog.Proofs.Handler.Parameters
import EndpointCatalog.Proofs.Handler.Recorded
import EndpointCatalog.Proofs.Handler.Scan
import EndpointCatalog.Proofs.Handler.Script
import EndpointCatalog.Proofs.Handler.Shape
import EndpointCatalog.Proofs.Handler.Typed
import EndpointCatalog.Proofs.Handler.Wrapped
import EndpointCatalog.Proofs.HandlerReads
import EndpointCatalog.Proofs.Json.Document
import EndpointCatalog.Proofs.Json.Grammar
import EndpointCatalog.Proofs.Json.Numeral
import EndpointCatalog.Proofs.Json.Quoted
import EndpointCatalog.Proofs.LineNumber
import EndpointCatalog.Proofs.Listing
import EndpointCatalog.Proofs.Literal.Agreement
import EndpointCatalog.Proofs.Literal.Expression
import EndpointCatalog.Proofs.Literal.Integer
import EndpointCatalog.Proofs.Literal.IntegerNode
import EndpointCatalog.Proofs.Literal.IntegerScan
import EndpointCatalog.Proofs.Literal.Numeral
import EndpointCatalog.Proofs.Literal.Spelling
import EndpointCatalog.Proofs.Literal.Wrapped
import EndpointCatalog.Proofs.Literals
import EndpointCatalog.Proofs.Number.Rounding
import EndpointCatalog.Proofs.Number.Shortest
import EndpointCatalog.Proofs.Observation
import EndpointCatalog.Proofs.Path
import EndpointCatalog.Proofs.Printed
import EndpointCatalog.Proofs.Projection
import EndpointCatalog.Proofs.Release
import EndpointCatalog.Proofs.Report
import EndpointCatalog.Proofs.Resource
import EndpointCatalog.Proofs.Rules
import EndpointCatalog.Proofs.Run
import EndpointCatalog.Proofs.Safety.Assignment
import EndpointCatalog.Proofs.Safety.Binding
import EndpointCatalog.Proofs.Safety.Extraction
import EndpointCatalog.Proofs.Safety.Function
import EndpointCatalog.Proofs.Safety.Node
import EndpointCatalog.Proofs.Safety.Operator
import EndpointCatalog.Proofs.Safety.Primary
import EndpointCatalog.Proofs.Safety.Reader
import EndpointCatalog.Proofs.Safety.Record
import EndpointCatalog.Proofs.Safety.Script
import EndpointCatalog.Proofs.Safety.Shape
import EndpointCatalog.Proofs.Safety.Statement
import EndpointCatalog.Proofs.Safety.Typed
import EndpointCatalog.Proofs.SchemaKeys
import EndpointCatalog.Proofs.SourceFiles
import EndpointCatalog.Proofs.Stored
import EndpointCatalog.Proofs.Template
import EndpointCatalog.Proofs.Temporary
import EndpointCatalog.Proofs.Unpacking
import EndpointCatalog.Proofs.Utf8
import EndpointCatalog.Proofs.Validation
import EndpointCatalog.Proofs.Vendored.Listing
import EndpointCatalog.Proofs.Vendored.Outside
import EndpointCatalog.Proofs.Vendored.Scene
import EndpointCatalog.Proofs.Walk
import EndpointCatalog.Proofs.Walking.Change
import EndpointCatalog.Proofs.Walking.Contract
import EndpointCatalog.Proofs.Walking.Ending
import EndpointCatalog.Proofs.Walking.Pruning
import EndpointCatalog.Proofs.Walking.Roots
import EndpointCatalog.Proofs.Walking.Sight
import EndpointCatalog.Record
import EndpointCatalog.Record.Validation
import EndpointCatalog.Remote.Address
import EndpointCatalog.Remote.Checkout
import EndpointCatalog.Remote.Locator
import EndpointCatalog.Remote.Outside
import EndpointCatalog.Remote.Url
import EndpointCatalog.Report
import EndpointCatalog.Resource
import EndpointCatalog.Session
import EndpointCatalog.Settings
import EndpointCatalog.Text
import EndpointCatalog.Text.Blank
import EndpointCatalog.Text.Escape
import EndpointCatalog.Text.Letter
import EndpointCatalog.Text.Quoted
import EndpointCatalog.Text.Replacement
import EndpointCatalog.Text.Utf8
import EndpointCatalog.Text.Visible
import EndpointCatalog.Text.Width
import EndpointCatalog.Tree
import EndpointCatalog.Tree.Same
import EndpointCatalog.Tree.Walk
