import ApiContract.CommandLine.Arguments
import ApiContract.CommandLine.Demand
import ApiContract.CommandLine.Flag
import ApiContract.CommandLine.Options
import ApiContract.CommandLine.Run
import ApiContract.Contract.Document
import ApiContract.Contract.Grouping
import ApiContract.Contract.Operation
import ApiContract.Convert
import ApiContract.Convert.Failure
import ApiContract.Convert.Host
import ApiContract.Environment
import ApiContract.Files.Path
import ApiContract.Files.Portion
import ApiContract.Files.Tree
import ApiContract.Log
import ApiContract.Log.Threshold
import ApiContract.Main
import ApiContract.Number.Binary64
import ApiContract.Number.Decimal
import ApiContract.Number.Numeral
import ApiContract.Options.Assignment
import ApiContract.Options.Basic
import ApiContract.Options.Reader
import ApiContract.Options.Violation
import ApiContract.Proofs.CommandLine.Arguments
import ApiContract.Proofs.CommandLine.Merging
import ApiContract.Proofs.CommandLine.Options
import ApiContract.Proofs.CommandLine.Overriding
import ApiContract.Proofs.CommandLine.Run
import ApiContract.Proofs.Contract.Grouping
import ApiContract.Proofs.Contract.Operations
import ApiContract.Proofs.Contract.Paths
import ApiContract.Proofs.Convert.Describe
import ApiContract.Proofs.Convert.Failure
import ApiContract.Proofs.Convert.Rendering
import ApiContract.Proofs.Convert.Writing
import ApiContract.Proofs.Except
import ApiContract.Proofs.Fields
import ApiContract.Proofs.Files.Tree
import ApiContract.Proofs.Front
import ApiContract.Proofs.Options.Defaults
import ApiContract.Proofs.Options.Reader
import ApiContract.Proofs.Schema.Agreement
import ApiContract.Proofs.Schema.Content
import ApiContract.Proofs.Schema.Coverage
import ApiContract.Proofs.Schema.DeepGroups
import ApiContract.Proofs.Schema.Imports
import ApiContract.Proofs.Schema.Isolation
import ApiContract.Proofs.Schema.Labels
import ApiContract.Proofs.Schema.Loading
import ApiContract.Proofs.Schema.Namespaces
import ApiContract.Proofs.Schema.Nesting
import ApiContract.Proofs.Schema.Properties
import ApiContract.Proofs.Schema.Renaming
import ApiContract.Proofs.Schema.RootScope
import ApiContract.Proofs.Schema.Scoping
import ApiContract.Proofs.Schema.Simulation
import ApiContract.Proofs.Schema.Unfolding
import ApiContract.Proofs.Service.Upload
import ApiContract.Proofs.Text.Ranges
import ApiContract.Proofs.Text.Utf8
import ApiContract.Proofs.Value.Json
import ApiContract.Proofs.Xml.Bindings
import ApiContract.Proofs.Xml.Decoding
import ApiContract.Proofs.Xml.Elements
import ApiContract.Proofs.Xml.Ends
import ApiContract.Proofs.Xml.RootTag
import ApiContract.Proofs.Xml.Source
import ApiContract.Proofs.Xml.StartTag
import ApiContract.Proofs.Xml.Suffix
import ApiContract.Proofs.Yaml.Meaning
import ApiContract.Schema.Declaration
import ApiContract.Schema.Expansion
import ApiContract.Schema.Imports
import ApiContract.Schema.Namespaces
import ApiContract.Schema.Node
import ApiContract.Schema.OfXml
import ApiContract.Schema.Reader
import ApiContract.Schema.Reference
import ApiContract.Service.Address
import ApiContract.Service.Form
import ApiContract.Service.Http
import ApiContract.Service.Multipart
import ApiContract.Service.Origin
import ApiContract.Service.Refusal
import ApiContract.Service.Target
import ApiContract.Service.Token
import ApiContract.Service.Upload
import ApiContract.Text.Base64
import ApiContract.Text.Blank
import ApiContract.Text.Charset
import ApiContract.Text.DecimalDigit
import ApiContract.Text.Letter
import ApiContract.Text.LetterCase
import ApiContract.Text.Printable
import ApiContract.Text.Quoted
import ApiContract.Text.Ranges
import ApiContract.Text.Utf8
import ApiContract.Text.Word
import ApiContract.Value
import ApiContract.Value.Display
import ApiContract.Value.Json
import ApiContract.Value.JsonReader
import ApiContract.Value.Moment
import ApiContract.Value.Sharing
import ApiContract.Value.Torn
import ApiContract.Xml.AttributeValue
import ApiContract.Xml.Character
import ApiContract.Xml.Declaration
import ApiContract.Xml.Doctype
import ApiContract.Xml.Doctype.Token
import ApiContract.Xml.Encoding
import ApiContract.Xml.Fault
import ApiContract.Xml.Lexeme
import ApiContract.Xml.Reader
import ApiContract.Xml.Source
import ApiContract.Xml.Tree
import ApiContract.Yaml.Cursor
import ApiContract.Yaml.Fault
import ApiContract.Yaml.Layout
import ApiContract.Yaml.Meaning
import ApiContract.Yaml.Node
import ApiContract.Yaml.Reader
import ApiContract.Yaml.Scalar
import ApiContract.Yaml.Token
import ApiContract.Yaml.Token.Block
import ApiContract.Yaml.Token.Mark
import ApiContract.Yaml.Token.Plain
import ApiContract.Yaml.Token.Quoted
import ApiContract.Yaml.Token.Scan
import ApiContract.Yaml.Writer
import ApiContract.Proofs.Schema.References
import ApiContract.Proofs.Schema.Context
import ApiContract.Proofs.Schema.Complete
import ApiContract.Proofs.Schema.Qualified
import ApiContract.Proofs.Schema.Objects
import ApiContract.Proofs.Schema.Required
import ApiContract.Proofs.Schema.Shape
import ApiContract.Proofs.Schema.ObjectForm
import ApiContract.Proofs.Contract.Placement
import ApiContract.Proofs.Contract.ErrorResponse
import ApiContract.Proofs.Schema.DefaultType
import ApiContract.Proofs.Text.Blank
import ApiContract.Proofs.Schema.Particles
import ApiContract.Proofs.Schema.Padding
import ApiContract.Proofs.Value.JsonGrammar
import ApiContract.Proofs.Value.JsonReading
import ApiContract.Proofs.Convert.Decoding
import ApiContract.Proofs.Text.Quoted
import ApiContract.Proofs.Log.Secrecy
import ApiContract.Proofs.Schema.TagScan
import ApiContract.Proofs.Schema.NodeReading
import ApiContract.Proofs.Value.Linking
import ApiContract.Proofs.Yaml.Pen
import ApiContract.Proofs.Yaml.QuotedReading
import ApiContract.Proofs.Yaml.DoubleQuoted
import ApiContract.Proofs.Yaml.Runs
import ApiContract.Proofs.Yaml.SingleQuoted
import ApiContract.Proofs.Yaml.Cursor
import ApiContract.Proofs.Yaml.Plain
import ApiContract.Proofs.Yaml.Scanning
import ApiContract.Proofs.Yaml.Keys
import ApiContract.Proofs.Yaml.StyledText
import ApiContract.Proofs.Yaml.Words
import ApiContract.Proofs.Yaml.Scans
import ApiContract.Proofs.Yaml.Blocks
import ApiContract.Proofs.Yaml.NodeMeaning
import ApiContract.Proofs.Yaml.Characters
import ApiContract.Proofs.Yaml.Composing
import ApiContract.Proofs.Yaml.Keeping
import ApiContract.Proofs.Yaml.Likeness
import ApiContract.Proofs.Yaml.Remaining
import ApiContract.Proofs.Yaml.RoundTrip
import ApiContract.Proofs.Convert.YamlDecoding
import ApiContract.Proofs.Files.Path
import ApiContract.Proofs.Schema.ImportPaths
