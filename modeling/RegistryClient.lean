import RegistryClient.Client
import RegistryClient.CommandLine.Commands
import RegistryClient.CommandLine.Given
import RegistryClient.CommandLine.Grammar
import RegistryClient.CommandLine.Help
import RegistryClient.CommandLine.Invocation
import RegistryClient.CommandLine.Run
import RegistryClient.Config
import RegistryClient.Config.File
import RegistryClient.Credentials
import RegistryClient.Decimal.Binary64
import RegistryClient.Decimal.Shortest
import RegistryClient.Fault
import RegistryClient.Http.Address
import RegistryClient.Http.Host.Composed
import RegistryClient.Http.Host.Direction
import RegistryClient.Http.Host.Form
import RegistryClient.Http.Host.Joiner
import RegistryClient.Http.Host.Mark
import RegistryClient.Http.Host.Name
import RegistryClient.Http.Host.Numeric
import RegistryClient.Http.Host.Punycode
import RegistryClient.Http.Reason
import RegistryClient.Http.Transport
import RegistryClient.Identifier
import RegistryClient.Json.Basic
import RegistryClient.Json.Reader
import RegistryClient.Json.Text
import RegistryClient.Main
import RegistryClient.Proofs.Client.Calls
import RegistryClient.Proofs.Client.Dependence
import RegistryClient.Proofs.Client.Exchange
import RegistryClient.Proofs.Client.Failure
import RegistryClient.Proofs.Client.PageAsked
import RegistryClient.Proofs.CommandLine.Overriding
import RegistryClient.Proofs.Config
import RegistryClient.Proofs.Config.BaseUrl
import RegistryClient.Proofs.FirstFault
import RegistryClient.Proofs.Identifier
import RegistryClient.Proofs.Json
import RegistryClient.Proofs.Json.Fields
import RegistryClient.Proofs.Json.Flat
import RegistryClient.Proofs.Json.Position
import RegistryClient.Proofs.Outcome
import RegistryClient.Proofs.Query.Body
import RegistryClient.Proofs.Query.Compile
import RegistryClient.Proofs.Query.Document
import RegistryClient.Proofs.Query.Expression
import RegistryClient.Proofs.Query.IllFormed
import RegistryClient.Proofs.Query.Keys
import RegistryClient.Proofs.Query.Literal
import RegistryClient.Proofs.Query.LoneOperand
import RegistryClient.Proofs.Query.Meaningless
import RegistryClient.Proofs.Query.Nesting
import RegistryClient.Proofs.Query.Operators
import RegistryClient.Proofs.Query.Path
import RegistryClient.Proofs.Query.Reader
import RegistryClient.Proofs.Query.Spacing
import RegistryClient.Proofs.Record.Apply
import RegistryClient.Proofs.Record.KeyByKey
import RegistryClient.Proofs.Record.NamedScalars
import RegistryClient.Proofs.Record.Relevant
import RegistryClient.Proofs.Record.RuleOrder
import RegistryClient.Proofs.Record.RuleText
import RegistryClient.Proofs.Record.Wildcard
import RegistryClient.Proofs.Resolution.Plan
import RegistryClient.Proofs.Response.AttributeReading
import RegistryClient.Proofs.Response.Attributes
import RegistryClient.Proofs.Response.Count
import RegistryClient.Proofs.Response.OneShape
import RegistryClient.Proofs.Response.Page
import RegistryClient.Proofs.Response.Reading
import RegistryClient.Proofs.Response.Record
import RegistryClient.Proofs.Response.Verdict
import RegistryClient.Proofs.Text.Cut
import RegistryClient.Proofs.Text.Digit
import RegistryClient.Proofs.Text.Percent
import RegistryClient.Proofs.Text.Split
import RegistryClient.Proofs.Text.Words
import RegistryClient.Proofs.Xml.Attributes
import RegistryClient.Proofs.Xml.Children
import RegistryClient.Proofs.Xml.Decode
import RegistryClient.Proofs.Xml.Formatting
import RegistryClient.Proofs.Xml.Names
import RegistryClient.Proofs.Xml.Refused
import RegistryClient.Proofs.Xml.Shape
import RegistryClient.Query.Combine
import RegistryClient.Query.Compile
import RegistryClient.Query.Document
import RegistryClient.Query.Element
import RegistryClient.Query.Fault
import RegistryClient.Query.Node
import RegistryClient.Query.Request
import RegistryClient.Query.Term
import RegistryClient.Record.Normalize
import RegistryClient.Record.WrapRule
import RegistryClient.Request
import RegistryClient.Resolution.Plan
import RegistryClient.Resolution.View
import RegistryClient.Response.Attributes
import RegistryClient.Response.Document
import RegistryClient.Response.Fault
import RegistryClient.Response.Payload
import RegistryClient.Response.Status
import RegistryClient.Text.Blank
import RegistryClient.Text.Combining
import RegistryClient.Text.Cut
import RegistryClient.Text.Digit
import RegistryClient.Text.Percent
import RegistryClient.Text.Range
import RegistryClient.Text.Terminal
import RegistryClient.Text.Unprintable
import RegistryClient.Text.Utf8
import RegistryClient.Text.Visible
import RegistryClient.Xml.Decode
import RegistryClient.Xml.Document
import RegistryClient.Xml.Element
import RegistryClient.Xml.Token
import RegistryClient.Yaml.Cursor
import RegistryClient.Yaml.Document
import RegistryClient.Yaml.Layout
import RegistryClient.Yaml.Node
import RegistryClient.Yaml.Scalar.Block
import RegistryClient.Yaml.Scalar.Plain
import RegistryClient.Yaml.Scalar.Quoted
import RegistryClient.Yaml.Tag
import RegistryClient.Yaml.Token
