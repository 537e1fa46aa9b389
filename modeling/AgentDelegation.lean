import AgentDelegation.Decimal.Double
import AgentDelegation.Decimal.Shortest
import AgentDelegation.Delegation.Delegator
import AgentDelegation.Delegation.Failure
import AgentDelegation.Delegation.Settlement
import AgentDelegation.Delegation.Watch
import AgentDelegation.Directory.Basic
import AgentDelegation.Directory.CardUrl
import AgentDelegation.Directory.Failure
import AgentDelegation.Directory.Gathering
import AgentDelegation.Directory.Resolver
import AgentDelegation.Duration
import AgentDelegation.Host.Basic
import AgentDelegation.Host.CommandLine
import AgentDelegation.Host.Settings
import AgentDelegation.Host.SettingsFile
import AgentDelegation.Host.Tools
import AgentDelegation.Http.Network
import AgentDelegation.Json.Document
import AgentDelegation.Json.Fault
import AgentDelegation.Json.Format
import AgentDelegation.Json.Printer
import AgentDelegation.Json.Readable
import AgentDelegation.Json.Record
import AgentDelegation.Json.Source
import AgentDelegation.Json.Token
import AgentDelegation.Json.Value
import AgentDelegation.Main
import AgentDelegation.NameMap
import AgentDelegation.Proofs.Delegation.Decision
import AgentDelegation.Proofs.Delegation.Outcome
import AgentDelegation.Proofs.Delegation.Routing
import AgentDelegation.Proofs.Delegation.Streams
import AgentDelegation.Proofs.Json.Conveyed
import AgentDelegation.Proofs.Json.Fields
import AgentDelegation.Proofs.Json.Records
import AgentDelegation.Proofs.Json.RoundTrip
import AgentDelegation.Proofs.Json.Texts
import AgentDelegation.Proofs.Json.Trees
import AgentDelegation.Proofs.NameMap
import AgentDelegation.Proofs.Protocol.Parts
import AgentDelegation.Proofs.Protocol.RoundTrip
import AgentDelegation.Proofs.Skill.History
import AgentDelegation.Proofs.Skill.Published
import AgentDelegation.Proofs.Skill.Views
import AgentDelegation.Proofs.Text.Utf8
import AgentDelegation.Proofs.Transport.Answers
import AgentDelegation.Proofs.Transport.Assembly
import AgentDelegation.Proofs.Transport.Bindings
import AgentDelegation.Proofs.Transport.Blocks
import AgentDelegation.Proofs.Transport.Breaks
import AgentDelegation.Proofs.Transport.Encoding
import AgentDelegation.Proofs.Transport.Envelope
import AgentDelegation.Proofs.Transport.ErrorReports
import AgentDelegation.Proofs.Transport.Frame
import AgentDelegation.Proofs.Transport.Noise
import AgentDelegation.Proofs.Transport.Run
import AgentDelegation.Proofs.Transport.Snapshots
import AgentDelegation.Protocol.Binding
import AgentDelegation.Protocol.Card
import AgentDelegation.Protocol.Message
import AgentDelegation.Protocol.Rpc
import AgentDelegation.Protocol.StreamResult
import AgentDelegation.Protocol.Task
import AgentDelegation.Skill.Descriptor
import AgentDelegation.Skill.Failure
import AgentDelegation.Skill.LocalAgent
import AgentDelegation.Skill.Registry
import AgentDelegation.Telemetry.Span
import AgentDelegation.Text.Blank
import AgentDelegation.Text.Cased
import AgentDelegation.Text.Digits
import AgentDelegation.Text.Lowercase
import AgentDelegation.Text.Marks
import AgentDelegation.Text.Printable
import AgentDelegation.Text.Quoted
import AgentDelegation.Text.Ranges
import AgentDelegation.Text.Rows
import AgentDelegation.Text.Utf8
import AgentDelegation.Text.Uuid
import AgentDelegation.Toml.Document
import AgentDelegation.Toml.Literal
import AgentDelegation.Toml.Moment
import AgentDelegation.Toml.Quoted
import AgentDelegation.Toml.Reader
import AgentDelegation.Toml.Table
import AgentDelegation.Toml.Value
import AgentDelegation.Transport.EventStream
import AgentDelegation.Transport.Failure
import AgentDelegation.Transport.Http
import AgentDelegation.Transport.Payload
import AgentDelegation.Transport.Tracker
import AgentDelegation.Url.Basic
import AgentDelegation.Url.Domain.Composed
import AgentDelegation.Url.Domain.Direction
import AgentDelegation.Url.Domain.Joiner
import AgentDelegation.Url.Domain.Mapping
import AgentDelegation.Url.Domain.Name
import AgentDelegation.Url.Host
import AgentDelegation.Url.Parse
import AgentDelegation.Url.Percent
import AgentDelegation.Url.Punycode
import AgentDelegation.Proofs.Directory.Gathering
import AgentDelegation.Proofs.Json.Unknown
import AgentDelegation.Proofs.Protocol.Encodings
import AgentDelegation.Proofs.Json.Alike
import AgentDelegation.Proofs.Protocol.UnknownParts
import AgentDelegation.Proofs.Delegation.SameTexts
import AgentDelegation.Proofs.Protocol.Layouts
import AgentDelegation.Proofs.Directory.Listing
import AgentDelegation.Proofs.Protocol.PartGrammar
import AgentDelegation.Proofs.Directory.CardUrl
import AgentDelegation.Proofs.Transport.StreamAddress
import AgentDelegation.Proofs.Toml.Omission
import AgentDelegation.Proofs.Skill.Modes
import AgentDelegation.Proofs.Host.AgentLines
import AgentDelegation.Proofs.Host.ToolCalls
import AgentDelegation.Proofs.Host.Defaults
