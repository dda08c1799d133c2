import CredRelay.CommandLine.Arguments
import CredRelay.CommandLine.Invocation
import CredRelay.CommandLine.Output
import CredRelay.CommandLine.Run
import CredRelay.Credential
import CredRelay.Failure
import CredRelay.Guest.Client
import CredRelay.Guest.Helper
import CredRelay.Guest.Program
import CredRelay.Helper.Call
import CredRelay.Helper.Choice
import CredRelay.Helper.Config
import CredRelay.Host.Basic
import CredRelay.Host.Fault
import CredRelay.Host.FileTree
import CredRelay.Host.Scripted
import CredRelay.Host.Site
import CredRelay.Json.Document
import CredRelay.Json.Printer
import CredRelay.Json.Token
import CredRelay.Json.Value
import CredRelay.Login.Attempt
import CredRelay.Login.Challenge
import CredRelay.Main
import CredRelay.Net.Address
import CredRelay.Net.Network
import CredRelay.Path
import CredRelay.Proofs.Guest.Agreement
import CredRelay.Proofs.Guest.Capacity
import CredRelay.Proofs.Guest.Client
import CredRelay.Proofs.Guest.KeyedStore
import CredRelay.Proofs.Guest.Meeting
import CredRelay.Proofs.Helper.Choice
import CredRelay.Proofs.Helper.Inline
import CredRelay.Proofs.Helper.Safety
import CredRelay.Proofs.Host.Files
import CredRelay.Proofs.Host.Tree
import CredRelay.Proofs.Json.Prefixes
import CredRelay.Proofs.Json.RoundTrip
import CredRelay.Proofs.Login.Challenges
import CredRelay.Proofs.Login.Parameters
import CredRelay.Proofs.Net.Inclusion
import CredRelay.Proofs.Net.Membership
import CredRelay.Proofs.Net.NetworkSpelling
import CredRelay.Proofs.Net.SocketSpelling
import CredRelay.Proofs.Net.Spelling
import CredRelay.Proofs.Registry.Depth
import CredRelay.Proofs.Registry.Distinct
import CredRelay.Proofs.Registry.Handling
import CredRelay.Proofs.Registry.Identifier
import CredRelay.Proofs.Registry.Reading
import CredRelay.Proofs.Registry.Reread
import CredRelay.Proofs.Registry.Schemes
import CredRelay.Proofs.Registry.Spelling
import CredRelay.Proofs.Relay.Acknowledgement
import CredRelay.Proofs.Relay.Binding
import CredRelay.Proofs.Relay.CallLog
import CredRelay.Proofs.Relay.Changes
import CredRelay.Proofs.Relay.Cleanup
import CredRelay.Proofs.Relay.Completeness
import CredRelay.Proofs.Relay.Fleet
import CredRelay.Proofs.Relay.Interleavings
import CredRelay.Proofs.Relay.Lifecycle
import CredRelay.Proofs.Relay.Locality
import CredRelay.Proofs.Relay.Lookups
import CredRelay.Proofs.Relay.Ownership
import CredRelay.Proofs.Relay.PipeNames
import CredRelay.Proofs.Relay.Probes
import CredRelay.Proofs.Relay.Publication
import CredRelay.Proofs.Relay.Reception
import CredRelay.Proofs.Relay.Runs
import CredRelay.Proofs.Relay.Secrecy
import CredRelay.Proofs.Relay.Starts
import CredRelay.Proofs.Settings.RoundTrip
import CredRelay.Proofs.Text.Base64RoundTrip
import CredRelay.Proofs.Text.Numerals
import CredRelay.Proofs.Text.Octets
import CredRelay.Proofs.Text.Pieces
import CredRelay.Proofs.Text.Trimming
import CredRelay.Proofs.Toml.DocumentRoundTrip
import CredRelay.Proofs.Toml.TextRoundTrip
import CredRelay.Proofs.Toml.ValueRoundTrip
import CredRelay.Proofs.Unicode.CodePoints
import CredRelay.Proofs.Unicode.Decomposition
import CredRelay.Proofs.Unicode.NormalForm
import CredRelay.Proofs.Url.Addresses
import CredRelay.Proofs.Url.HostRoundTrip
import CredRelay.Proofs.Url.Hosts
import CredRelay.Proofs.Url.NameMapping
import CredRelay.Proofs.Url.NameRoundTrip
import CredRelay.Proofs.Url.Paths
import CredRelay.Proofs.Url.Punycode
import CredRelay.Proofs.Url.PunycodeRoundTrip
import CredRelay.Proofs.Wire.RecordRoundTrip
import CredRelay.Proofs.Wire.ReplyRoundTrip
import CredRelay.Proofs.Wire.RequestForm
import CredRelay.Proofs.Wire.RequestRoundTrip
import CredRelay.Proofs.Wire.Truncation
import CredRelay.Registry.Basic
import CredRelay.Registry.Identifier
import CredRelay.Relay.Answer
import CredRelay.Relay.Attempt
import CredRelay.Relay.Connection
import CredRelay.Relay.Endpoint
import CredRelay.Relay.Service
import CredRelay.Settings.Basic
import CredRelay.Settings.Reader
import CredRelay.Settings.Writer
import CredRelay.Store.Basic
import CredRelay.Store.Memory
import CredRelay.Store.Native
import CredRelay.Table
import CredRelay.Text.Base64
import CredRelay.Text.Blank
import CredRelay.Text.Cut
import CredRelay.Text.Numeral
import CredRelay.Text.Quoted
import CredRelay.Text.Utf8
import CredRelay.Toml.Document
import CredRelay.Toml.Printer
import CredRelay.Toml.Scalar
import CredRelay.Toml.Table
import CredRelay.Toml.Text
import CredRelay.Toml.Value
import CredRelay.Unicode.Alphanumeric
import CredRelay.Unicode.Canonical
import CredRelay.Unicode.Composed
import CredRelay.Unicode.Direction
import CredRelay.Unicode.HostMapping
import CredRelay.Unicode.Joining
import CredRelay.Unicode.Range
import CredRelay.Unicode.Unprintable
import CredRelay.Url.Basic
import CredRelay.Url.DomainName
import CredRelay.Url.Host
import CredRelay.Url.Path
import CredRelay.Url.Percent
import CredRelay.Url.Punycode
import CredRelay.Url.Query
import CredRelay.Wire.Record
import CredRelay.Wire.Reply
import CredRelay.Wire.Request
