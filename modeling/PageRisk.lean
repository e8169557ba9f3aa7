import PageRisk.Assessment
import PageRisk.Cache
import PageRisk.CommandLine.Arguments
import PageRisk.CommandLine.Commands
import PageRisk.Config
import PageRisk.ConfigFile
import PageRisk.Csp.Analysis
import PageRisk.Csp.Policy
import PageRisk.Csp.Rule
import PageRisk.Decimal.Exact
import PageRisk.Decimal.Layout
import PageRisk.Decimal.Shortest
import PageRisk.Error
import PageRisk.Files.Disk
import PageRisk.Files.Path
import PageRisk.Gate
import PageRisk.Hostname
import PageRisk.Idna.Domain
import PageRisk.Idna.Label
import PageRisk.Idna.Mapping
import PageRisk.Idna.Punycode
import PageRisk.Json.Basic
import PageRisk.Json.Container
import PageRisk.Json.Decoder
import PageRisk.Json.Document
import PageRisk.Json.Fault
import PageRisk.Json.Printer
import PageRisk.Json.Scalar
import PageRisk.Json.Skip
import PageRisk.Machine
import PageRisk.Main
import PageRisk.Message.Dispatcher
import PageRisk.Message.Request
import PageRisk.Message.Response
import PageRisk.Program
import PageRisk.Report.Format
import PageRisk.Report.Rendering
import PageRisk.Reputation.Outcome
import PageRisk.Reputation.Service
import PageRisk.Scoring
import PageRisk.Services
import PageRisk.Settings
import PageRisk.Store.JsonFile
import PageRisk.Store.Memory
import PageRisk.Surroundings
import PageRisk.Table
import PageRisk.Text.Basic
import PageRisk.Text.Quoted
import PageRisk.Toml.Document
import PageRisk.Toml.Scalar
import PageRisk.Toml.Value
import PageRisk.Unicode.BidiClass
import PageRisk.Unicode.Cased
import PageRisk.Unicode.CombiningClass
import PageRisk.Unicode.Decomposition
import PageRisk.Unicode.JoiningType
import PageRisk.Unicode.Lowercase
import PageRisk.Unicode.Normalization
import PageRisk.Unicode.Printable
import PageRisk.Unicode.RangeMap
import PageRisk.Url.Host
import PageRisk.Url.Ipv4
import PageRisk.Url.Ipv6
import PageRisk.Url.Locate
import PageRisk.Wire.Assessment
import PageRisk.Wire.Page
import PageRisk.Wire.Policy
import PageRisk.Proofs.Cache
import PageRisk.Proofs.Cache.Clearing
import PageRisk.Proofs.Cache.Entries
import PageRisk.Proofs.Cache.Expiry
import PageRisk.Proofs.Cache.Timestamps
import PageRisk.Proofs.CommandLine.Agreement
import PageRisk.Proofs.CommandLine.Confinement
import PageRisk.Proofs.CommandLine.Framing
import PageRisk.Proofs.CommandLine.Running
import PageRisk.Proofs.ConfigFile
import PageRisk.Proofs.Csp.Canonical
import PageRisk.Proofs.Csp.Clickjacking
import PageRisk.Proofs.Csp.Join
import PageRisk.Proofs.Csp.Keywords
import PageRisk.Proofs.Csp.Spelling
import PageRisk.Proofs.Csp.Tags
import PageRisk.Proofs.Errors
import PageRisk.Proofs.Exact
import PageRisk.Proofs.Files.Beside
import PageRisk.Proofs.Gate.Footprint
import PageRisk.Proofs.Gate.Order
import PageRisk.Proofs.Hostname
import PageRisk.Proofs.Hostname.Decoration
import PageRisk.Proofs.Hostname.Shape
import PageRisk.Proofs.Hostname.Spellings
import PageRisk.Proofs.Idna.Domain
import PageRisk.Proofs.Idna.Punycode
import PageRisk.Proofs.Json.Decoder
import PageRisk.Proofs.Json.RoundTrip
import PageRisk.Proofs.Magnitude
import PageRisk.Proofs.Message.Desk
import PageRisk.Proofs.Message.FailOpen
import PageRisk.Proofs.Message.Grammar
import PageRisk.Proofs.Message.Invalid
import PageRisk.Proofs.Message.Invariant
import PageRisk.Proofs.Message.RoundTrip
import PageRisk.Proofs.Message.Unwritable
import PageRisk.Proofs.Reputation
import PageRisk.Proofs.Reputation.Sums
import PageRisk.Proofs.Settings.Listing
import PageRisk.Proofs.Store.Confinement
import PageRisk.Proofs.Store.Damaged
import PageRisk.Proofs.Store.Faults
import PageRisk.Proofs.Store.Race
import PageRisk.Proofs.Text.Words
import PageRisk.Proofs.Unicode.Folding
import PageRisk.Proofs.Unicode.Lowercase
import PageRisk.Proofs.Url.Host
import PageRisk.Proofs.Url.Ipv4
