import CloudEmulation.Azure.Client
import CloudEmulation.Azure.Reply
import CloudEmulation.Azure.Service
import CloudEmulation.Azure.VirtualMachine
import CloudEmulation.Client.Credential
import CloudEmulation.Client.Emulated
import CloudEmulation.Client.Error
import CloudEmulation.Client.Transport
import CloudEmulation.Client.Walk
import CloudEmulation.Cloud
import CloudEmulation.CommandLine.Command
import CloudEmulation.CommandLine.Run
import CloudEmulation.Configuration
import CloudEmulation.Configuration.Document
import CloudEmulation.Dictionary
import CloudEmulation.Emulation.Call
import CloudEmulation.Emulation.Emulator
import CloudEmulation.Emulation.Page
import CloudEmulation.Emulation.Seeding
import CloudEmulation.Emulation.Template
import CloudEmulation.Fault
import CloudEmulation.Filter.Expression
import CloudEmulation.Filter.Matching
import CloudEmulation.Filter.Reader
import CloudEmulation.Google.Catalog
import CloudEmulation.Google.Client
import CloudEmulation.Google.Resource
import CloudEmulation.Google.Service
import CloudEmulation.Http.Message
import CloudEmulation.Http.Status
import CloudEmulation.Identifier
import CloudEmulation.Instance
import CloudEmulation.Interception.Harness
import CloudEmulation.Interception.Mocks
import CloudEmulation.Json.Basic
import CloudEmulation.Json.Decode
import CloudEmulation.Json.Printer
import CloudEmulation.Json.Reader
import CloudEmulation.Main
import CloudEmulation.Network.Address
import CloudEmulation.Network.Pool
import CloudEmulation.Number.Double
import CloudEmulation.Number.Numeral
import CloudEmulation.Number.Shortest
import CloudEmulation.Oracle.Catalog
import CloudEmulation.Oracle.Client
import CloudEmulation.Oracle.Order
import CloudEmulation.Oracle.Resource
import CloudEmulation.Oracle.Service
import CloudEmulation.Pattern.CharSet
import CloudEmulation.Pattern.Matching
import CloudEmulation.Pattern.NamedSet
import CloudEmulation.Pattern.Reader
import CloudEmulation.Pattern.Syntax
import CloudEmulation.Program
import CloudEmulation.Proofs.Cloud.State
import CloudEmulation.Proofs.Execution
import CloudEmulation.Proofs.Network.Pool
import CloudEmulation.Proofs.Store
import CloudEmulation.Provider
import CloudEmulation.Provider.Decode
import CloudEmulation.Scope
import CloudEmulation.Store
import CloudEmulation.Text.Alphanumeric
import CloudEmulation.Text.Blank
import CloudEmulation.Text.Category
import CloudEmulation.Text.CodePoints
import CloudEmulation.Text.Escaped
import CloudEmulation.Text.Extending
import CloudEmulation.Text.Fold
import CloudEmulation.Text.Lowercase
import CloudEmulation.Text.Percent
import CloudEmulation.Text.Property
import CloudEmulation.Text.Script
import CloudEmulation.Text.Utf8
import CloudEmulation.Time.Reading
import CloudEmulation.Time.Timestamp
import CloudEmulation.Url.Basic
import CloudEmulation.Url.Domain
import CloudEmulation.Url.Host
import CloudEmulation.Url.Punycode
import CloudEmulation.Url.Query
import CloudEmulation.Url.Reader
import CloudEmulation.Url.Segments
import CloudEmulation.Yaml.Cursor
import CloudEmulation.Yaml.Node
import CloudEmulation.Yaml.Scalar
import CloudEmulation.Yaml.Token
import CloudEmulation.Yaml.Value
import CloudEmulation.Proofs.Cloud.Handling
import CloudEmulation.Proofs.Azure.Answers
import CloudEmulation.Proofs.Google.Answers
import CloudEmulation.Proofs.Oracle.Answers
import CloudEmulation.Proofs.Json.Dictionaries
import CloudEmulation.Proofs.Json.Changes
import CloudEmulation.Proofs.Json.RoundTrip
import CloudEmulation.Proofs.Json.Records
import CloudEmulation.Proofs.Emulation.Responses
import CloudEmulation.Proofs.Emulation.Acceptance
import CloudEmulation.Proofs.Cloud.Steps
import CloudEmulation.Proofs.Cloud.Runs
import CloudEmulation.Proofs.Cloud.Addresses
import CloudEmulation.Proofs.Cloud.Atomicity
import CloudEmulation.Proofs.Oracle.Locators
import CloudEmulation.Proofs.Oracle.Lookup
import CloudEmulation.Proofs.Emulation.Bodies
import CloudEmulation.Proofs.Cloud.Concealing
import CloudEmulation.Proofs.Cloud.Mirrors
import CloudEmulation.Proofs.Cloud.Secrecy
import CloudEmulation.Proofs.Cloud.Renderings
import CloudEmulation.Proofs.Text.Utf8
import CloudEmulation.Proofs.Text.Percent
import CloudEmulation.Proofs.Url.Query
import CloudEmulation.Proofs.Number.Numeral
import CloudEmulation.Proofs.Cloud.History
import CloudEmulation.Proofs.Emulation.Views
import CloudEmulation.Proofs.Emulation.Listings
import CloudEmulation.Proofs.Google.Listing
import CloudEmulation.Proofs.Azure.Listing
import CloudEmulation.Proofs.Azure.Machines
import CloudEmulation.Proofs.Azure.Passwords
import CloudEmulation.Proofs.Oracle.Listing
import CloudEmulation.Proofs.Cloud.Walks
import CloudEmulation.Proofs.Cloud.Names
import CloudEmulation.Proofs.Filter.Closing
import CloudEmulation.Proofs.Filter.Composition
import CloudEmulation.Proofs.Oracle.Order
import CloudEmulation.Proofs.Emulation.Selections
import CloudEmulation.Proofs.Emulation.Templates
import CloudEmulation.Proofs.Cloud.Tours
import CloudEmulation.Proofs.Google.Filtering
import CloudEmulation.Proofs.Url.Path
import CloudEmulation.Proofs.Client.Requests
import CloudEmulation.Proofs.Client.Arguments
import CloudEmulation.Proofs.Url.Reading
import CloudEmulation.Proofs.Azure.Streams
import CloudEmulation.Proofs.Client.Lookups
import CloudEmulation.Proofs.Interception.Tokens
import CloudEmulation.Proofs.Client.Errors
import CloudEmulation.Proofs.Interception.Sessions
import CloudEmulation.Proofs.Concurrency.Crews
import CloudEmulation.Proofs.Concurrency.Erasure
import CloudEmulation.Proofs.Concurrency.Handlers
import CloudEmulation.Proofs.Concurrency.Lockstep
import CloudEmulation.Proofs.Emulation.Pages
import CloudEmulation.Proofs.Google.Interfaces
import CloudEmulation.Proofs.Time.Calendar
import CloudEmulation.Proofs.Time.Reading
import CloudEmulation.Proofs.Cloud.Turns
import CloudEmulation.Proofs.Cloud.Times
import CloudEmulation.Proofs.Client.Walks
import CloudEmulation.Proofs.Oracle.Sorting
import CloudEmulation.Proofs.Oracle.Machines
import CloudEmulation.Proofs.Oracle.Streams
import CloudEmulation.Proofs.Concurrency.Reads
import CloudEmulation.Proofs.Concurrency.Reruns
import CloudEmulation.Proofs.Concurrency.Conflicts
import CloudEmulation.Proofs.Concurrency.Serialization
import CloudEmulation.Proofs.Text.Runs
import CloudEmulation.Proofs.Filter.Terms
import CloudEmulation.Proofs.Filter.Comparisons
import CloudEmulation.Proofs.Filter.Lists
import CloudEmulation.Proofs.Pattern.Following
import CloudEmulation.Proofs.Pattern.Classes
import CloudEmulation.Proofs.Pattern.Groups
import CloudEmulation.Proofs.Pattern.Alternatives
import CloudEmulation.Proofs.Pattern.Anchoring
import CloudEmulation.Proofs.Filter.Searches
import CloudEmulation.Proofs.Json.Order
import CloudEmulation.Proofs.Json.Given
import CloudEmulation.Proofs.Cloud.Creations
import CloudEmulation.Proofs.Google.Echoes
import CloudEmulation.Proofs.Azure.Echoes
import CloudEmulation.Proofs.Oracle.Echoes
import CloudEmulation.Proofs.Text.Parts
import CloudEmulation.Proofs.Text.CodePoints
import CloudEmulation.Proofs.Url.Punycode
import CloudEmulation.Proofs.Url.Domains
import CloudEmulation.Proofs.Url.Numbers
import CloudEmulation.Proofs.Url.Groups
import CloudEmulation.Proofs.Url.Hosts
import CloudEmulation.Proofs.Url.Authorities
import CloudEmulation.Proofs.Url.Segments
import CloudEmulation.Proofs.Url.Canonical
import CloudEmulation.Proofs.Url.Building
import CloudEmulation.Proofs.Azure.Links
import CloudEmulation.Proofs.Emulation.Matching
import CloudEmulation.Proofs.Filter.Words
import CloudEmulation.Proofs.Google.Resources
import CloudEmulation.Proofs.Client.WireTypes
import CloudEmulation.Proofs.Url.Links
import CloudEmulation.Proofs.Cloud.Links
import CloudEmulation.Proofs.Store.Calls
import CloudEmulation.Proofs.Filter.Positions
