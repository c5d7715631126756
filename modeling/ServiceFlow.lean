import ServiceFlow.Bus.Basic
import ServiceFlow.Bus.Error
import ServiceFlow.Composition.Cache
import ServiceFlow.Composition.Clause
import ServiceFlow.Composition.Compiled
import ServiceFlow.Composition.Error
import ServiceFlow.Composition.Tokens
import ServiceFlow.Config.Basic
import ServiceFlow.Config.Check
import ServiceFlow.Config.File
import ServiceFlow.Config.Launch
import ServiceFlow.Config.Session
import ServiceFlow.Config.Tree
import ServiceFlow.Container
import ServiceFlow.Control
import ServiceFlow.Dpe.Basic
import ServiceFlow.Dpe.Control
import ServiceFlow.Engine.Affixes
import ServiceFlow.Engine.Basic
import ServiceFlow.Engine.Catalog
import ServiceFlow.Engine.Data
import ServiceFlow.Engine.Registry
import ServiceFlow.Exchange
import ServiceFlow.Json.Basic
import ServiceFlow.Json.Fields
import ServiceFlow.Json.Reader
import ServiceFlow.Log
import ServiceFlow.Main
import ServiceFlow.Message.Basic
import ServiceFlow.Message.Wire
import ServiceFlow.Name.Basic
import ServiceFlow.Name.Map
import ServiceFlow.Name.Set
import ServiceFlow.Name.Text
import ServiceFlow.Orchestrator
import ServiceFlow.Pool.Borrowers
import ServiceFlow.Pool.Objects
import ServiceFlow.Pool.Semaphore
import ServiceFlow.Pool.Shift
import ServiceFlow.Pool.Workers
import ServiceFlow.Proofs.Composition.Cuts
import ServiceFlow.Proofs.Composition.Reading
import ServiceFlow.Proofs.Composition.Statements
import ServiceFlow.Proofs.Exchange.Handover
import ServiceFlow.Proofs.Name.Collections
import ServiceFlow.Proofs.Name.Spelling
import ServiceFlow.Proofs.Routing.Arrivals
import ServiceFlow.Proofs.Routing.Destinations
import ServiceFlow.Proofs.Routing.Expiry
import ServiceFlow.Proofs.Routing.FanIn
import ServiceFlow.Proofs.Routing.Groups
import ServiceFlow.Proofs.Routing.Reachable
import ServiceFlow.Proofs.Routing.Rejection
import ServiceFlow.Report
import ServiceFlow.Routing.Barrier
import ServiceFlow.Routing.Router
import ServiceFlow.Routing.States
import ServiceFlow.Schedule
import ServiceFlow.Service.Basic
import ServiceFlow.Service.Bench
import ServiceFlow.Service.Policy
import ServiceFlow.Service.Serve
import ServiceFlow.Service.Spec
import ServiceFlow.SharedMemory
import ServiceFlow.Site.Basic
import ServiceFlow.Site.Desk
import ServiceFlow.Site.Requests
import ServiceFlow.Site.Turns
import ServiceFlow.Table
import ServiceFlow.Text.Blank
import ServiceFlow.Text.Case
import ServiceFlow.Text.CaseTable
import ServiceFlow.Text.Digits
import ServiceFlow.Text.Duration
import ServiceFlow.Text.EscapeTable
import ServiceFlow.Text.Hex
import ServiceFlow.Text.Integer
import ServiceFlow.Text.Quoted
import ServiceFlow.Text.Split
import ServiceFlow.Text.Utf8
import ServiceFlow.Toml.Reader
import ServiceFlow.Toml.Table
import ServiceFlow.Toml.Value
import ServiceFlow.Topic
import ServiceFlow.View.Composition
import ServiceFlow.View.Config
import ServiceFlow.View.Log
import ServiceFlow.View.Message
import ServiceFlow.Wire.Field
import ServiceFlow.Wire.Varint
import ServiceFlow.Yaml.Reader
import ServiceFlow.Yaml.Scalar
import ServiceFlow.Proofs.Routing.History
import ServiceFlow.Proofs.Routing.Separation
import ServiceFlow.Proofs.Routing.Provenance
import ServiceFlow.Proofs.Requests.Deployment
import ServiceFlow.Proofs.Requests.Isolation
import ServiceFlow.Proofs.Requests.Meeting
import ServiceFlow.Proofs.Composition.Verdict
import ServiceFlow.Proofs.Routing.Links
import ServiceFlow.Proofs.Relay.Chain
import ServiceFlow.Proofs.Relay.Network
import ServiceFlow.Proofs.Relay.Spread
import ServiceFlow.Proofs.Relay.Loops
import ServiceFlow.Proofs.Config.Deployment
import ServiceFlow.Proofs.Config.Participants
import ServiceFlow.Proofs.Message.RoundTrip
import ServiceFlow.Proofs.Text.Decimal
import ServiceFlow.Proofs.Control.RoundTrip
import ServiceFlow.Proofs.Bus.Runs
import ServiceFlow.Proofs.Bus.Channels
import ServiceFlow.Proofs.Bus.Delivery
import ServiceFlow.Proofs.Name.Canonical
import ServiceFlow.Proofs.Name.RoundTrip
import ServiceFlow.Proofs.Topic.Containment
import ServiceFlow.Proofs.Bus.Directory
import ServiceFlow.Proofs.Pool.Permits
import ServiceFlow.Proofs.Pool.Steps
import ServiceFlow.Proofs.Pool.Users
import ServiceFlow.Proofs.Dpe.Deployed
import ServiceFlow.Proofs.Dpe.Surroundings
import ServiceFlow.Proofs.Dpe.Registered
import ServiceFlow.Proofs.Bus.Readers
import ServiceFlow.Proofs.Exchange.Custody
import ServiceFlow.Proofs.Dpe.FrontEnds
import ServiceFlow.Proofs.Dpe.Membership
import ServiceFlow.Proofs.Routing.Strangers
import ServiceFlow.Proofs.Bus.Inquiries
import ServiceFlow.Proofs.Service.Attempt
import ServiceFlow.Proofs.Service.Outcome
import ServiceFlow.Proofs.Composition.Cache
import ServiceFlow.Proofs.Composition.WellFormed
import ServiceFlow.Proofs.Routing.Entry
import ServiceFlow.Proofs.Service.Propagation
import ServiceFlow.Proofs.Composition.Gaps
import ServiceFlow.Proofs.Composition.Literals
import ServiceFlow.Proofs.Composition.Respacing
import ServiceFlow.Proofs.Dpe.Refused
import ServiceFlow.Proofs.Dpe.Agreement
import ServiceFlow.Proofs.Dpe.Handling
import ServiceFlow.Proofs.Name.Grammar
import ServiceFlow.Proofs.Config.Faults
import ServiceFlow.Proofs.Pool.Crew
import ServiceFlow.Proofs.Service.Configured
import ServiceFlow.Proofs.Composition.Splitting
import ServiceFlow.Proofs.Service.Reporting
