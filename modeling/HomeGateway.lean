import HomeGateway.Binary32
import HomeGateway.Budget
import HomeGateway.Bus.Arbiter
import HomeGateway.Bus.Controller
import HomeGateway.Bus.Frame
import HomeGateway.Bus.Protocol
import HomeGateway.Bus.Worker
import HomeGateway.Bytes
import HomeGateway.Catalog.Bench
import HomeGateway.Catalog.Board
import HomeGateway.Catalog.Builtin
import HomeGateway.Catalog.Die
import HomeGateway.Catalog.Reading
import HomeGateway.Catalog.Thermometer
import HomeGateway.Config
import HomeGateway.Data.Kind
import HomeGateway.Data.Table
import HomeGateway.Data.Value
import HomeGateway.Device.Address
import HomeGateway.Device.Endpoint
import HomeGateway.Device.Identity
import HomeGateway.Device.Record
import HomeGateway.Device.Registry
import HomeGateway.Device.Room
import HomeGateway.Enumeration
import HomeGateway.Error
import HomeGateway.Event.Basic
import HomeGateway.Event.Store
import HomeGateway.Feed
import HomeGateway.Hub
import HomeGateway.Inspect
import HomeGateway.Inspect.Data
import HomeGateway.Inspect.Device
import HomeGateway.Json.Basic
import HomeGateway.Json.Form
import HomeGateway.Json.Lexer
import HomeGateway.Json.Number
import HomeGateway.Json.Parser
import HomeGateway.Json.Printer
import HomeGateway.Pool
import HomeGateway.Proofs.Event.Store
import HomeGateway.Proofs.Hub.Accounting
import HomeGateway.Proofs.Hub.Run
import HomeGateway.Proofs.Pool
import HomeGateway.Proofs.Subscription.Exchange
import HomeGateway.Session.Actions
import HomeGateway.Session.Basic
import HomeGateway.Statistics
import HomeGateway.Subscription.Conf
import HomeGateway.Subscription.Exchange
import HomeGateway.Subscription.ExtendedFilter
import HomeGateway.Survey
import HomeGateway.Text.CivilDate
import HomeGateway.Text.Hex
import HomeGateway.Text.Hidden
import HomeGateway.Wire.Bus
import HomeGateway.Wire.Config
import HomeGateway.Wire.Data
import HomeGateway.Wire.Device
import HomeGateway.Wire.Failure
import HomeGateway.Wire.Report
import HomeGateway.Proofs.Hub.Lifecycle
import HomeGateway.Proofs.Subscription.Fanout
import HomeGateway.Proofs.Hub.Delivery
import HomeGateway.Proofs.Bus.Row
import HomeGateway.Proofs.Bus.Turn
import HomeGateway.Proofs.Bus.RoundTrip
import HomeGateway.Proofs.Bus.Multiplexer
import HomeGateway.Proofs.Bus.Caller
import HomeGateway.Proofs.Bus.Deadline
import HomeGateway.Proofs.Device.Address
import HomeGateway.Proofs.Device.Registry
import HomeGateway.Proofs.Hub.Enrolment
import HomeGateway.Proofs.Hub.Refusal
import HomeGateway.Proofs.Bus.Ledger
import HomeGateway.Proofs.Statistics
import HomeGateway.Proofs.Bus.Agenda
import HomeGateway.Proofs.Subscription.Tenure
import HomeGateway.Proofs.Subscription.Turns
import HomeGateway.Proofs.Hub.Tenancy
import HomeGateway.Proofs.Hub.Tallies
import HomeGateway.Proofs.Device.History
import HomeGateway.Proofs.Hub.Traffic
import HomeGateway.Proofs.Event.Lineage
import HomeGateway.Proofs.Hub.Lineage
import HomeGateway.Proofs.Hub.Retention
import HomeGateway.Proofs.Bus.Slots
import HomeGateway.Proofs.Bus.Channel
import HomeGateway.Proofs.Bus.ControllerInUse
import HomeGateway.Proofs.Hub.Addresses
import HomeGateway.Proofs.Bus.Backlog
import HomeGateway.Proofs.Bus.Isolation
import HomeGateway.Proofs.Bus.Relay
import HomeGateway.Proofs.Bus.Attached
import HomeGateway.Proofs.Subscription.Waits
import HomeGateway.Proofs.Subscription.Wakeup
import HomeGateway.Proofs.Bus.Frame
import HomeGateway.Proofs.Catalog.Board
import HomeGateway.Proofs.Catalog.Thermometer
import HomeGateway.Proofs.Hub.Placement
import HomeGateway.Proofs.Hub.Reception
import HomeGateway.Proofs.Hub.Measurement
import HomeGateway.Proofs.Json.Text
import HomeGateway.Proofs.Json.Form
import HomeGateway.Proofs.Wire.RoundTrip
import HomeGateway.Proofs.Subscription.ExtendedFilter
import HomeGateway.Proofs.Hub.Survey
import HomeGateway.Proofs.Hub.Recency
import HomeGateway.Proofs.Hub.Classes
import HomeGateway.Proofs.Bus.Transmission
import HomeGateway.Proofs.Hub.Admission
import HomeGateway.Proofs.Hub.Occupancy
import HomeGateway.Proofs.Hub.Commands
import HomeGateway.Proofs.Lending
import HomeGateway.Proofs.Catalog.Outputs
import HomeGateway.Proofs.Bus.SubmissionQueue
import HomeGateway.Proofs.Bus.Handles
import HomeGateway.Proofs.Catalog.Reading
