import DashboardCheck.Check.Certificate
import DashboardCheck.Check.Context
import DashboardCheck.Check.Error
import DashboardCheck.Check.Keys
import DashboardCheck.Check.Login
import DashboardCheck.Check.Probe
import DashboardCheck.Check.Saml
import DashboardCheck.Check.Scenario
import DashboardCheck.Check.Suite
import DashboardCheck.Check.Topology
import DashboardCheck.Check.User
import DashboardCheck.Command.Arguments
import DashboardCheck.Command.Error
import DashboardCheck.Command.Execute
import DashboardCheck.Command.Grammar
import DashboardCheck.Command.Line
import DashboardCheck.Command.Process
import DashboardCheck.Command.Refusal
import DashboardCheck.Command.Report
import DashboardCheck.Config.Basic
import DashboardCheck.Config.Environment
import DashboardCheck.Config.Error
import DashboardCheck.Config.Reading
import DashboardCheck.Config.Source
import DashboardCheck.Config.Validation
import DashboardCheck.Config.Writing
import DashboardCheck.Dict
import DashboardCheck.Disk
import DashboardCheck.Document.Basic
import DashboardCheck.Document.Failure
import DashboardCheck.Document.Shape
import DashboardCheck.Duration
import DashboardCheck.Http.Backoff
import DashboardCheck.Http.Certificate
import DashboardCheck.Http.Client
import DashboardCheck.Http.Host
import DashboardCheck.Http.Ipv6
import DashboardCheck.Http.Message
import DashboardCheck.Http.Percent
import DashboardCheck.Http.Punycode
import DashboardCheck.Http.Url
import DashboardCheck.Json.Reading
import DashboardCheck.Json.Token
import DashboardCheck.Json.Tree
import DashboardCheck.Json.Value
import DashboardCheck.Juju.Client
import DashboardCheck.Juju.Host
import DashboardCheck.Main
import DashboardCheck.Number.Numeral
import DashboardCheck.Number.Shortest
import DashboardCheck.Orchestrator.Call
import DashboardCheck.Orchestrator.Error
import DashboardCheck.Orchestrator.Mock
import DashboardCheck.Orchestrator.ModelStatus
import DashboardCheck.Orchestrator.Report
import DashboardCheck.Outcome.Basic
import DashboardCheck.Outcome.Status
import DashboardCheck.Release.Basic
import DashboardCheck.Release.Reading
import DashboardCheck.Text.Blank
import DashboardCheck.Text.CaseTable
import DashboardCheck.Text.Lower
import DashboardCheck.Text.PrintTable
import DashboardCheck.Text.Quoted
import DashboardCheck.Text.Split
import DashboardCheck.Text.Styled
import DashboardCheck.Text.Utf8
import DashboardCheck.Toml.Item
import DashboardCheck.Toml.Parser
import DashboardCheck.Toml.Reading
import DashboardCheck.Toml.Text
import DashboardCheck.Toml.Writer
import DashboardCheck.Uuid
import DashboardCheck.World.Metrics
import DashboardCheck.World.Program
import DashboardCheck.World.Trace
import DashboardCheck.Proofs.Http.Attempts
import DashboardCheck.Proofs.Http.Delivery
import DashboardCheck.Proofs.Http.Reference
import DashboardCheck.Proofs.Check.Endpoint
import DashboardCheck.Proofs.Check.Suite
import DashboardCheck.Proofs.Command.Run
import DashboardCheck.Proofs.Http.Memoryless
import DashboardCheck.Proofs.Orchestrator.Mock
import DashboardCheck.Proofs.Check.Independence
import DashboardCheck.Proofs.Juju.Answers
import DashboardCheck.Proofs.Config.Precedence
import DashboardCheck.Proofs.Check.Active
import DashboardCheck.Proofs.Command.Secrecy
import DashboardCheck.Proofs.Orchestrator.Likeness
import DashboardCheck.Proofs.Orchestrator.Generations
import DashboardCheck.Proofs.Command.Certificate
import DashboardCheck.Proofs.Command.Validated
import DashboardCheck.Proofs.Command.Display
import DashboardCheck.Proofs.Check.Saml
import DashboardCheck.Proofs.Check.Creation
import DashboardCheck.Proofs.Check.Login
import DashboardCheck.Proofs.Check.Keys
import DashboardCheck.Proofs.Orchestrator.Entries
import DashboardCheck.Proofs.Orchestrator.Naming
import DashboardCheck.Proofs.Release.Channel
import DashboardCheck.Proofs.Orchestrator.Base
import DashboardCheck.Proofs.Release.Spelling
import DashboardCheck.Proofs.Check.Topology
import DashboardCheck.Proofs.Check.Tally
import DashboardCheck.Proofs.Orchestrator.Recorder
import DashboardCheck.Proofs.Http.Backoff
import DashboardCheck.Proofs.Check.Copy
import DashboardCheck.Proofs.Http.UnitUrl
import DashboardCheck.Proofs.Outcome.RoundTrip
