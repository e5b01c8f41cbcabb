import AgentFleet.Agent.Basic
import AgentFleet.Agent.Creation
import AgentFleet.Agent.Listing
import AgentFleet.CommandLine.Argument
import AgentFleet.CommandLine.Command
import AgentFleet.CommandLine.Outcome
import AgentFleet.Instance.Basic
import AgentFleet.Instance.Choice
import AgentFleet.Instance.Supply
import AgentFleet.Job
import AgentFleet.Json.Basic
import AgentFleet.Json.Parser
import AgentFleet.Json.Printer
import AgentFleet.Json.Record
import AgentFleet.Json.Token
import AgentFleet.Main
import AgentFleet.Ownership
import AgentFleet.Platform
import AgentFleet.Profile
import AgentFleet.Proofs.Account
import AgentFleet.Proofs.Admission
import AgentFleet.Proofs.AllOrNothing
import AgentFleet.Proofs.Balance
import AgentFleet.Proofs.BatchStarts
import AgentFleet.Proofs.CallOrder
import AgentFleet.Proofs.Conservation
import AgentFleet.Proofs.Courses
import AgentFleet.Proofs.Creating
import AgentFleet.Proofs.Environments
import AgentFleet.Proofs.Events
import AgentFleet.Proofs.Fallback
import AgentFleet.Proofs.FloatOrder
import AgentFleet.Proofs.Grown
import AgentFleet.Proofs.Holdings
import AgentFleet.Proofs.InStep
import AgentFleet.Proofs.Independence
import AgentFleet.Proofs.JsonRecords
import AgentFleet.Proofs.JsonTexts
import AgentFleet.Proofs.JsonTokens
import AgentFleet.Proofs.JsonValues
import AgentFleet.Proofs.LabelCodec
import AgentFleet.Proofs.Later
import AgentFleet.Proofs.Launching
import AgentFleet.Proofs.LifeCycles
import AgentFleet.Proofs.Lifetime
import AgentFleet.Proofs.Listings
import AgentFleet.Proofs.Machines
import AgentFleet.Proofs.Numerals
import AgentFleet.Proofs.OneTaskEach
import AgentFleet.Proofs.PassCounts
import AgentFleet.Proofs.Passes
import AgentFleet.Proofs.Placeholders
import AgentFleet.Proofs.Placing
import AgentFleet.Proofs.Possible
import AgentFleet.Proofs.ProfileTexts
import AgentFleet.Proofs.Ranking
import AgentFleet.Proofs.Reachable
import AgentFleet.Proofs.ReadBack
import AgentFleet.Proofs.Reading
import AgentFleet.Proofs.Refusals
import AgentFleet.Proofs.Renewals
import AgentFleet.Proofs.ResourceNames
import AgentFleet.Proofs.Rosters
import AgentFleet.Proofs.Rounds
import AgentFleet.Proofs.ScriptRuns
import AgentFleet.Proofs.ServiceCalls
import AgentFleet.Proofs.SettingsFiles
import AgentFleet.Proofs.SharedCalls
import AgentFleet.Proofs.Sharing
import AgentFleet.Proofs.Simulations
import AgentFleet.Proofs.StopOrder
import AgentFleet.Proofs.Stopping
import AgentFleet.Proofs.Table
import AgentFleet.Proofs.TomlDocuments
import AgentFleet.Proofs.TomlStatements
import AgentFleet.Proofs.TomlStrings
import AgentFleet.Proofs.Traffic
import AgentFleet.Proofs.Undoing
import AgentFleet.Proofs.Validity
import AgentFleet.Proofs.WireFormat
import AgentFleet.Proofs.WrittenRecords
import AgentFleet.Request
import AgentFleet.Roster
import AgentFleet.Script
import AgentFleet.Service.Call
import AgentFleet.Service.Definition
import AgentFleet.Service.Launch
import AgentFleet.Service.State
import AgentFleet.Service.Task
import AgentFleet.Settings.Basic
import AgentFleet.Settings.File
import AgentFleet.Simulation
import AgentFleet.Specification
import AgentFleet.Text.Basic
import AgentFleet.Text.Quoted
import AgentFleet.Toml.Basic
import AgentFleet.Toml.Document
import AgentFleet.Toml.Moment
import AgentFleet.Toml.Printer
import AgentFleet.Toml.Quotes
import AgentFleet.Toml.Scalar
import AgentFleet.Toml.Statement
