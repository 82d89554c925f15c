import Rollout.Command.Argument
import Rollout.Command.Invocation
import Rollout.Command.Message
import Rollout.Command.Perform
import Rollout.Command.Starter
import Rollout.Command.Surroundings
import Rollout.Command.Usage
import Rollout.Config
import Rollout.Digest.Blake3
import Rollout.Folder
import Rollout.Listing
import Rollout.Main
import Rollout.Manifest
import Rollout.Manifest.Check
import Rollout.Manifest.Schema
import Rollout.Number.Binary
import Rollout.Number.Shortest
import Rollout.Operation
import Rollout.Path
import Rollout.Plan
import Rollout.Plan.Compile
import Rollout.Plan.Describe
import Rollout.Plan.Error
import Rollout.Plan.Fingerprint
import Rollout.Plan.Order
import Rollout.Plan.Parameters
import Rollout.Plan.Reach
import Rollout.Plan.Select
import Rollout.Proofs.Listing
import Rollout.Proofs.Plan.Dependencies
import Rollout.Proofs.Plan.Reading
import Rollout.Proofs.Plan.Redaction
import Rollout.Proofs.Plan.Schedule
import Rollout.Proofs.Plan.Secrecy
import Rollout.Proofs.Plan.Selection
import Rollout.Proofs.Plan.Topology
import Rollout.Proofs.Plan.Validation
import Rollout.Proofs.Run.Cancellation
import Rollout.Proofs.Run.Confluence
import Rollout.Proofs.Run.Ending
import Rollout.Proofs.Run.Heeding
import Rollout.Proofs.Run.Invariant
import Rollout.Proofs.Run.Moments
import Rollout.Proofs.Run.Precedence
import Rollout.Proofs.Run.Sending
import Rollout.Proofs.Run.Statuses
import Rollout.Proofs.Run.Steps
import Rollout.Proofs.Sql.Masking
import Rollout.Proofs.Sql.Quote
import Rollout.Proofs.Sql.Token
import Rollout.Proofs.Step.Password
import Rollout.Proofs.Step.Quoting
import Rollout.Proofs.Step.Statement
import Rollout.Proofs.Template
import Rollout.RecoveryModel
import Rollout.Run.Activity
import Rollout.Run.Execute
import Rollout.Run.Flight
import Rollout.Run.Schedule
import Rollout.Run.Session
import Rollout.Run.Status
import Rollout.Run.StepError
import Rollout.Run.Work
import Rollout.Run.World
import Rollout.Sql.Mask
import Rollout.Sql.Quote
import Rollout.Sqlcmd.Call
import Rollout.Sqlcmd.Endpoint
import Rollout.Sqlcmd.Rows
import Rollout.Step
import Rollout.Step.Activity
import Rollout.Step.Script
import Rollout.Template
import Rollout.Text.Blank
import Rollout.Text.Case
import Rollout.Text.Cut
import Rollout.Text.Json
import Rollout.Text.Numeral
import Rollout.Text.Quoted
import Rollout.Text.Unprintable
import Rollout.Toml.Document
import Rollout.Toml.Node
import Rollout.Toml.Number
import Rollout.Toml.Quoted
import Rollout.Toml.Scan
import Rollout.Toml.Value
import Rollout.Yaml.Cursor
import Rollout.Yaml.Event
import Rollout.Yaml.Lexeme
import Rollout.Yaml.Node
import Rollout.Yaml.Reading
import Rollout.Yaml.Scalar
import Rollout.Yaml.Token
import Rollout.Yaml.Value
import Rollout.Proofs.Template.Mentions
import Rollout.Proofs.First
import Rollout.Proofs.Plan.Completion
import Rollout.Proofs.Plan.Faults
import Rollout.Proofs.Plan.Undeclared
import Rollout.Proofs.Text.Json
import Rollout.Proofs.Plan.Distinction
import Rollout.Proofs.Run.Trace
import Rollout.Proofs.Run.Transitions
import Rollout.Proofs.Run.Blame
import Rollout.Proofs.Run.Alone
import Rollout.Proofs.Run.Sequential
import Rollout.Proofs.Step.DryRun
import Rollout.Proofs.Run.DryRun
import Rollout.Proofs.Step.Course
import Rollout.Proofs.Plan.Circles
import Rollout.Proofs.Plan.Turns
import Rollout.Proofs.Plan.Counting
import Rollout.Proofs.Yaml.Reading
import Rollout.Proofs.Manifest.Fields
import Rollout.Proofs.Manifest.Strictness
import Rollout.Proofs.Template.Faults
import Rollout.Proofs.Template.Asking
import Rollout.Proofs.Text.Numeral
import Rollout.Proofs.Template.Numbers
import Rollout.Proofs.Path
import Rollout.Proofs.Plan.Correspondence
import Rollout.Proofs.Run.InOrder
import Rollout.Proofs.Sqlcmd.Rows
import Rollout.Proofs.Sql.Opening
import Rollout.Proofs.Publisher.Publishing
import Rollout.Proofs.Publisher.Subscribing
import Rollout.Proofs.Command.Values
import Rollout.Proofs.Sqlcmd.Credentials
import Rollout.Proofs.Plan.Rounds
