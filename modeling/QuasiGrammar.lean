import QuasiGrammar.Console
import QuasiGrammar.Debounce.Job
import QuasiGrammar.Json.Reader
import QuasiGrammar.Regex.Check
import QuasiGrammar.Service.Session
import QuasiGrammar.Proofs.Files.Locate
import QuasiGrammar.Proofs.Files.Place
import QuasiGrammar.Proofs.Publish.Slots
import QuasiGrammar.Publish.Course
import QuasiGrammar.Proofs.Publish.Calls
import QuasiGrammar.Proofs.Publish.SingleFile
import QuasiGrammar.Proofs.Publish.Registration
import QuasiGrammar.Debounce.Line
import QuasiGrammar.Debounce.Records
import QuasiGrammar.Proofs.Debounce.Alarm
import QuasiGrammar.Proofs.Debounce.Simulation
import QuasiGrammar.Proofs.Debounce.Timeline
import QuasiGrammar.Proofs.Debounce.Heap
import QuasiGrammar.Proofs.Debounce.Progress
import QuasiGrammar.Proofs.Debounce.Passing
import QuasiGrammar.Proofs.Debounce.Jobs
import QuasiGrammar.Proofs.Files.Access
import QuasiGrammar.Proofs.Publish.Faultless
import QuasiGrammar.Proofs.Publish.Pauses
import QuasiGrammar.Service.Moves
import QuasiGrammar.Proofs.Service.Convergence
import QuasiGrammar.Proofs.Rule.Form
import QuasiGrammar.Proofs.Json.Documents
import QuasiGrammar.Proofs.Service.Stopping
import QuasiGrammar.Proofs.Rule.Begin
import QuasiGrammar.Proofs.Schema.Fit
import QuasiGrammar.Proofs.Settings.Reading
import QuasiGrammar.Proofs.Publish.Prefix
import QuasiGrammar.Proofs.Number.Range
import QuasiGrammar.Proofs.Yaml.Defects
import QuasiGrammar.Proofs.Settings.Failures
import QuasiGrammar.Proofs.Debounce.Accounts
import QuasiGrammar.Proofs.Debounce.Memory
import QuasiGrammar.Publish.Trace
import QuasiGrammar.Proofs.Publish.Notices
import QuasiGrammar.Proofs.Rule.Failures
import QuasiGrammar.Service.Account
import QuasiGrammar.Proofs.Service.Outcomes
import QuasiGrammar.Proofs.Rule.Sense
import QuasiGrammar.Proofs.Document.Built
import QuasiGrammar.Proofs.Document.Content
import QuasiGrammar.Publish.Dialogue
import QuasiGrammar.Proofs.Files.Grounded
import QuasiGrammar.Proofs.Publish.Order
import QuasiGrammar.Proofs.Publish.Handover
import QuasiGrammar.Proofs.Publish.Changes
import QuasiGrammar.Proofs.Publish.Reasons
import QuasiGrammar.Proofs.Files.Frame
import QuasiGrammar.Proofs.Publish.Retry
import QuasiGrammar.Proofs.Publish.Untouched
import QuasiGrammar.Proofs.Publish.Naming
import QuasiGrammar.Proofs.Rule.Literal
import QuasiGrammar.Proofs.Rule.Captures
import QuasiGrammar.Proofs.Rule.Closing
import QuasiGrammar.Proofs.Document.ScopeName
import QuasiGrammar.Inquiry
import QuasiGrammar.Proofs.Document.Tightening
import QuasiGrammar.Proofs.Rule.Refusals
import QuasiGrammar.Proofs.Schema.First
import QuasiGrammar.Proofs.Source.Silence
import QuasiGrammar.Proofs.Settings.Defaults
import QuasiGrammar.Proofs.Service.Delay
import QuasiGrammar.Source.Request
import QuasiGrammar.Proofs.Source.Runs
import QuasiGrammar.Proofs.Source.Order
import QuasiGrammar.Proofs.Source.Latest
import QuasiGrammar.Files.Operation
import QuasiGrammar.Proofs.Files.Way
import QuasiGrammar.Proofs.Files.Listing
import QuasiGrammar.Proofs.Files.Effects
import QuasiGrammar.Proofs.Files.Contents
import QuasiGrammar.Proofs.Files.Refusals
import QuasiGrammar.Debounce.Vigil
import QuasiGrammar.Proofs.Debounce.Idle
import QuasiGrammar.Proofs.Source.Handles
import QuasiGrammar.Proofs.Files.Removal
import QuasiGrammar.Proofs.Publish.Cleanup
