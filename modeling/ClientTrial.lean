import ClientTrial.CommandLine.Session
import ClientTrial.Json.Reader
import ClientTrial.Main
import ClientTrial.Settings.Cache
import ClientTrial.Proofs.Bench.Adds
import ClientTrial.Proofs.Bench.Calm
import ClientTrial.Proofs.Bench.Ends
import ClientTrial.Proofs.Bench.Environ
import ClientTrial.Proofs.Bench.Files
import ClientTrial.Proofs.Bench.Frame
import ClientTrial.Proofs.Bench.Silence
import ClientTrial.Proofs.Bench.Steady
import ClientTrial.Proofs.Bench.Table
import ClientTrial.Proofs.Bench.Trace
import ClientTrial.Proofs.Bench.Voice
import ClientTrial.Proofs.Text.Utf8
import ClientTrial.Proofs.Artifact
import ClientTrial.Proofs.CommandLine.Overrides
import ClientTrial.Proofs.CommandLine.Spelling
import ClientTrial.Proofs.CommandLine.Status
import ClientTrial.Proofs.Client
import ClientTrial.Proofs.Crew
import ClientTrial.Proofs.Decimal.Digits
import ClientTrial.Proofs.Decimal.Nearest
import ClientTrial.Proofs.Decimal.Packed
import ClientTrial.Proofs.Decimal.Scientific
import ClientTrial.Proofs.Decimal.Shortest
import ClientTrial.Proofs.Decimal.Whole
import ClientTrial.Proofs.Decimal.Written
import ClientTrial.Proofs.Effects
import ClientTrial.Proofs.Ends
import ClientTrial.Proofs.Entries
import ClientTrial.Proofs.Json.Grammar
import ClientTrial.Proofs.Json.RoundTrip
import ClientTrial.Proofs.Json.Strings
import ClientTrial.Proofs.Lossless
import ClientTrial.Proofs.Moment
import ClientTrial.Proofs.Readiness
import ClientTrial.Proofs.Report
import ClientTrial.Proofs.Retries
import ClientTrial.Proofs.Route
import ClientTrial.Proofs.SavedReport
import ClientTrial.Proofs.Search
import ClientTrial.Proofs.Server
import ClientTrial.Proofs.Server.Alike
import ClientTrial.Proofs.Server.Connection
import ClientTrial.Proofs.Server.Dialogue
import ClientTrial.Proofs.Server.Law
import ClientTrial.Proofs.Server.Parallel
import ClientTrial.Proofs.Server.Party
import ClientTrial.Proofs.Server.Ports
import ClientTrial.Proofs.Server.Refusal
import ClientTrial.Proofs.Server.Shared
import ClientTrial.Proofs.Settings.Markers
import ClientTrial.Proofs.Settings.NormalForm
import ClientTrial.Proofs.Settings.Precedence
import ClientTrial.Proofs.Stopping
import ClientTrial.Proofs.Tasks
import ClientTrial.Proofs.Trial.Address
import ClientTrial.Proofs.Trial.Answers
import ClientTrial.Proofs.Trial.Blame
import ClientTrial.Proofs.Trial.Calm
import ClientTrial.Proofs.Trial.CleanUp
import ClientTrial.Proofs.Trial.Course
import ClientTrial.Proofs.Trial.Effects
import ClientTrial.Proofs.Trial.Ends
import ClientTrial.Proofs.Trial.Errors
import ClientTrial.Proofs.Trial.Fidelity
import ClientTrial.Proofs.Trial.FilesKept
import ClientTrial.Proofs.Trial.FinalStage
import ClientTrial.Proofs.Trial.Impartial
import ClientTrial.Proofs.Trial.Journey
import ClientTrial.Proofs.Trial.Order
import ClientTrial.Proofs.Trial.Refusal
import ClientTrial.Proofs.Trial.Reported
import ClientTrial.Proofs.Trial.Retention
import ClientTrial.Proofs.Trial.Stamps
import ClientTrial.Proofs.Trial.Steady
import ClientTrial.Proofs.Trial.Tidy
import ClientTrial.Proofs.Trial.Vacuity
import ClientTrial.Proofs.Trial.Verdict
import ClientTrial.Proofs.Vigil
import ClientTrial.Proofs.Settings.Cache
import ClientTrial.Proofs.Journal
import ClientTrial.Proofs.Text.Words
import ClientTrial.Proofs.Trial.Commands
import ClientTrial.Proofs.Bench.Marks
import ClientTrial.Proofs.Trial.Outputs
import ClientTrial.Proofs.Text.Strip
import ClientTrial.Proofs.Settings.MarkerText
import ClientTrial.Proofs.Trial.Context
