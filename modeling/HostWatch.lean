import HostWatch.Main
import HostWatch.Proofs.RateLimit
import HostWatch.Sequence
import HostWatch.Size
import HostWatch.Watch.Page
import HostWatch.Proofs.Push.Budget
import HostWatch.Proofs.Sequence
import HostWatch.Proofs.Status.Parts
import HostWatch.Proofs.Watch.Span
import HostWatch.Proofs.Rule.CorePlace
import HostWatch.Proofs.Status.Refusal
import HostWatch.Proofs.Rule.OwnSections
import HostWatch.Proofs.Status.Continuation
import HostWatch.Proofs.Files.Write
import HostWatch.Proofs.Json.Pretty
import HostWatch.Proofs.Config.Load
import HostWatch.Proofs.Config.Upgrade
import HostWatch.Proofs.Json.Record
import HostWatch.Proofs.Config.Saved
import HostWatch.Proofs.Text.Search
import HostWatch.Proofs.Rule.Outcome
import HostWatch.Proofs.Rule.Matching
import HostWatch.Proofs.Config.Problem
import HostWatch.Proofs.Numeric.Arithmetic
import HostWatch.Proofs.Numeric.Decimal
import HostWatch.Proofs.Text.Float
import HostWatch.Proofs.Text.Case
import HostWatch.Proofs.Size.Grammar
import HostWatch.Proofs.Text.Blank
import HostWatch.Proofs.Threshold.Grammar
import HostWatch.Proofs.Size.Tenths
import HostWatch.Proofs.Size.Text
import HostWatch.Proofs.Threshold.Text
import HostWatch.Proofs.Status.Usage
import HostWatch.Proofs.Text.Piece
import HostWatch.Proofs.Push.Template
import HostWatch.Proofs.Json.Compact
import HostWatch.Proofs.Push.Body
import HostWatch.Proofs.Rule.OneInterface
import HostWatch.Proofs.Text.Lines
import HostWatch.Proofs.Status.Snapshot
import HostWatch.Proofs.Rule.Id
import HostWatch.Proofs.Push.Settings
import HostWatch.Proofs.Config.Judges
import HostWatch.Proofs.Size.Sum
import HostWatch.Proofs.Rule.AllInterfaces
import HostWatch.Proofs.Status.Devices
import HostWatch.Proofs.Config.Pace
import HostWatch.Proofs.Rule.Views
import HostWatch.Proofs.Size.Rate
