import PlanGuard.Journal.Document
import PlanGuard.Main
import PlanGuard.Proofs.Argv.Boundaries
import PlanGuard.Proofs.Capture.Cuts
import PlanGuard.Proofs.Capture.Legible
import PlanGuard.Proofs.Cli.Agreement
import PlanGuard.Proofs.Cli.Reporting
import PlanGuard.Proofs.Cli.Workload
import PlanGuard.Proofs.Executor.Watching
import PlanGuard.Proofs.Gate.Algebra
import PlanGuard.Proofs.Gate.Precedence
import PlanGuard.Proofs.Gate.Sources
import PlanGuard.Proofs.Plan.RoundTrip
import PlanGuard.Proofs.Retry.Cancellation
import PlanGuard.Proofs.Retry.Ceiling
import PlanGuard.Proofs.Retry.Clearing
import PlanGuard.Proofs.Retry.Independence
import PlanGuard.Proofs.Retry.Merging
import PlanGuard.Proofs.Retry.Provenance
import PlanGuard.Proofs.Retry.Questions
import PlanGuard.Proofs.Retry.Reachable
import PlanGuard.Proofs.Retry.Tags
import PlanGuard.Proofs.Retry.Trail
import PlanGuard.Proofs.Retry.Unusable
import PlanGuard.Proofs.Retry.Vetting
import PlanGuard.Proofs.Retry.Workload
import PlanGuard.Proofs.Sandbox.Cleanup
import PlanGuard.Proofs.Sandbox.Pass
import PlanGuard.Proofs.Sandbox.Refusal
import PlanGuard.Proofs.Text.Flaws
import PlanGuard.Rehearsal
import PlanGuard.Workbench.Trial
import PlanGuard.Proofs.Argv.Display
import PlanGuard.Proofs.Settings.Keys
import PlanGuard.Proofs.Settings.Layers
import PlanGuard.Proofs.Sandbox.Progress
