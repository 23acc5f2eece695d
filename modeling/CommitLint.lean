import CommitLint.Config.Lemmas
import CommitLint.Record
import CommitLint.Session
import CommitLint.Standard
import CommitLint.Main
import CommitLint.Proofs.Opening
import CommitLint.Proofs.IssueList
import CommitLint.Proofs.Acceptance
import CommitLint.Proofs.HeaderEdits
import CommitLint.Proofs.Content
import CommitLint.Proofs.Convergence
import CommitLint.Proofs.Selections
import CommitLint.Proofs.History
import CommitLint.Proofs.Layout
import CommitLint.Proofs.Reflow
import CommitLint.Proofs.KnownType
import CommitLint.Proofs.Colon
import CommitLint.Proofs.Displacement
import CommitLint.Proofs.Reading
import CommitLint.Proofs.Decision
import CommitLint.Proofs.TightLayout
import CommitLint.Proofs.LongLines
import CommitLint.Proofs.IssueOrder
import CommitLint.Proofs.SingleFix
import CommitLint.Proofs.SecondColon
import CommitLint.Proofs.Repetition
import CommitLint.Proofs.FinalPeriod
import CommitLint.Proofs.Precedence
import CommitLint.Proofs.SavedSettings
import CommitLint.Proofs.LogPaths
import CommitLint.Proofs.LateStops
import CommitLint.Proofs.Erasure
import CommitLint.Proofs.ScopeNames
import CommitLint.Proofs.LogRecords
