import VersionBump.Main
import VersionBump.Pattern.Matches
import VersionBump.Proofs.Update.Step
import VersionBump.Proofs.Update.FirstFailure
import VersionBump.Proofs.Update.Access
import VersionBump.Proofs.Search.Finishing
import VersionBump.Proofs.Search.Exploration
import VersionBump.Proofs.Search.Code
import VersionBump.Proofs.Text.Marked
import VersionBump.Proofs.Search.Marked
import VersionBump.Proofs.Replacement.Marking
import VersionBump.Proofs.Update.History
import VersionBump.Proofs.Text.Fields
import VersionBump.Proofs.SemanticVersion
import VersionBump.Proofs.Update.ReadBack
import VersionBump.Proofs.Update.Order
import VersionBump.Proofs.Arguments
import VersionBump.Proofs.CommandLine.Decision
import VersionBump.Proofs.CommandLine.LogSettings
import VersionBump.Proofs.CommandLine.Written
import VersionBump.Proofs.Replacement.Decomposition
import VersionBump.Proofs.Search.Completeness
import VersionBump.Proofs.Pattern.CanonicalForm
import VersionBump.Proofs.Pattern.GroupNames
import VersionBump.Proofs.Search.Captures
import VersionBump.Proofs.Replacement.Splice
import VersionBump.Proofs.Update.Faults
import VersionBump.Proofs.Update.Bytes
import VersionBump.Proofs.Update.Reports
import VersionBump.Proofs.Update.Warning
import VersionBump.Proofs.Log.Parts
import VersionBump.Proofs.Log.Precedence
import VersionBump.Proofs.Log.Decoding
import VersionBump.Proofs.Replacement.Narrowing
