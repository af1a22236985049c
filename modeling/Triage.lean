import Triage.Main
import Triage.Proofs.AttachedLabels
import Triage.Proofs.AuthorText
import Triage.Proofs.CascadeClosure
import Triage.Proofs.CommandLines
import Triage.Proofs.CommandReading
import Triage.Proofs.CommentThenCommand
import Triage.Proofs.ConfiguredValues
import Triage.Proofs.DeliveryRepair
import Triage.Proofs.DuplicateCycles
import Triage.Proofs.DuplicateEdges
import Triage.Proofs.DuplicateRefinement
import Triage.Proofs.DurationGrammar
import Triage.Proofs.LabelNamespaces
import Triage.Proofs.MarkAccounts
import Triage.Proofs.MarkDurability
import Triage.Proofs.MarkOrder
import Triage.Proofs.MetadataUpdates
import Triage.Proofs.NetEffects
import Triage.Proofs.NormalBlocks
import Triage.Proofs.QueryDecoding
import Triage.Proofs.QueryTokens
import Triage.Proofs.QuotedCommands
import Triage.Proofs.Redelivery
import Triage.Proofs.SearchDates
import Triage.Proofs.SweepExitCodes
import Triage.Proofs.TaskChecks
import Triage.Proofs.TaskLimits
import Triage.Proofs.TaskOrder
import Triage.Proofs.TemplateFilling
import Triage.Proofs.TimestampOrder
import Triage.Query.Raw
import Triage.Tracker.FailurePlan
