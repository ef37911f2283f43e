import TriggerCompose.Cli.Workspace
import TriggerCompose.Main
import TriggerCompose.Proofs.Calendar.DayNumber
import TriggerCompose.Proofs.Calendar.Timestamp
import TriggerCompose.Proofs.Cli.PrintedForm
import TriggerCompose.Proofs.Condition.Closure
import TriggerCompose.Proofs.Condition.Concatenation
import TriggerCompose.Proofs.Condition.Defects
import TriggerCompose.Proofs.Condition.Segments
import TriggerCompose.Proofs.Filter.Collisions
import TriggerCompose.Proofs.Filter.RoundTrip
import TriggerCompose.Proofs.Predicate.Canonical
import TriggerCompose.Proofs.Predicate.Conservation
import TriggerCompose.Proofs.Predicate.Symbols
import TriggerCompose.Proofs.Preview.Aggregation
import TriggerCompose.Proofs.Preview.Columns
import TriggerCompose.Proofs.Preview.Exactness
import TriggerCompose.Proofs.Preview.Instants
import TriggerCompose.Proofs.Preview.Keys
import TriggerCompose.Proofs.Preview.Normalization
import TriggerCompose.Proofs.Preview.NumberTexts
import TriggerCompose.Proofs.Preview.Remainder
import TriggerCompose.Proofs.Preview.Tables
import TriggerCompose.Proofs.Preview.Widths
import TriggerCompose.Proofs.Settings.Checks
