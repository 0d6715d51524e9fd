import Molly.Run.Approvals
import Molly.Run.Custody
import Molly.Run.Limits
import Molly.Run.Provenance
import Molly.Run.Reconcile
import Molly.Run.Resumption
import Molly.Run.Upkeep
import Molly.File.Lineage
import Molly.Disk.CacheHit
import Molly.Disk.JobsOnce
import Molly.File.Credentials
import Molly.File.FailedAppend
import Molly.Disk.Assertions
import Molly.Run.Insert
import Molly.Br1.Reviewed
import Molly.Br1.ReadBack
import Molly.Evidence.Bound
import Molly.Evidence.Order
import Molly.Evidence.Hints
import Molly.Document.Numbers
import Molly.Document.Complete
import Molly.Document.Declarations
import Molly.Document.Outline
import Molly.Document.NonContent
import Molly.Effect.Ranking
import Molly.Br1.Evaluation
import Molly.Br1.TopN
import Molly.Br1.Gated
import Molly.Disk.JobStates
import Molly.Effect.Firsts
import Molly.Oled.Floats
import Molly.Br1.Attempts
import Molly.Acquisition.Canonical
import Molly.Evidence.Reviewable
import Molly.Evidence.Outcome
import Molly.Run.Recorded
import Molly.Acquisition.RateGate
import Molly.Acquisition.Sources
import Molly.Acquisition.Fetch
import Molly.Acquisition.Reader
import Molly.Acquisition.SecretScan
import Molly.Document.Forest
import Molly.Inspect.Disclosure
import Molly.File.Faithful
import Molly.Acquisition.Sanitized
import Molly.Inspect.Agreement
import Molly.Effect.Shell
import Molly.Br1.CsvFile
import Molly.Br1.Remote
