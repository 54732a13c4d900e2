import Fixity.Main
import Fixity.Proofs.Audit.Course
import Fixity.World.Memory
import Fixity.Proofs.Audit.Concern
import Fixity.Proofs.Audit.Verdict
import Fixity.Proofs.Audit.Coherence
import Fixity.Proofs.Check.Course
import Fixity.Proofs.Check.Coherence
import Fixity.Proofs.Service.Posting
import Fixity.Proofs.Service.Surface
import Fixity.Proofs.Check.Invocations
import Fixity.Proofs.Agreement
import Fixity.Proofs.Interleaving
import Fixity.Proofs.Storage.Endpoints
import Fixity.Proofs.Audit.Answered
import Fixity.Proofs.Audit.Batch
import Fixity.Proofs.Audit.Evidence
import Fixity.Proofs.Audit.Csv
import Fixity.Proofs.Audit.Table
import Fixity.Proofs.Calls
import Fixity.Proofs.Check.Discipline
import Fixity.Proofs.Audit.Restraint
import Fixity.Proofs.Documents
import Fixity.Proofs.Check.Retries
import Fixity.Proofs.Audit.Escalation
import Fixity.Proofs.Storage.Preference
import Fixity.Proofs.Audit.Refusals
import Fixity.Proofs.Storage.Spelling
import Fixity.Proofs.Check.Recency
import Fixity.Proofs.Text.Percent
import Fixity.Proofs.Storage.Segments
import Fixity.Proofs.Audit.Naming
import Fixity.Proofs.Audit.Paths
import Fixity.Proofs.Rechunking
import Fixity.Proofs.Audit.Stops
import Fixity.Proofs.Storage.Clients
import Fixity.Proofs.Storage.Stats
import Fixity.Proofs.Newest
import Fixity.Proofs.Decomposition
import Fixity.Proofs.Text.Numerals
import Fixity.Proofs.Text.Lines
import Fixity.Proofs.Audit.Ids
import Fixity.Proofs.Launch.Options
import Fixity.Proofs.Launch.Overrides
