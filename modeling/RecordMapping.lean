import RecordMapping.Expression
import RecordMapping.Session
import RecordMapping.Proofs.Recompile
import RecordMapping.Proofs.Request
import RecordMapping.Proofs.History
import RecordMapping.Proofs.CompileOnce
import RecordMapping.Proofs.Career
import RecordMapping.Proofs.Formation
import RecordMapping.Proofs.Namesake
import RecordMapping.Proofs.Content
import RecordMapping.Proofs.Soundness
import RecordMapping.Proofs.Routes
import RecordMapping.Proofs.Precedence
import RecordMapping.Proofs.Omissions
import RecordMapping.Proofs.Poisoning
import RecordMapping.Proofs.Frozen
import RecordMapping.Proofs.Registration
import RecordMapping.Proofs.Ownership
import RecordMapping.Proofs.FiniteMap
import RecordMapping.Proofs.OneBuild
import RecordMapping.Proofs.ConversionMap
import RecordMapping.Proofs.Capture
import RecordMapping.Proofs.FirstPlan
import RecordMapping.Proofs.Inquiry
import RecordMapping.Proofs.Embedding
import RecordMapping.Proofs.Upkeep
import RecordMapping.Proofs.Aftermath
import RecordMapping.Proofs.Selectors
