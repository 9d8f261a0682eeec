import Rawfile.Proofs.Readiness
import Rawfile.Proofs.VolLock
import Rawfile.Proofs.Expansion
import Rawfile.Proofs.Recovery
import Rawfile.Proofs.Retries
import Rawfile.Proofs.Shutdown
import Rawfile.Proofs.Deletion
import Rawfile.Proofs.Idempotence
import Rawfile.Proofs.NodeMapping
import Rawfile.Proofs.Remote
import Rawfile.Proofs.Publication
import Rawfile.Proofs.Staging
import Rawfile.Proofs.CloneCleanup
import Rawfile.Proofs.RepeatedDeletion
import Rawfile.Proofs.ListSnapshots
import Rawfile.Proofs.Formatting
import Rawfile.Proofs.VolumeSchema
import Rawfile.Proofs.Freezing
import Rawfile.Proofs.Reissue
import Rawfile.Proofs.MetadataSteps
import Rawfile.Proofs.FilteredPages
import Rawfile.Proofs.Nameservers
import Rawfile.Proofs.Usage
import Rawfile.Proofs.NodeTasks
import Rawfile.Proofs.TaskRounds
import Rawfile.Proofs.Creation
import Rawfile.Proofs.LoopCommands
import Rawfile.Proofs.CreationTimes
import Rawfile.Proofs.Metrics
import Rawfile.Proofs.Relocation
import Rawfile.Proofs.VolumesStat
