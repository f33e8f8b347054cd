import Talenro.Analysis.ExactlyOnce
import Talenro.Analysis.RecoveryCodes
import Talenro.Analysis.Leases
import Talenro.Analysis.Consumers
import Talenro.Analysis.StagingImports
import Talenro.Analysis.Padding
import Talenro.Analysis.SignedBundles
import Talenro.Analysis.Acknowledgements
import Talenro.Analysis.StoreRefinement
import Talenro.Analysis.ChallengeRecords
import Talenro.Analysis.ProofTranscripts
import Talenro.Analysis.MetadataVerifiers
import Talenro.Analysis.RequestBindings
import Talenro.Analysis.Readiness
import Talenro.Analysis.Providers
import Talenro.Analysis.Resolutions
import Talenro.Analysis.Deliveries
import Talenro.Analysis.Dispatcher
import Talenro.Analysis.RedisStatus
import Talenro.Analysis.Positions
