import Rcoder.Runtime.BehindStop
import Rcoder.Runtime.Convergence
import Rcoder.Runtime.Streams
import Rcoder.Runtime.Rejection
import Rcoder.Lifecycle.DeletionOrder
import Rcoder.Lifecycle.Drain
import Rcoder.Lifecycle.Exclusive
import Rcoder.Lifecycle.Interruption
import Rcoder.Lifecycle.Metadata
import Rcoder.Lifecycle.Recreation
import Rcoder.Lifecycle.Replay
import Rcoder.Lifecycle.Scan
import Rcoder.Lifecycle.Receipts
import Rcoder.Lifecycle.StorageOrder
import Rcoder.Lifecycle.Fences
import Rcoder.Extraction
import Rcoder.Preview.Generations
import Rcoder.Preview.Agreement
import Rcoder.Preview.Drain
import Rcoder.Permission
import Rcoder.Sessions.Pairing
import Rcoder.Deploy.Saved
import Rcoder.LineMerge
import Rcoder.Sessions.SingleFlight
import Rcoder.Sessions.Transitions
import Rcoder.Supervisor.Generations
import Rcoder.Supervisor.Readiness
