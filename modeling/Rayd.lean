import Rayd.Refs.ForeignDeletion
import Rayd.Refs.PrematureFree
import Rayd.Refs.Leaks
import Rayd.Tasks.Lineage
import Rayd.Raylet.TokenReset
import Rayd.Raylet.Convergence
import Rayd.Raylet.Borrowing
import Rayd.Raylet.Restoring
import Rayd.Plasma.Framing
import Rayd.Raylet.IndexedNodes
import Rayd.Raylet.OwnerDeaths
import Rayd.Core.Freeing
import Rayd.Refs.States
import Rayd.Plasma.Unsealed
import Rayd.Core.Resealing
import Rayd.Refs.Bookkeeping
import Rayd.Gcs.Accounting
import Rayd.Refs.Shutdown
import Rayd.Refs.Gating
import Rayd.Refs.Holders
import Rayd.Tasks.Ingestion
import Rayd.Tasks.Coherence
import Rayd.Actor.Construction
import Rayd.Raylet.Announced
import Rayd.Tasks.Minting
import Rayd.Gcs.Jobs
import Rayd.Spill.Reliable
import Rayd.Refs.Waiting
import Rayd.Raylet.DirectoryGauge
import Rayd.Tasks.Wakeups
import Rayd.Actor.Remote
import Rayd.Gcs.Liveness
import Rayd.Actor.Execution
