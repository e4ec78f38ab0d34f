import Kona.Primitives
import Kona.Sha256
import Kona.Preimage.Key
import Kona.Preimage.InMemory
import Kona.Preimage.Integrity
import Kona.Preimage.Completeness
import Kona.Client.BlobProvider
import Kona.Client.BlobSoundness
import Kona.Derive.Calldata
import Kona.Executor.Types
import Kona.Executor.Env
import Kona.Executor.Execute
import Kona.Executor.BaseFee
import Kona.Executor.Run
import Kona.Executor.Gas
import Kona.Executor.Receipts
import Kona.Client.ZkvmMain
import Kona.Executor.Failures
