import Sessionless.Protocol.Theorems.Replay
import Sessionless.Protocol.Theorems.Persistence
import Sessionless.Protocol.Theorems.Commitment
import Sessionless.Protocol.Theorems.Crossing
import Sessionless.Protocol.Theorems.Cut
import Sessionless.Protocol.Theorems.Resend
import Sessionless.Protocol.Theorems.Unauthenticated
import Sessionless.Protocol.Theorems.Transcript
import Sessionless.Protocol.Theorems.SnapshotDigest
import Sessionless.Store.Theorems.Switch
import Sessionless.Store.Theorems.Log
import Sessionless.Ingress.ExactlyOnce
import Sessionless.Protocol.Theorems.Redelivery
import Sessionless.Protocol.Theorems.Retry
import Sessionless.Delivery.Latest
import Sessionless.Delivery.Isolation
import Sessionless.Delivery.Refinement
import Sessionless.WebAuth.Lifetime
import Sessionless.Spending.Conservation
import Sessionless.Credential.Headroom
import Sessionless.Compaction.Protection
import Sessionless.Context.Chain
import Sessionless.StrictJson.Accounting
