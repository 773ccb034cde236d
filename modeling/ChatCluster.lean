import ChatCluster.Main
import ChatCluster.Remote.Link
import ChatCluster.Service.Health
import ChatCluster.Proofs.Wire.Normalising
import ChatCluster.Proofs.Registry.Ownership
import ChatCluster.Proofs.Registry.Healing
import ChatCluster.Proofs.Registry.LiveOwner
import ChatCluster.Proofs.Registry.DeadOwner
import ChatCluster.Proofs.Registry.Settling
import ChatCluster.Proofs.Liveness.Interference
import ChatCluster.Proofs.Liveness.Withdrawal
import ChatCluster.Proofs.Instance.Delivery
import ChatCluster.Proofs.Network.Order
import ChatCluster.Proofs.Limiter.Overlap
import ChatCluster.Proofs.Instance.Handover
import ChatCluster.Proofs.Network.Authenticity
import ChatCluster.Proofs.Limiter.Isolation
import ChatCluster.Proofs.Network.Leaving
import ChatCluster.Proofs.Instance.Reconnecting
import ChatCluster.Proofs.Instance.Dues
import ChatCluster.Proofs.Instance.Detaching
import ChatCluster.Proofs.Store.Eager
import ChatCluster.Proofs.Bus.Accounts
import ChatCluster.Proofs.Instance.FanOut
import ChatCluster.Proofs.Limiter.Refusals
import ChatCluster.Proofs.Limiter.Skew
import ChatCluster.Proofs.Limiter.Hints
import ChatCluster.Proofs.Cluster.Silence
import ChatCluster.Proofs.Instance.Intake
import ChatCluster.Proofs.Limiter.Forgetting
import ChatCluster.Proofs.Limiter.Repair
import ChatCluster.Proofs.Limiter.Foretelling
import ChatCluster.Proofs.Registry.Degrading
import ChatCluster.Proofs.Instance.HandingOut
import ChatCluster.Proofs.Wire.Framing
import ChatCluster.Proofs.Config.Loading
import ChatCluster.Proofs.Json.ReadBack
import ChatCluster.Proofs.Config.Precedence
