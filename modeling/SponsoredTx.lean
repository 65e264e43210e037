import SponsoredTx.Chain.AdmissionGap
import SponsoredTx.Chain.BlockExecution
import SponsoredTx.Chain.ChargeAuthorisation
import SponsoredTx.Chain.EscrowRecovery
import SponsoredTx.Chain.ReservationMove
import SponsoredTx.Chain.ReservationSafety
import SponsoredTx.Chain.SponsoredConservation
import SponsoredTx.Chain.StoredPolicies
import SponsoredTx.Chain.UnsponsoredTraffic
import SponsoredTx.Client.FeeReceipt
import SponsoredTx.Client.HoldReader
import SponsoredTx.Client.ParamsBuilder
import SponsoredTx.Client.SignedPayload
import SponsoredTx.Extension.SettlementWeight
import SponsoredTx.Overlap.AdmissionLifetime
import SponsoredTx.Overlap.BudgetCapacity
import SponsoredTx.Overlap.EncodedState
import SponsoredTx.Overlap.ReservationOverlap
import SponsoredTx.Overlap.SponsorIsolation
import SponsoredTx.Pallet.CallAtomicity
