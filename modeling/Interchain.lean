import Interchain.Ledger.Command
import Interchain.Ledger.Faulty
import Interchain.Proofs.Address
import Interchain.Proofs.Config
import Interchain.Proofs.Decimal
import Interchain.Proofs.Form.Config
import Interchain.Proofs.Form.Shape
import Interchain.Proofs.Ledger.Faults
import Interchain.Proofs.Ledger.Operations
import Interchain.Proofs.Ledger.Overwrites
import Interchain.Proofs.Transfer.Atomicity
import Interchain.Proofs.Transfer.Backing
import Interchain.Proofs.Transfer.Commutation
import Interchain.Proofs.Transfer.Conservation
import Interchain.Proofs.Transfer.Custody
import Interchain.Proofs.Transfer.Escrow
import Interchain.Proofs.Transfer.Issuance
import Interchain.Proofs.Transfer.Lookups
import Interchain.Proofs.Transfer.NetEffect
import Interchain.Proofs.Transfer.PassThrough
import Interchain.Proofs.Transfer.Plans
import Interchain.Proofs.Transfer.Recognition
import Interchain.Proofs.Transfer.Refundability
import Interchain.Proofs.Transfer.Rehearsal
import Interchain.Proofs.Transfer.Rejection
import Interchain.Proofs.Transfer.Supply
import Interchain.Proofs.Transfer.Traceability
import Interchain.Proofs.Transport.Refunds
import Interchain.Proofs.Transport.Sides
import Interchain.Proofs.Transport.Wire
import Interchain.Sample
import Interchain.Transport.Channels
import Interchain.Transport.Recording
