import Interchain.Trace

/-!
# Messages, packets and acknowledgements

A user asks for a transfer by a message. The transfer leaves the chain in a packet, whose data
are bytes to everyone but the transfer modules at its two ends. The receiving chain answers with
an acknowledgement.
-/

set_option autoImplicit false

namespace Interchain

/-- A request to send a token to the chain at the other end of a channel. -/
structure TransferMessage where
  sourcePort : Port
  sourceChannel : Channel
  token : Coin
  /-- An account of this chain, checked when the message is handled. -/
  sender : String
  /-- An account of the other chain, opaque to this one. -/
  receiver : String
  timeoutHeight : TimeoutHeight
  /-- In nanoseconds; zero is no timeout. -/
  timeoutTimestamp : UInt64
deriving DecidableEq

/-- The answer to a transfer message: the number of its packet on the channel. -/
structure TransferResponse where
  sequence : UInt64
deriving DecidableEq

/-- What a packet says. -/
structure PacketData where
  /-- The full path of the token as the sending chain sees it. -/
  denom : String
  amount : Amount
  sender : String
  receiver : String
deriving DecidableEq

/-- A numbered parcel from one end of a channel to the other. -/
structure Packet where
  sequence : UInt64
  sourcePort : Port
  sourceChannel : Channel
  destinationPort : Port
  destinationChannel : Channel
  data : List UInt8
  timeoutHeight : TimeoutHeight
  timeoutTimestamp : UInt64
deriving DecidableEq

namespace Packet

/-- The end of the channel that the packet leaves from. -/
def source (p : Packet) : Hop :=
  ⟨p.sourcePort, p.sourceChannel⟩

/-- The end of the channel that the packet arrives at. -/
def destination (p : Packet) : Hop :=
  ⟨p.destinationPort, p.destinationChannel⟩

end Packet

/-- What the receiving chain says about a packet. -/
inductive Acknowledgement where
  | result (text : String)
  | error (reason : String)
deriving DecidableEq

namespace Acknowledgement

/-- The acknowledgement of a packet that was received. -/
def success : Acknowledgement :=
  .result "AQ=="

def isSuccess : Acknowledgement → Bool
  | .result _ => true
  | .error _ => false

end Acknowledgement

end Interchain
