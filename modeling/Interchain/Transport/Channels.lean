import Interchain.Form.Packets
import Interchain.Text.CharTable.Basic
import Interchain.Transport.Basic

/-!
# The keeper of channels

The transport keeper of a chain, bound to one port. A token that is from this side of a channel
is put into the channel's escrow account when it leaves and comes out of it when it returns; a
token from the other side is burned when it returns there and minted as a voucher when it comes
in. A sent packet stays committed, under its channel and number, until it is settled, and the
paths of vouchers are kept so that they can be sent back.
-/

set_option autoImplicit false

namespace Interchain

/-- Packets are committed under their channel and number. -/
structure PacketKey where
  channel : Channel
  sequence : UInt64
deriving DecidableEq

namespace PacketKey

/-- By channel, then by number. -/
def order (a b : PacketKey) : Ordering :=
  (compare a.channel b.channel).then (compare a.sequence b.sequence)

instance : Ord PacketKey := ⟨order⟩

instance : Std.TransOrd PacketKey :=
  inferInstanceAs (Std.TransCmp (compareLex (compareOn channel) (compareOn sequence)))

instance : Std.LawfulEqOrd PacketKey where
  eq_of_compare {a b} h := by
    have h := Ordering.then_eq_eq.1 h
    cases a
    cases b
    cases Std.LawfulEqOrd.eq_of_compare h.1
    cases Std.LawfulEqOrd.eq_of_compare h.2
    rfl

end PacketKey

/-- The key that a packet is committed under. -/
def Packet.key (p : Packet) : PacketKey :=
  ⟨p.sourceChannel, p.sequence⟩

/-- The channels of a chain, what was sent over them, and the vouchers that came in. -/
structure ChannelKeeper where
  port : Port
  /-- The remote end of each open channel. -/
  channels : FiniteMap Channel Hop := ∅
  /-- The number of the next packet on each channel. -/
  nextSequence : FiniteMap Channel UInt64 := ∅
  traces : FiniteMap Denom Trace := ∅
  commitments : FiniteMap PacketKey Packet := ∅
  sendEnabled : Bool := true
  receiveEnabled : Bool := true
deriving DecidableEq

namespace ChannelKeeper

/-- Opens a channel to a remote end, or gives an open one a new remote end. The numbers of its
packets go on where they were. -/
def openChannel (k : ChannelKeeper) (channel : Channel) (remote : Hop) : ChannelKeeper :=
  { k with
    channels := k.channels.insert channel remote
    nextSequence := k.nextSequence.insert channel ((k.nextSequence.get? channel).getD 1) }

/-- Keeps a trace under its local denomination. -/
def setTrace (k : ChannelKeeper) (trace : Trace) : Except FormatError (Denom × ChannelKeeper) := do
  let denom ← trace.localDenom
  return (denom, { k with traces := k.traces.insert denom trace })

/-- Forgets the packet committed under a key. -/
def deleteCommitment (k : ChannelKeeper) (key : PacketKey) : ChannelKeeper :=
  { k with commitments := k.commitments.erase key }

/-- The full path of a denomination of this chain; that of a voucher has to be known. -/
def fullPath (k : ChannelKeeper) (denom : Denom) : Except TransferError String :=
  if denom.isVoucher then
    match k.traces.get? denom with
    | some trace => .ok trace.fullPath
    | none => .error (.traceNotFound denom)
  else
    .ok denom.text

/-- The number of the next packet on a channel. -/
def sequenceOf (k : ChannelKeeper) (channel : Channel) : UInt64 :=
  (k.nextSequence.get? channel).getD 1

/-- The keeper after sending a packet. -/
def commit (k : ChannelKeeper) (p : Packet) : ChannelKeeper :=
  { k with
    commitments := k.commitments.insert p.key p
    nextSequence := k.nextSequence.insert p.sourceChannel (p.sequence + 1) }

/-- Whether the packet is committed as it was sent. -/
def hasCommitment (k : ChannelKeeper) (p : Packet) : Bool :=
  k.commitments.get? p.key = some p

variable {β : Type} [Ledger β]

/-- Takes a token out of an account: into escrow if it is from this side of the channel, out of
existence if it is not. -/
def takeOut (source : Hop) (path : String) (sender : Address) (token : Coin) :
    Action ChannelKeeper β Unit := do
  if senderIsSource source path then
    Action.onLedger (Ledger.send sender (.escrow source.port source.channel) token)
  else
    Action.onLedger (Ledger.sendToModule sender transferModule token)
    Action.onLedger (Ledger.burn transferModule token)

/-- Creates a coin and gives it to an account. -/
def mintTo (account : Address) (coin : Coin) : Action ChannelKeeper β Unit := do
  Action.onLedger (Ledger.mint transferModule coin)
  Action.onLedger (Ledger.sendFromModule transferModule account coin)

/-- Keeps the trace of a voucher. The first time it is reported. -/
def recordTrace (denom : Denom) (trace : Trace) : Action ChannelKeeper β Unit := do
  let s ← get
  if !s.keeper.traces.contains denom then
    Action.emit "denomination_trace" [("trace_hash", denom.text), ("denom", trace.fullPath)]
    modify fun s =>
      { s with keeper := { s.keeper with traces := s.keeper.traces.insert denom trace } }

def send (m : TransferMessage) : Action ChannelKeeper β TransferResponse := do
  let k := (← get).keeper
  if !k.sendEnabled then
    throw .sendDisabled
  if m.sourcePort ≠ k.port then
    throw (.unknownPort m.sourcePort)
  match k.channels.get? m.sourceChannel with
  | none => throw (.channelNotFound m.sourceChannel)
  | some remote =>
      if m.token.isZero then
        throw .zeroAmount
      if Text.isBlank m.receiver then
        throw .emptyReceiver
      let sender ← Action.parsed (Address.parse m.sender)
      let path ← MonadExcept.ofExcept (k.fullPath m.token.denom)
      takeOut ⟨m.sourcePort, m.sourceChannel⟩ path sender m.token
      -- nothing fails from here on, so a failed message leaves the keeper as it was
      let data : PacketData := ⟨path, m.token.amount, m.sender, m.receiver⟩
      let packet : Packet := {
        sequence := k.sequenceOf m.sourceChannel
        sourcePort := m.sourcePort
        sourceChannel := m.sourceChannel
        destinationPort := remote.port
        destinationChannel := remote.channel
        data := data.toBytes
        timeoutHeight := m.timeoutHeight
        timeoutTimestamp := m.timeoutTimestamp }
      modify fun s => { s with keeper := s.keeper.commit packet }
      Action.emit "ibc_transfer" [
        ("sender", m.sender),
        ("receiver", m.receiver),
        ("denom", path),
        ("amount", toString m.token.amount)]
      return ⟨packet.sequence⟩

/-- Releases a token that comes home from escrow, or mints a voucher for a foreign one. -/
def bringIn (packet : Packet) (data : PacketData) (receiver : Address) :
    Action ChannelKeeper β Coin := do
  let trace := Trace.parse data.denom
  if receiverIsSource packet.source data.denom then
    let denom ← Action.parsed (trace.removeHop packet.source).localDenom
    let coin : Coin := ⟨denom, data.amount⟩
    let escrow := Address.escrow packet.destinationPort packet.destinationChannel
    Action.onLedger (Ledger.send escrow receiver coin)
    return coin
  else
    let trace := trace.addHop packet.destination
    let denom ← Action.parsed trace.localDenom
    -- the trace stays even if minting is refused: the keeper is not branched
    recordTrace denom trace
    let coin : Coin := ⟨denom, data.amount⟩
    mintTo receiver coin
    return coin

def receive (packet : Packet) (data : PacketData) : Action ChannelKeeper β Coin := do
  if !(← get).keeper.receiveEnabled then
    throw .receiveDisabled
  if data.amount = 0 then
    throw .zeroAmount
  let receiver ← Action.parsed (Address.parse data.receiver)
  let coin ← bringIn packet data receiver
  Action.emit "fungible_token_packet" [
    ("module", transferModule),
    ("receiver", data.receiver),
    ("denom", data.denom),
    ("amount", toString data.amount),
    ("success", "true")]
  return coin

def refund (packet : Packet) (data : PacketData) : Action ChannelKeeper β Coin := do
  let sender ← Action.parsed (Address.parse data.sender)
  let denom ← Action.parsed (Trace.parse data.denom).localDenom
  let coin : Coin := ⟨denom, data.amount⟩
  if senderIsSource packet.source data.denom then
    let escrow := Address.escrow packet.sourcePort packet.sourceChannel
    Action.onLedger (Ledger.send escrow sender coin)
  else
    mintTo sender coin
  return coin

instance : Transport ChannelKeeper where
  send := send
  receive := receive
  refund := refund
  hasCommitment := hasCommitment
  clearCommitment k p := k.deleteCommitment p.key

end ChannelKeeper

end Interchain
