import Interchain.Registry.Basic
import Interchain.Transfer.Precision
import Interchain.Transport.Basic

/-!
# Outbound conversion

Before a token is sent it is converted into its counterpart, if it has one of lower precision.
The token goes to the account of the module, the counterpart is minted for the sender, and the
transport keeper sends that. All of it succeeds together or not at all.
-/

set_option autoImplicit false

namespace Interchain

namespace Outbound

variable {κ β : Type} [Transport κ] [Ledger β]

/-- Swaps the token of a message for the counterpart with `po` decimals less and sends that. -/
def convertAndSend (counterpart : Entry) (po : Nat) (message : TransferMessage) :
    Action κ β TransferResponse := do
  let sender ← Action.parsed (Address.parse message.sender)
  let denom ← Action.parsed (Denom.parse counterpart.denom)
  let reduction := message.token.amount.reduce po
  if reduction.converted = 0 then
    throw (.belowGranularity message.token po)
  -- what the counterpart cannot express stays with the sender
  let deducted : Coin := ⟨message.token.denom, reduction.deducted⟩
  let converted : Coin := ⟨denom, reduction.converted⟩
  Action.onLedger (Ledger.sendToModule sender transferModule deducted)
  Action.onLedger (Ledger.mint transferModule converted)
  Action.onLedger (Ledger.sendFromModule transferModule sender converted)
  Action.emit "convert_transfer" [
    ("module", transferModule),
    ("sent_amount", toString deducted.amount),
    ("sent_denom", deducted.denom.text),
    ("convert_amount", toString converted.amount),
    ("convert_denom", converted.denom.text)]
  Transport.send { message with token := converted }

/-- Sends the token of a message whose entry is `entry`, converted if its counterpart has less
decimals. -/
def sendAs (r : Registry) (entry : Entry) (message : TransferMessage) :
    Action κ β TransferResponse := do
  if !entry.hasCounterparty then
    Transport.send message
  else
    let counterpart := r.entry entry.counterparty
    if counterpart.isEmpty then
      throw (.missingCounterpart entry.denom entry.counterparty)
    if entry.decimals ≤ counterpart.decimals then
      Transport.send message
    else
      convertAndSend counterpart (entry.decimals.toNat - counterpart.decimals.toNat) message

/-- Handles a message. With `exportOnly` the token needs the permission to leave the chain. -/
def transfer (r : Registry) (exportOnly : Bool) (message : TransferMessage) :
    Action κ β TransferResponse := do
  let entry := r.entry message.token.denom.text
  if exportOnly && !entry.permits [.ibcExport] then
    throw (.unauthorized message.token.denom .ibcExport)
  Action.atomically (sendAs r entry message)

end Outbound

end Interchain
