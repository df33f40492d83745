import Interchain.Ledger.Basic
import Interchain.Registry.Entry

/-!
# Why a transfer fails

All causes for which the transfer module, its transport and its configuration refuse to act,
those of the layers below included, and the texts they are reported with.
-/

set_option autoImplicit false

namespace Interchain

inductive TransferError where
  | malformed (error : FormatError)
  | ledger (error : LedgerError)
  | registry (error : RegistryError)
  /-- An entry names a counterpart that is not registered. -/
  | missingCounterpart (denom counterparty : String)
  /-- Nothing is left of the amount when `po` decimals are removed. -/
  | belowGranularity (token : Coin) (po : Nat)
  | unauthorized (denom : Denom) (permission : Permission)
  | sendDisabled
  | receiveDisabled
  | unknownPort (port : Port)
  | channelNotFound (channel : Channel)
  | commitmentNotFound (channel : Channel) (sequence : UInt64)
  | traceNotFound (denom : Denom)
  | zeroAmount
  | emptyReceiver
  | invalidPacketData (reason : String)
  | config (reason : String)
deriving DecidableEq

def TransferError.message : TransferError → String
  | .malformed error => "validation error: " ++ error.message
  | .ledger error => "bank error: " ++ error.message
  | .registry error => "registry error: " ++ error.message
  | .missingCounterpart denom counterparty =>
      "denom " ++ denom ++ " names counterparty " ++ counterparty ++ ", which is not registered"
  | .belowGranularity token po =>
      toString token ++ " is below the smallest unit representable after removing " ++
        toString po ++ " decimals"
  | .unauthorized denom permission =>
      "denom " ++ denom.text ++ " lacks the " ++ permission.name ++ " permission"
  | .sendDisabled => "fungible token transfers from this chain are disabled"
  | .receiveDisabled => "fungible token transfers to this chain are disabled"
  | .unknownPort port => "port " ++ port.text ++ " is not bound to the transfer module"
  | .channelNotFound channel => "channel " ++ channel.text ++ " not found"
  | .commitmentNotFound channel sequence =>
      "no commitment for packet " ++ toString sequence.toNat ++ " on " ++ channel.text
  | .traceNotFound denom => "denomination trace not found for " ++ denom.text
  | .zeroAmount => "transfer amount must be positive"
  | .emptyReceiver => "receiver address must not be empty"
  | .invalidPacketData reason => "invalid packet data: " ++ reason
  | .config reason => "config error: " ++ reason

end Interchain
