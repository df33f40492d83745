import Interchain.Address
import Interchain.Json.Document
import Interchain.Registry.Entry
import Interchain.Trace

/-!
# Written forms of values, traces and registry entries

How these types are read from a document and written as JSON. Amounts, addresses, denominations
and identifiers are texts, and reading one holds it to the rule of its type. All fields of a
registry entry may be left out.
-/

set_option autoImplicit false

namespace Interchain

open Document

variable {δ : Type} [Document δ]

namespace Amount

def decode : δ → Option Amount :=
  parsed? Amount.parse

def encode (a : Amount) : Json :=
  .text (toString a)

end Amount

namespace Validated

def encode {rule : String → Bool} (v : Validated rule) : Json :=
  .text v.text

end Validated

namespace Address

def decode : δ → Option Address :=
  parsed? Address.parse

end Address

namespace Denom

def decode : δ → Option Denom :=
  parsed? Denom.parse

end Denom

namespace Port

def decode : δ → Option Port :=
  parsed? Port.parse

end Port

namespace Channel

def decode : δ → Option Channel :=
  parsed? Channel.parse

end Channel

namespace TimeoutHeight

def decode (d : δ) : Option TimeoutHeight := do
  let r ← Record.ofDocument? ["revision_number", "revision_height"] d
  return {
    revisionNumber := ← r.field? "revision_number" uint64?
    revisionHeight := ← r.field? "revision_height" uint64? }

def encode (h : TimeoutHeight) : Json :=
  .ofMembers [
    ("revision_number", .ofNat h.revisionNumber.toNat),
    ("revision_height", .ofNat h.revisionHeight.toNat)]

end TimeoutHeight

namespace Hop

def decode (d : δ) : Option Hop := do
  let r ← Record.ofDocument? ["port_id", "channel_id"] d
  return {
    port := ← r.field? "port_id" Port.decode
    channel := ← r.field? "channel_id" Channel.decode }

def encode (h : Hop) : Json :=
  .ofMembers [("port_id", h.port.encode), ("channel_id", h.channel.encode)]

end Hop

namespace Trace

def decode (d : δ) : Option Trace := do
  let r ← Record.ofDocument? ["path", "base_denom"] d
  return {
    hops := ← r.field? "path" (list? Hop.decode)
    base := ← r.field? "base_denom" text? }

def encode (t : Trace) : Json :=
  .ofMembers [("path", .array (t.hops.map Hop.encode)), ("base_denom", .text t.base)]

end Trace

namespace Coin

def decode (d : δ) : Option Coin := do
  let r ← Record.ofDocument? ["denom", "amount"] d
  return {
    denom := ← r.field? "denom" Denom.decode
    amount := ← r.field? "amount" Amount.decode }

def encode (c : Coin) : Json :=
  .ofMembers [("denom", c.denom.encode), ("amount", c.amount.encode)]

end Coin

namespace Permission

/-- The name of a permission in documents. -/
def word : Permission → String
  | .unspecified => "unspecified"
  | .clp => "clp"
  | .ibcExport => "ibc_export"
  | .ibcImport => "ibc_import"

def all : List Permission :=
  [.unspecified, .clp, .ibcExport, .ibcImport]

def decode (d : δ) : Option Permission := do
  let w ← choice? d
  all.find? fun p => p.word = w

def encode (p : Permission) : Json :=
  .text p.word

end Permission

namespace Entry

def decode (d : δ) : Option Entry := do
  let r ← Record.ofDocument? ["denom", "base_denom", "path", "decimals", "ibc_counterparty_denom",
    "unit_denom", "display_name", "permissions"] d
  return {
    denom := ← r.fieldOr? "denom" "" text?
    baseDenom := ← r.fieldOr? "base_denom" "" text?
    path := ← r.fieldOr? "path" "" text?
    decimals := ← r.fieldOr? "decimals" 0 uint32?
    counterparty := ← r.fieldOr? "ibc_counterparty_denom" "" text?
    unit := ← r.fieldOr? "unit_denom" "" text?
    displayName := ← r.fieldOr? "display_name" "" text?
    permissions := ← r.fieldOr? "permissions" [] (list? Permission.decode) }

def encode (e : Entry) : Json :=
  .ofMembers [
    ("denom", .text e.denom),
    ("base_denom", .text e.baseDenom),
    ("path", .text e.path),
    ("decimals", .ofNat e.decimals.toNat),
    ("ibc_counterparty_denom", .text e.counterparty),
    ("unit_denom", .text e.unit),
    ("display_name", .text e.displayName),
    ("permissions", .array (e.permissions.map Permission.encode))]

end Entry

end Interchain
