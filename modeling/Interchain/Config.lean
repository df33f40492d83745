import Interchain.Form.Values
import Interchain.Logging.Basic
import Interchain.Registry.Basic
import Interchain.Toml.Printer
import Interchain.Toml.Reader
import Interchain.Transfer.Module

/-!
# Configuration

The configuration of a transfer module: its switches, its logging, and the entries that its
registry starts with. It is read from TOML, where every section and every field may be left out,
and written as TOML: the two sections, then one table an entry, with an empty line between
tables.
-/

set_option autoImplicit false

namespace Interchain

open Document

/-! ## Written forms -/

namespace TransferParams

def decode {δ : Type} [Document δ] (d : δ) : Option TransferParams := do
  let r ← Record.ofDocument? ["port_id", "send_enabled", "receive_enabled",
    "require_export_permission", "require_import_permission"] d
  return {
    port := ← r.fieldOr? "port_id" .transfer Port.decode
    sendEnabled := ← r.fieldOr? "send_enabled" true bool?
    receiveEnabled := ← r.fieldOr? "receive_enabled" true bool?
    requireExport := ← r.fieldOr? "require_export_permission" false bool?
    requireImport := ← r.fieldOr? "require_import_permission" false bool? }

def encode (p : TransferParams) : Json :=
  .ofMembers [
    ("port_id", p.port.encode),
    ("send_enabled", .bool p.sendEnabled),
    ("receive_enabled", .bool p.receiveEnabled),
    ("require_export_permission", .bool p.requireExport),
    ("require_import_permission", .bool p.requireImport)]

end TransferParams

/-- The configuration of a transfer module. -/
structure Config where
  transfer : TransferParams := {}
  logging : LoggingConfig := {}
  /-- The entries that the registry starts with. -/
  registry : List Entry := []
deriving DecidableEq

namespace Config

def decode {δ : Type} [Document δ] (d : δ) : Option Config := do
  let r ← Record.ofDocument? ["transfer", "logging", "registry"] d
  return {
    transfer := ← r.fieldOr? "transfer" {} TransferParams.decode
    logging := ← r.fieldOr? "logging" {} LoggingConfig.decode
    registry := ← r.fieldOr? "registry" [] (list? Entry.decode) }

/-- The sections; entries are left out where there are none. -/
def encode (c : Config) : Json :=
  .ofMembers ([("transfer", c.transfer.encode), ("logging", c.logging.encode)] ++
    if c.registry.isEmpty then [] else [("registry", .array (c.registry.map Entry.encode))])

/-- The registry with the entries of the configuration. -/
def tokenRegistry (c : Config) : Except TransferError Registry :=
  match Registry.ofEntries c.registry with
  | .ok r => .ok r
  | .error error => .error (.registry error)

/-! ## TOML -/

/-- The configuration that a TOML document gives. -/
def ofToml (s : String) : Except TransferError Config :=
  match Toml.read? s with
  | none => .error (.config "malformed TOML")
  | some document =>
      match decode document with
      | some c => .ok c
      | none => .error (.config "not a configuration")

/-- The configuration that a file with these bytes gives. -/
def ofFile (bs : List UInt8) : Except TransferError Config :=
  match Text.ofBytes? bs with
  | some s => ofToml s
  | none => .error (.config "not UTF-8")

def transferTable (p : TransferParams) : List Char :=
  Toml.printTable "[transfer]" [
    ("port_id", Toml.printString p.port.text),
    ("send_enabled", Toml.printBool p.sendEnabled),
    ("receive_enabled", Toml.printBool p.receiveEnabled),
    ("require_export_permission", Toml.printBool p.requireExport),
    ("require_import_permission", Toml.printBool p.requireImport)]

def loggingTable (l : LoggingConfig) : List Char :=
  Toml.printTable "[logging]" [
    ("format", Toml.printString l.format.word),
    ("level", Toml.printString l.level)]

def entryTable (e : Entry) : List Char :=
  Toml.printTable "[[registry]]" [
    ("denom", Toml.printString e.denom),
    ("base_denom", Toml.printString e.baseDenom),
    ("path", Toml.printString e.path),
    ("decimals", Toml.printNat e.decimals.toNat),
    ("ibc_counterparty_denom", Toml.printString e.counterparty),
    ("unit_denom", Toml.printString e.unit),
    ("display_name", Toml.printString e.displayName),
    ("permissions", Toml.printStrings (e.permissions.map Permission.word))]

/-- The configuration as a TOML document, with a blank line between tables and every string between
double quotes. -/
def toToml (c : Config) : String :=
  String.ofList (['\n'].intercalate
    (transferTable c.transfer :: loggingTable c.logging :: c.registry.map entryTable))

end Config

end Interchain
