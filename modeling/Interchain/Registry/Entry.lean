import Interchain.Denom

/-!
# Registry entries

What the registry knows about a denomination: its decimals, the lower-precision counterpart it
is converted into before it is sent, the unit that a counterpart stands for,
and what the denomination may be used for. The entry of all defaults stands for a denomination
that is not registered; `Entry.validate` never accepts it.
-/

set_option autoImplicit false

namespace Interchain

/-- What a registered denomination may be used for. -/
inductive Permission where
  | unspecified
  /-- To lie in liquidity pools. -/
  | clp
  /-- To leave the chain. -/
  | ibcExport
  /-- To come in from another chain. -/
  | ibcImport
deriving DecidableEq

/-- The name of a permission in messages. -/
def Permission.name : Permission → String
  | .unspecified => "Unspecified"
  | .clp => "Clp"
  | .ibcExport => "IbcExport"
  | .ibcImport => "IbcImport"

/-- What is wrong with an entry. -/
inductive EntryFault where
  | malformed (error : FormatError)
  | counterpartyIsSelf
  | unitIsSelf
deriving DecidableEq

def EntryFault.message : EntryFault → String
  | .malformed error => error.message
  | .counterpartyIsSelf => "counterparty denom must differ from denom"
  | .unitIsSelf => "unit denom must differ from denom"

/-- Why the registry refuses an entry. -/
inductive RegistryError where
  | duplicate (denom : String)
  | invalid (denom : String) (fault : EntryFault)
deriving DecidableEq

def RegistryError.message : RegistryError → String
  | .duplicate denom => "duplicate registry entry for denom " ++ denom
  | .invalid denom fault =>
      "invalid registry entry for denom " ++ Text.Quoted.encode denom ++ ": " ++ fault.message

/-- An entry of the registry. The denominations in it are plain texts until it is validated. -/
structure Entry where
  /-- The key. -/
  denom : String := ""
  /-- The denomination on the chain that the token is from. -/
  baseDenom : String := ""
  /-- The way of the token, empty for a token of this chain. -/
  path : String := ""
  /-- The number of decimal places that the amounts have. -/
  decimals : UInt32 := 0
  /-- The lower-precision denomination that the token is converted into before it is sent. -/
  counterparty : String := ""
  /-- On a counterpart, the higher-precision denomination that it stands for. -/
  unit : String := ""
  displayName : String := ""
  permissions : List Permission := []
deriving DecidableEq

namespace Entry

/-- Whether the entry stands for a denomination that is not registered. -/
def isEmpty (e : Entry) : Bool :=
  e.denom.isEmpty

def hasCounterparty (e : Entry) : Bool :=
  !e.counterparty.isEmpty

def hasUnit (e : Entry) : Bool :=
  !e.unit.isEmpty

/-- Whether every permission in `required` is granted. -/
def permits (e : Entry) (required : List Permission) : Bool :=
  required.all e.permissions.contains

/-- A text in the entry that has to be a denomination. -/
def checkDenom (e : Entry) (text : String) : Except RegistryError Unit :=
  match Denom.parse text with
  | .ok _ => .ok ()
  | .error error => .error (.invalid e.denom (.malformed error))

/-- The key has to be a denomination, and so have the counterpart and the unit where they are
given; both differ from the key. -/
def validate (e : Entry) : Except RegistryError Unit := do
  e.checkDenom e.denom
  if e.hasCounterparty then
    e.checkDenom e.counterparty
    if e.counterparty = e.denom then
      throw (.invalid e.denom .counterpartyIsSelf)
  if e.hasUnit then
    e.checkDenom e.unit
    if e.unit = e.denom then
      throw (.invalid e.denom .unitIsSelf)

end Entry

end Interchain
