import Interchain.Text.Quoted

/-!
# Malformed values

Why a text is not a value of the type it was given for: an account address, a denomination, an
amount, a decimal number, or a port or channel identifier.
-/

set_option autoImplicit false

namespace Interchain

/-- What is wrong with an identifier. -/
inductive IdentifierFault where
  /-- It is shorter than `least` or longer than `most` bytes. -/
  | length (id : String) (least most : Nat)
  /-- It holds a character that identifiers do not have. -/
  | characters (id : String)
  /-- It is no channel number after the fixed word. -/
  | unnumbered (id : String)
deriving DecidableEq

def IdentifierFault.message : IdentifierFault → String
  | .length id least most =>
      Text.Quoted.encode id ++ " must be between " ++ toString least ++ " and " ++ toString most
        ++ " characters"
  | .characters id => Text.Quoted.encode id ++ " contains invalid characters"
  | .unnumbered id => Text.Quoted.encode id ++ " is not of the form channel-<n>"

/-- The text that is not a value of its type, under the name of the type. -/
inductive FormatError where
  | address (text : String)
  | denom (text : String)
  | amount (text : String)
  | decimal (text : String)
  | identifier (fault : IdentifierFault)
deriving DecidableEq

def FormatError.message : FormatError → String
  | .address text => "invalid address: " ++ text
  | .denom text => "invalid denomination: " ++ text
  | .amount text => "invalid amount: " ++ text
  | .decimal text => "invalid decimal: " ++ text
  | .identifier fault => "invalid identifier: " ++ fault.message

end Interchain
