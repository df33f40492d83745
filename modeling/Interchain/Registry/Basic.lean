import Interchain.Attempt
import Interchain.FiniteMap
import Interchain.Registry.Entry

/-!
# The token registry

Entries under their denominations. Only valid entries get in, and a list of entries makes a
registry only if no denomination occurs in it twice.
-/

set_option autoImplicit false

namespace Interchain

/-- The registered denominations. -/
structure Registry where
  entries : FiniteMap String Entry
deriving DecidableEq

namespace Registry

instance : EmptyCollection Registry := ⟨⟨∅⟩⟩

/-- The entry of a denomination, if it is registered. -/
def find? (r : Registry) (denom : String) : Option Entry :=
  r.entries.get? denom

/-- The entry of a denomination; the empty one if it is not registered. -/
def entry (r : Registry) (denom : String) : Entry :=
  (r.find? denom).getD {}

/-- Adds the entry or, under the same denomination, replaces it. -/
def put (e : Entry) : Attempt RegistryError Registry Unit := do
  MonadExcept.ofExcept e.validate
  modify fun r => ⟨r.entries.insert e.denom e⟩

/-- The registry that an entry was put into. -/
def set (r : Registry) (e : Entry) : Except RegistryError Registry :=
  (put e).outcome r

/-- The registry without a denomination. -/
def remove (r : Registry) (denom : String) : Registry :=
  ⟨r.entries.erase denom⟩

/-- The registry with a new entry. -/
def add (r : Registry) (e : Entry) : Except RegistryError Registry := do
  e.validate
  if r.entries.contains e.denom then
    throw (.duplicate e.denom)
  return ⟨r.entries.insert e.denom e⟩

/-- The registry of a list of entries. The first entry that is refused decides the error. -/
def ofEntries (es : List Entry) : Except RegistryError Registry :=
  es.foldlM add ∅

end Registry

end Interchain
