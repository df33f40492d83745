import Interchain.Registry.Basic
import Interchain.Transfer.Action

/-!
# Sample values

Users, a channel and a registry to try the module with. `rowan`, with eighteen decimals, is
converted into `xrowan`, with ten, before it is sent.
-/

set_option autoImplicit false

namespace Interchain.Sample

/-- The text of the address of the sample user with number `n`. -/
def userText (n : UInt8) : String :=
  String.ofList (Address.start ++ "user".toList ++ Nat.toDigits 10 n.toNat)

theorem rule_userText (n : UInt8) : Address.rule (userText n) = true := by
  have hlen : (Nat.toDigits 10 n.toNat).length ≤ 3 := by
    rw [Nat.length_toDigits_le_iff (by decide) (by decide)]
    have := n.toNat_lt
    omega
  have hall : (Nat.toDigits 10 n.toNat).all Address.isAddressChar = true := by
    rw [List.all_eq_true]
    intro c hc
    simp [Address.isAddressChar,
      Nat.isDigit_of_mem_toDigits (b := 10) (by decide) (by decide) hc]
  have hstart : Address.start = ['m', 'r', 'd', '1'] := by decide
  simp only [Address.rule, userText, hstart, String.length_ofList, String.toList_ofList,
    List.length_append]
  simp [Address.isAddressChar, hall]
  omega

/-- The sample user with number `n`. -/
def user (n : UInt8) : Address :=
  ⟨userText n, rule_userText n⟩

def channel : Channel :=
  .ofNat 0

/-- The account that keeps what was converted. -/
def custodian : Address :=
  .ofModule transferModule

/-- The entries of `rowan` and `xrowan`. -/
def entries : List Entry :=
  [{ denom := "rowan"
     baseDenom := "rowan"
     decimals := 18
     counterparty := "xrowan"
     displayName := "ROWAN"
     permissions := [.clp, .ibcExport, .ibcImport] },
   { denom := "xrowan"
     baseDenom := "xrowan"
     decimals := 10
     unit := "rowan"
     permissions := [.ibcExport, .ibcImport] }]

/-- The registry of `rowan` and `xrowan`. -/
def registry : Registry :=
  ⟨entries.foldl (fun m e => m.insert e.denom e) ∅⟩

theorem ofEntries_entries : Registry.ofEntries entries = .ok registry :=
  rfl

end Interchain.Sample
