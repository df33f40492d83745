import Interchain.Proofs.Trace
import Mathlib.Data.List.Basic

/-!
# Accounts that nobody has a key for

The address of a module and that of a channel's escrow account are cut from the hash of what they
stand for. What is hashed tells apart all that it stands for: it starts with another tag for modules
than for escrow accounts, and no slash is in a port, so port and channel are read off in one way
(`Address.Origin.seed_inj`). An address shows its part of the digest whole
(`Address.derive_inj`). So two of these accounts are one account only if the hash, cut off after
twenty bytes, is the same for two different inputs. `Address.origins_kept_apart` collects this.
-/

set_option autoImplicit false

namespace Interchain

/-! ## Hexadecimal text -/

namespace Text.Hex

/-- The digits of a byte tell it. -/
theorem pair_inj {a b : UInt8} : pair a = pair b ↔ a = b := by
  have hdigit : ∀ m < 16, ∀ n < 16, Nat.digitChar m = Nat.digitChar n → m = n := by decide
  constructor
  · intro h
    have ha : a.toNat < 256 := a.toNat_lt
    have hb : b.toNat < 256 := b.toNat_lt
    obtain ⟨hhigh, htail⟩ := List.cons.inj h
    obtain ⟨hlow, -⟩ := List.cons.inj htail
    have hhigh := hdigit _ (by omega) _ (by omega) hhigh
    have hlow := hdigit _ (by omega) _ (by omega) hlow
    apply UInt8.toNat_inj.1
    omega
  · rintro rfl
    rfl

/-- Bytes are read off their hexadecimal text. -/
theorem lower_inj {as bs : List UInt8} : lower as = lower bs ↔ as = bs := by
  constructor
  · intro h
    induction as generalizing bs with
    | nil =>
        have hlength := congrArg List.length h
        rw [length_lower, length_lower, List.length_nil] at hlength
        exact (List.length_eq_zero_iff.1 (by omega)).symm
    | cons a as ih =>
        cases bs with
        | nil =>
            have hlength := congrArg List.length h
            rw [length_lower, length_lower, List.length_nil, List.length_cons] at hlength
            omega
        | cons b bs =>
            have hparts : pair a ++ lower as = pair b ++ lower bs := h
            obtain ⟨hhead, htail⟩ := List.append_inj hparts rfl
            rw [pair_inj.1 hhead, ih htail]
  · rintro rfl
    rfl

end Text.Hex

namespace Address

/-! ## What is hashed -/

/-- The bytes of a digest that an address shows. -/
def shown (seed : List UInt8) : List UInt8 :=
  (Sha256.digest seed).take digestBytes

/-- **An address is told by the bytes that it shows.** -/
theorem derive_inj {s t : List UInt8} : derive s = derive t ↔ shown s = shown t := by
  have htext : ∀ seed, (derive seed).text = String.ofList (start ++ Text.Hex.lower (shown seed)) :=
    fun _ => rfl
  rw [Validated.ext_iff, htext, htext, String.ofList_inj, List.append_cancel_left_eq,
    Text.Hex.lower_inj]

/-- Every derived text is an address. -/
theorem parse_derivedText (seed : List UInt8) : parse (derivedText seed) = .ok (derive seed) :=
  parse_text (derive seed)

theorem moduleSeed_inj {m n : String} : moduleSeed m = moduleSeed n ↔ m = n := by
  rw [moduleSeed, moduleSeed, List.append_cancel_left_eq, Text.bytes_inj]

/-- What is hashed for an escrow account: a tag, a zero byte and the hop. -/
theorem escrowSeed_eq (port : Port) (channel : Channel) : escrowSeed port channel =
    Text.bytes "ics20-1" ++ 0 :: Text.bytes (port.text ++ "/" ++ channel.text) := by
  simp only [escrowSeed, Text.bytes_append, List.append_assoc, List.cons_append]

/-- **Port and channel are told by what is hashed**, since the slash between them is in neither. -/
theorem escrowSeed_inj {p q : Port} {c d : Channel} :
    escrowSeed p c = escrowSeed q d ↔ p = q ∧ c = d := by
  constructor
  · intro h
    rw [escrowSeed_eq, escrowSeed_eq, List.append_cancel_left_eq, List.cons.injEq,
      Text.bytes_inj] at h
    have htexts : p.text.toList ++ '/' :: c.text.toList =
        q.text.toList ++ '/' :: d.text.toList := by
      simpa using congrArg String.toList h.2
    obtain ⟨hport, -, hchannel⟩ := (List.append_cons_inj_of_notMem (slash_notMem_port p)
      (slash_notMem_channel c)).1 htexts
    exact ⟨Validated.ext (String.toList_inj.1 hport), Validated.ext (String.toList_inj.1 hchannel)⟩
  · rintro ⟨rfl, rfl⟩
    rfl

/-- The tags differ in their first byte. -/
theorem moduleSeed_ne_escrowSeed (name : String) (port : Port) (channel : Channel) :
    moduleSeed name ≠ escrowSeed port channel := by
  intro h
  have hhead := congrArg List.head? h
  rw [moduleSeed, escrowSeed_eq] at hhead
  have hmodule : Text.bytes "module" = [109, 111, 100, 117, 108, 101] := by decide
  have hescrow : Text.bytes "ics20-1" = [105, 99, 115, 50, 48, 45, 49] := by decide
  rw [hmodule, hescrow] at hhead
  exact absurd hhead (by simp)

/-! ## Owners of derived accounts -/

/-- What a derived account stands for. -/
inductive Origin where
  | ofModule (name : String)
  | ofChannel (port : Port) (channel : Channel)

namespace Origin

/-- What is hashed. -/
def seed : Origin → List UInt8
  | ofModule name => moduleSeed name
  | ofChannel port channel => escrowSeed port channel

def address : Origin → Address
  | ofModule name => Address.ofModule name
  | ofChannel port channel => escrow port channel

theorem address_eq (x : Origin) : x.address = derive x.seed := by
  cases x with
  | ofModule name => rfl
  | ofChannel port channel => rfl

/-- **What is hashed tells what it stands for.** -/
theorem seed_inj {x y : Origin} : x.seed = y.seed ↔ x = y := by
  constructor
  · intro h
    cases x with
    | ofModule name =>
        cases y with
        | ofModule name' => rw [moduleSeed_inj.1 h]
        | ofChannel port channel => exact absurd h (moduleSeed_ne_escrowSeed name port channel)
    | ofChannel port channel =>
        cases y with
        | ofModule name => exact absurd h.symm (moduleSeed_ne_escrowSeed name port channel)
        | ofChannel port' channel' =>
            obtain ⟨rfl, rfl⟩ := escrowSeed_inj.1 h
            rfl
  · rintro rfl
    rfl

end Origin

/-- Whether the hash, as far as addresses show it, is the same for two different inputs. -/
structure Collide (s t : List UInt8) : Prop where
  distinct : s ≠ t
  same : (Sha256.digest s).take 20 = (Sha256.digest t).take 20

/-- **Derived accounts are kept apart by what is hashed.** It is the same for two escrow accounts
only if ports and channels are, never the same for a module and an escrow account, and the same for
two modules only if they have one name. Every derived text is read as an address. So two derived
accounts are one account exactly if they stand for the same, or the hash that addresses show
collides on what they stand for. -/
theorem origins_kept_apart :
    (∀ p q c d, escrowSeed p c = escrowSeed q d ↔ p = q ∧ c = d) ∧
      (∀ name p c, moduleSeed name ≠ escrowSeed p c) ∧
      (∀ m n, moduleSeed m = moduleSeed n ↔ m = n) ∧
      (∀ seed, parse (derivedText seed) = .ok (derive seed)) ∧
      ∀ x y : Origin, x.address = y.address ↔ x = y ∨ Collide x.seed y.seed := by
  refine ⟨fun _ _ _ _ => escrowSeed_inj, moduleSeed_ne_escrowSeed, fun _ _ => moduleSeed_inj,
    parse_derivedText, fun x y => ?_⟩
  rw [Origin.address_eq, Origin.address_eq, derive_inj]
  constructor
  · intro hshown
    by_cases hxy : x = y
    · exact .inl hxy
    · exact .inr ⟨mt Origin.seed_inj.1 hxy, hshown⟩
  · rintro (rfl | hcollide)
    · rfl
    · exact hcollide.same

end Address

end Interchain
