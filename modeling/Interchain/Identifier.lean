import Interchain.Text.Validated
import Interchain.FormatError
import Interchain.Numeral

/-!
# Ports, channels and timeout heights

A port names a module of a chain and a channel names one of its connections to another chain.
Both are short texts over letters, digits and a few signs; a channel is further the fixed word
`channel-` with a number. Lengths are counted in UTF-8 bytes.
-/

set_option autoImplicit false

namespace Interchain

/-- The characters of identifiers. -/
def isIdentifierChar (c : Char) : Bool :=
  c.isAlphanum || "._+-#[]<>".toList.contains c

/-- Between `least` and `most` bytes, all of them characters of identifiers. -/
def isIdentifier (least most : Nat) (s : String) : Bool :=
  least ≤ s.length && s.length ≤ most && s.toList.all isIdentifierChar

/-- The fault of a text that is no identifier or, if it is one, no channel. -/
def IdentifierFault.find (least most : Nat) (s : String) : IdentifierFault :=
  if s.utf8ByteSize < least || most < s.utf8ByteSize then .length s least most
  else if !s.toList.all isIdentifierChar then .characters s
  else .unnumbered s

/-- A port identifier has 2 to 128 bytes. -/
abbrev Port := Validated (isIdentifier 2 128)

namespace Port

def parse (s : String) : Except FormatError Port :=
  match Validated.ofString? s with
  | some p => .ok p
  | none => .error (.identifier (.find 2 128 s))

@[simp]
theorem parse_text (p : Port) : parse p.text = .ok p := by
  simp [parse]

/-- The port of the transfer module. -/
def transfer : Port :=
  ⟨"transfer", by decide⟩

end Port

namespace Channel

/-- The word that every channel identifier starts with. -/
def word : List Char :=
  "channel-".toList

/-- Whether the fixed word and a numeral follow each other. -/
def isNumbered (s : String) : Bool :=
  s.toList.take word.length == word && Numeral.isNumeral (s.toList.drop word.length)

/-- The rule for channel identifiers. -/
def rule (s : String) : Bool :=
  isIdentifier 8 64 s && isNumbered s

end Channel

/-- A channel identifier has 8 to 64 bytes and ends with a number. -/
abbrev Channel := Validated Channel.rule

namespace Channel

def parse (s : String) : Except FormatError Channel :=
  match Validated.ofString? s with
  | some c => .ok c
  | none => .error (.identifier (.find 8 64 s))

@[simp]
theorem parse_text (c : Channel) : parse c.text = .ok c := by
  simp [parse]

theorem rule_ofNat (n : UInt64) :
    rule (String.ofList (word ++ Nat.toDigits 10 n.toNat)) = true := by
  have hlen : (Nat.toDigits 10 n.toNat).length ≤ 20 := by
    rw [Nat.length_toDigits_le_iff (by decide) (by decide)]
    have := n.toNat_lt
    omega
  have hdigits : ∀ c ∈ Nat.toDigits 10 n.toNat, c.isDigit = true := fun c hc =>
    Nat.isDigit_of_mem_toDigits (by decide) (by decide) hc
  have hword : word.length = 8 := by decide
  have hall : word.all isIdentifierChar = true := by decide
  have hnum : (Nat.toDigits 10 n.toNat).all isIdentifierChar = true := by
    rw [List.all_eq_true]
    intro c hc
    simp [isIdentifierChar, Char.isAlphanum, hdigits c hc]
  simp only [rule, isIdentifier, isNumbered, String.toList_ofList, String.length_ofList,
    List.length_append, List.all_append, hword, hall, hnum, Bool.and_true, Bool.and_eq_true,
    decide_eq_true_eq]
  refine ⟨⟨by omega, by omega⟩, ?_, ?_⟩
  · rw [← hword, List.take_left]
    simp
  · rw [← hword, List.drop_left]
    exact Numeral.isNumeral_toDigits _

/-- The channel with the number `n`. -/
def ofNat (n : UInt64) : Channel :=
  ⟨String.ofList (word ++ Nat.toDigits 10 n.toNat), rule_ofNat n⟩

end Channel

/-- A height of the remote chain after which a packet times out; zero in both parts is none. -/
structure TimeoutHeight where
  revisionNumber : UInt64
  revisionHeight : UInt64
deriving DecidableEq

namespace TimeoutHeight

/-- No timeout by height. -/
def zero : TimeoutHeight :=
  ⟨0, 0⟩

def isZero (h : TimeoutHeight) : Bool :=
  h.revisionNumber == 0 && h.revisionHeight == 0

instance : ToString TimeoutHeight where
  toString h := toString h.revisionNumber.toNat ++ "-" ++ toString h.revisionHeight.toNat

end TimeoutHeight

end Interchain
