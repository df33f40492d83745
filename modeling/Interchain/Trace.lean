import Interchain.Denom
import Interchain.Identifier
import Interchain.Sha256
import Interchain.Text.Bytes
import Interchain.Text.Hex

/-!
# Denomination traces

A token that has crossed channels carries its way in front of its denomination:
`transfer/channel-0/uatom` is `uatom` that came in over channel 0. A trace is the hops of that
way, the last one first, and the denomination at its origin. Reading takes hops off the front of
a path as long as something is left behind them.
-/

set_option autoImplicit false

namespace Interchain

/-- One end of a channel that a token came in over. -/
structure Hop where
  port : Port
  channel : Channel
deriving DecidableEq

/-- The port and the channel with a slash between them. -/
def Hop.toChars (h : Hop) : List Char :=
  h.port.text.toList ++ '/' :: h.channel.text.toList

instance : ToString Hop where
  toString h := String.ofList h.toChars

/-- The way of a token and its denomination at the origin. -/
structure Trace where
  hops : List Hop
  base : String
deriving DecidableEq

namespace Trace

/-- The hops at the front of the segments of a path, and the segments behind them. At least one
segment stays behind. -/
def takeHops : List (List Char) → List Hop × List (List Char)
  | p :: c :: s :: rest =>
      match Port.parse (String.ofList p), Channel.parse (String.ofList c) with
      | .ok port, .ok channel =>
          let (hops, base) := takeHops (s :: rest)
          (⟨port, channel⟩ :: hops, base)
      | _, _ => ([], p :: c :: s :: rest)
  | segments => ([], segments)

/-- The trace that a full path spells. -/
def parse (path : String) : Trace :=
  let (hops, base) := takeHops (path.toList.splitOn '/')
  ⟨hops, String.ofList (['/'].intercalate base)⟩

/-- Whether the token is from this chain. -/
def isNative (t : Trace) : Bool :=
  t.hops.isEmpty

/-- The hops and the base with slashes between them. -/
def fullPath (t : Trace) : String :=
  String.ofList (['/'].intercalate (t.hops.map Hop.toChars ++ [t.base.toList]))

instance : ToString Trace := ⟨fullPath⟩

/-- The text of the voucher denomination for a full path. -/
def voucherText (path : String) : String :=
  String.ofList (Denom.voucherStart ++ Text.Hex.upper (Sha256.digest (Text.bytes path)))

theorem rule_voucherText (path : String) : Denom.rule (voucherText path) = true := by
  have hlen : (Text.Hex.upper (Sha256.digest (Text.bytes path))).length = 64 := by simp
  have hall := Text.Hex.upper_all (p := Denom.isDenomChar) (by decide)
    (Sha256.digest (Text.bytes path))
  have hstart : Denom.voucherStart = ['i', 'b', 'c', '/'] := by decide
  have hchars : Denom.isDenomChar 'b' = true ∧ Denom.isDenomChar 'c' = true ∧
      Denom.isDenomChar '/' = true := by decide
  simp only [Denom.rule, voucherText, hstart, String.length_ofList, String.toList_ofList,
    List.length_append, hlen]
  simp [hchars, hall]

/-- The voucher denomination for a full path. -/
def voucher (path : String) : Denom :=
  ⟨voucherText path, rule_voucherText path⟩

/-- The denomination that this chain holds the token under. -/
def localDenom (t : Trace) : Except FormatError Denom :=
  if t.isNative then Denom.parse t.base else .ok (voucher t.fullPath)

/-- Whether the token came in over `hop` last. -/
def startsWith (t : Trace) (hop : Hop) : Bool :=
  t.hops.head? == some hop

/-- The trace after one more hop. -/
def addHop (t : Trace) (hop : Hop) : Trace :=
  { t with hops := hop :: t.hops }

/-- The trace before the hop, if that was the last one. -/
def removeHop (t : Trace) (hop : Hop) : Trace :=
  if t.startsWith hop then { t with hops := t.hops.tail } else t

end Trace

/-- Whether a token that arrives over the source end `hop` under the path `path` is coming
home. -/
def receiverIsSource (hop : Hop) (path : String) : Bool :=
  (Trace.parse path).startsWith hop

/-- Whether a token that leaves over `hop` under the path `path` did not come in over it. -/
def senderIsSource (hop : Hop) (path : String) : Bool :=
  !receiverIsSource hop path

end Interchain
