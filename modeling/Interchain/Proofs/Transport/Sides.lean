import Interchain.Proofs.Transport.Refunds

/-!
# The two sides of a channel

The keeper that sends a packet and the keeper that credits it put the same question to the same
path: does it start with the port and the channel that the packet leaves from? On the sending side
this decides between escrow and burning (`ChannelKeeper.fate_of_departure`), on the receiving side
between minting and release from escrow (`ChannelKeeper.fate_of_arrival`). So what is put away on
one side is minted on the other, and what is burned on one side is let go on the other
(`ChannelKeeper.sides_agree`).
-/

set_option autoImplicit false

namespace Interchain

namespace ChannelKeeper

/-! ## What becomes of a coin -/

section Fates

variable {β : Type} [Ledger β]

/-- Whether a coin went from its sender into the escrow account of a channel end. -/
def Escrowed (source : Hop) (sender : Address) (coin : Coin) (b c : β) : Prop :=
  Journal.post b [.pay sender (.escrow source.port source.channel) coin] = .ok c

/-- Whether a coin was taken from its sender and burned. -/
def Burned (sender : Address) (coin : Coin) (b c : β) : Prop :=
  Journal.post b [.pay sender custodian coin, .burn transferModule coin] = .ok c

/-- Whether a coin was minted and given to its receiver. -/
def Minted (receiver : Address) (coin : Coin) (b c : β) : Prop :=
  Journal.post b [.mint transferModule coin, .pay custodian receiver coin] = .ok c

/-- Whether a coin went from the escrow account of a channel end to its receiver. -/
def Released (destination : Hop) (receiver : Address) (coin : Coin) (b c : β) : Prop :=
  Journal.post b [.pay (.escrow destination.port destination.channel) receiver coin] = .ok c

variable [LawfulLedger β] {b c : β} {coin : Coin}

/-- What burns a coin takes it out of the supply, so it is no payment. -/
theorem not_burned_of_escrowed {source : Hop} {sender payer : Address} (hcoin : coin.amount ≠ 0)
    (h : Escrowed source sender coin b c) : ¬ Burned payer coin b c := by
  intro hburned
  have hpositive := Nat.pos_of_ne_zero hcoin
  have hkept := Journal.supply_post h coin.denom
  have hlost := Journal.supply_post hburned coin.denom
  simp only [Journal.issue, Posting.issue, Coin.worth_self] at hkept hlost
  omega

/-- What mints a coin puts it into the supply, so it is no payment. -/
theorem not_released_of_minted {destination : Hop} {receiver payee : Address}
    (hcoin : coin.amount ≠ 0) (h : Minted receiver coin b c) :
    ¬ Released destination payee coin b c := by
  intro hreleased
  have hpositive := Nat.pos_of_ne_zero hcoin
  have hgained := Journal.supply_post h coin.denom
  have hkept := Journal.supply_post hreleased coin.denom
  simp only [Journal.issue, Posting.issue, Coin.worth_self] at hgained hkept
  omega

/-- **A token that leaves goes into escrow if the keeper takes it for one of this side, and is
burned if not.** -/
theorem fate_of_departure {source : Hop} {path : String} {sender : Address}
    (hcoin : coin.amount ≠ 0) (h : Journal.post b (departure source path sender coin) = .ok c) :
    (Escrowed source sender coin b c ↔ receiverIsSource source path = false) ∧
      (Burned sender coin b c ↔ receiverIsSource source path = true) := by
  cases hside : receiverIsSource source path with
  | true =>
      rw [departure, senderIsSource, hside] at h
      have hburned : Burned sender coin b c := h
      have hno : ¬ Escrowed source sender coin b c := fun hescrowed =>
        not_burned_of_escrowed hcoin hescrowed hburned
      simp [hburned, hno]
  | false =>
      rw [departure, senderIsSource, hside] at h
      have hescrowed : Escrowed source sender coin b c := h
      have hno : ¬ Burned sender coin b c := not_burned_of_escrowed hcoin hescrowed
      simp [hescrowed, hno]

/-- **A token that arrives is minted if the keeper takes it for one of the other side, and released
from escrow if not.** -/
theorem fate_of_arrival {packet : Packet} {path : String} {receiver : Address}
    (hcoin : coin.amount ≠ 0) (h : Journal.post b (arrival packet path receiver coin) = .ok c) :
    (Minted receiver coin b c ↔ receiverIsSource packet.source path = false) ∧
      (Released packet.destination receiver coin b c ↔
        receiverIsSource packet.source path = true) := by
  cases hside : receiverIsSource packet.source path with
  | true =>
      rw [arrival, hside] at h
      have hreleased : Released packet.destination receiver coin b c := h
      have hno : ¬ Minted receiver coin b c := fun hminted =>
        not_released_of_minted hcoin hminted hreleased
      simp [hreleased, hno]
  | false =>
      rw [arrival, hside] at h
      have hminted : Minted receiver coin b c := h
      have hno : ¬ Released packet.destination receiver coin b c :=
        not_released_of_minted hcoin hminted
      simp [hminted, hno]

end Fates

/-! ## Both ends of a packet -/

/-- What two keepers do with the token of a packet, the one that sent `token` under `path` and the
one that credited it as `coin`. The ledger of the one goes from `b` to `b'`, that of the other from
`c` to `c'`. -/
structure Mirrored {β γ : Type} [Ledger β] [Ledger γ] (packet : Packet) (path : String)
    (sender receiver : Address) (token coin : Coin) (b b' : β) (c c' : γ) : Prop where
  minted : Escrowed packet.source sender token b b' ↔ Minted receiver coin c c'
  released : Burned sender token b b' ↔ Released packet.destination receiver coin c c'
  /-- One of the two happens, and the front of the path tells which. -/
  escrowed : Escrowed packet.source sender token b b' ↔
    path.startsWith (packet.sourcePort.text ++ "/" ++ packet.sourceChannel.text ++ "/") = false
  burned : Burned sender token b b' ↔
    path.startsWith (packet.sourcePort.text ++ "/" ++ packet.sourceChannel.text ++ "/") = true

/-- Where a token departs under the path that a packet carries and arrives with this packet, the two
sides mirror each other. -/
theorem mirrored_of_posts {β γ : Type} [Ledger β] [LawfulLedger β] [Ledger γ] [LawfulLedger γ]
    {packet : Packet} {path : String} {sender receiver : Address} {token coin : Coin} {b b' : β}
    {c c' : γ} (htoken : token.amount ≠ 0) (hcoin : coin.amount ≠ 0)
    (hdeparture : Journal.post b (departure packet.source path sender token) = .ok b')
    (harrival : Journal.post c (arrival packet path receiver coin) = .ok c') :
    Mirrored packet path sender receiver token coin b b' c c' := by
  obtain ⟨hescrowed, hburned⟩ := fate_of_departure htoken hdeparture
  obtain ⟨hminted, hreleased⟩ := fate_of_arrival hcoin harrival
  have hfront := receiverIsSource_eq_startsWith packet.source path
  exact {
    minted := hescrowed.trans hminted.symm
    released := hburned.trans hreleased.symm
    escrowed := by rw [hescrowed, hfront, Packet.source]
    burned := by rw [hburned, hfront, Packet.source] }

/-- **Whether a token comes home is told by the text in front of its path**, a port and a channel
with a slash behind each, and the trace without the hop spells the path without that text. Hence the
keepers at the two ends of a channel agree: whenever a message is sent, a packet is committed for
it, and any keeper that credits this packet mints exactly if the token went into escrow and releases
exactly if it was burned. -/
theorem sides_agree :
    (∀ (port : Port) (channel : Channel) (path : String),
        receiverIsSource ⟨port, channel⟩ path =
          path.startsWith (port.text ++ "/" ++ channel.text ++ "/")) ∧
      (∀ (port : Port) (channel : Channel) (path : String),
        receiverIsSource ⟨port, channel⟩ path = true →
          path = port.text ++ "/" ++ channel.text ++ "/" ++
            ((Trace.parse path).removeHop ⟨port, channel⟩).fullPath) ∧
      ∀ {β : Type} [Ledger β] [LawfulLedger β] {s t : Stage ChannelKeeper β}
        {message : TransferMessage} {response : TransferResponse},
        send message s = .ok response t →
          ∃ sender packet data, Address.parse message.sender = .ok sender ∧
            t.keeper.commitments.get? ⟨message.sourceChannel, response.sequence⟩ = some packet ∧
            packet.decodeData = .ok data ∧
            ∀ {γ : Type} [Ledger γ] [LawfulLedger γ] {u v : Stage ChannelKeeper γ} {coin : Coin},
              receive packet data u = .ok coin v →
                ∃ receiver, Address.parse data.receiver = .ok receiver ∧
                  Mirrored packet data.denom sender receiver message.token coin
                    s.ledger t.ledger u.ledger v.ledger := by
  refine ⟨?_, ?_, ?_⟩
  · intro port channel path
    exact receiverIsSource_eq_startsWith _ path
  · intro port channel path h
    rw [← Hop.extend_eq ⟨port, channel⟩]
    exact eq_extend_of_receiverIsSource h
  · intro β _ _ s t message response hsend
    obtain ⟨remote, sender, path, hadmits, b, hdeparture, rfl, rfl⟩ := send_eq_ok_iff.1 hsend
    refine ⟨sender, s.keeper.outgoing message remote path, dataOf message path, hadmits.sender, ?_,
      decodeData_outgoing _ _ _ _, ?_⟩
    · exact (FiniteMap.get?_insert _ _ _ _).trans (if_pos rfl)
    · intro γ _ _ u v coin hreceive
      obtain ⟨-, hpositive, receiver, hreceiver, -, hamount, c, harrival, rfl⟩ :=
        receive_eq_ok_iff.1 hreceive
      have hcoin : coin.amount ≠ 0 := by
        rw [hamount]
        exact hpositive
      exact ⟨receiver, hreceiver, mirrored_of_posts hadmits.amount hcoin hdeparture harrival⟩

/-- Copper is from this side, so it goes into escrow and is minted on the other. -/
theorem sides_agree_sample :
    ∃ t packet data coin v,
      send (Sample.remittance Sample.copper) (Sample.purse Sample.copper) = .ok ⟨1⟩ t ∧
        t.keeper.commitments.get? ⟨Sample.channel, 1⟩ = some packet ∧
        packet.decodeData = .ok data ∧
        receive packet data (Sample.purse Sample.copper) = .ok coin v ∧
        Escrowed packet.source (Sample.user 1) ⟨Sample.copper, 7⟩
          (Sample.purse Sample.copper).ledger t.ledger ∧
        Minted (Sample.user 2) coin (Sample.purse Sample.copper).ledger v.ledger := by
  let s := Sample.purse Sample.copper
  let message := Sample.remittance Sample.copper
  let sent := s.keeper.outgoing message ⟨.transfer, Sample.channel⟩ Sample.copper.text
  obtain ⟨response, t, hsend, hsent⟩ := Action.yields_iff.1
    (show Action.yields (send message) s (fun response t => decide (response = ⟨1⟩ ∧
      t.keeper.commitments.get? ⟨Sample.channel, 1⟩ = some sent)) = true by decide +kernel)
  obtain ⟨coin, v, hreceive, -⟩ := Action.yields_iff.1
    (show Action.yields (receive sent (dataOf message Sample.copper.text)) s (fun _ _ => true) =
      true by decide +kernel)
  obtain ⟨rfl, hcommitted⟩ := of_decide_eq_true hsent
  obtain ⟨-, -, hends⟩ := sides_agree
  obtain ⟨sender, packet, data, hsender, hpacket, hdata, hmirrored⟩ := hends hsend
  obtain rfl : packet = sent := Option.some.inj (hpacket.symm.trans hcommitted)
  obtain rfl : data = dataOf message Sample.copper.text :=
    Except.ok.inj (hdata.symm.trans (decodeData_outgoing _ _ _ _))
  obtain rfl : sender = Sample.user 1 :=
    Except.ok.inj (hsender.symm.trans (Address.parse_text (Sample.user 1)))
  obtain ⟨receiver, hreceiver, hsides⟩ := hmirrored hreceive
  obtain rfl : receiver = Sample.user 2 :=
    Except.ok.inj (hreceiver.symm.trans (Address.parse_text (Sample.user 2)))
  have hescrowed := hsides.escrowed.2 (by decide +kernel)
  exact ⟨t, sent, _, coin, v, hsend, hcommitted, hdata, hreceive, hescrowed,
    hsides.minted.1 hescrowed⟩

end ChannelKeeper

end Interchain
