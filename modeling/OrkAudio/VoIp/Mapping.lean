import OrkAudio.Lib.Steps
import OrkAudio.VoIp.Recording

/-! Deterministic channels: the streams of the two parties of a call, and the channel numbers of
their audio.

The sides are numbered as they come, and exchanged once both are known. Audio that goes out
before has the number of the stream that came first. -/

namespace OrkAudio.VoIp

open Lib

inductive Party
  | localParty | remoteParty
  deriving DecidableEq

def Party.other : Party → Party
  | localParty => remoteParty
  | remoteParty => localParty

structure Stream where
  ssrc : UInt32
  sourceIp : InAddr
  destIp : InAddr

def Stream.Has (stream : Stream) (rtpPacket : RtpPacketInfo) : Prop :=
  rtpPacket.ssrc = stream.ssrc ∧ rtpPacket.sourceIp = stream.sourceIp ∧
    rtpPacket.destIp = stream.destIp

/-- A call with deterministic sides: the remote party is behind a media gateway where there are
any, and else the local one has the session's local address. -/
structure Call (cfg : Config) where
  localIp : InAddr
  stream : Party → Stream
  deterministic : cfg.rtpS1S2MappingDeterministic = true
  distinct : ¬ ((stream .localParty).ssrc = (stream .remoteParty).ssrc ∧
    (stream .localParty).destIp = (stream .remoteParty).destIp)
  gateways : cfg.mediaGateways.isEmpty = false →
    cfg.isMediaGateway (stream .localParty).sourceIp = false ∧
      cfg.isMediaGateway (stream .remoteParty).sourceIp = true
  addresses : cfg.mediaGateways.isEmpty = true →
    (stream .localParty).sourceIp = localIp ∧ (stream .remoteParty).sourceIp ≠ localIp

/-- The channel that the configuration gives a party. -/
def channelOf (cfg : Config) : Party → Nat
  | .localParty => if cfg.rtpS1S2MappingDeterministicS1IsLocal then 1 else 2
  | .remoteParty => if cfg.rtpS1S2MappingDeterministicS1IsLocal then 2 else 1

/-- A packet of a party with the audio that is handed out for it. -/
structure Heard where
  party : Party
  rtpPacket : RtpPacketInfo
  chunks : List Output

section

variable {cfg : Config} {env : Env}

/-! ### Channels of parties -/

theorem channelOf_cases (cfg : Config) (party : Party) :
    channelOf cfg party = 1 ∧ channelOf cfg party.other = 2 ∨
      channelOf cfg party = 2 ∧ channelOf cfg party.other = 1 := by
  cases party <;> cases hlocal : cfg.rtpS1S2MappingDeterministicS1IsLocal <;>
    simp [channelOf, Party.other, hlocal]

theorem Party.other_other (party : Party) : party.other.other = party := by
  cases party <;> rfl

theorem Party.eq_or_other (party other : Party) : party = other ∨ party = other.other := by
  cases party <;> cases other <;> simp [Party.other]

namespace Call

variable (call : Call cfg)

theorem same {party : Party} {last rtpPacket : RtpPacketInfo}
    (hlast : (call.stream party).Has last) (hpacket : (call.stream party).Has rtpPacket) :
    isSameStream last rtpPacket = true := by
  rw [isSameStream, hpacket.1, hlast.1, hlast.2.2, hpacket.2.2]
  simp

theorem differs {party : Party} {last rtpPacket : RtpPacketInfo}
    (hlast : (call.stream party).Has last) (hpacket : (call.stream party.other).Has rtpPacket) :
    isSameStream last rtpPacket = false := by
  apply eq_false_of_ne_true
  intro hsame
  rw [isSameStream, hpacket.1, hlast.1, hlast.2.2, hpacket.2.2, Bool.and_eq_true,
    decide_eq_true_eq, decide_eq_true_eq] at hsame
  apply call.distinct
  cases party with
  | localParty => exact ⟨hsame.1.symm, hsame.2⟩
  | remoteParty => exact ⟨hsame.1, hsame.2.symm⟩

theorem eq_of_same {party other : Party} {last rtpPacket : RtpPacketInfo}
    (hlast : (call.stream other).Has last) (hpacket : (call.stream party).Has rtpPacket)
    (hsame : isSameStream last rtpPacket = true) : party = other := by
  rcases party.eq_or_other other with heq | heq
  · exact heq
  · rw [heq] at hpacket
    rw [call.differs hlast hpacket] at hsame
    cases hsame

theorem other_of_differs {party other : Party} {last rtpPacket : RtpPacketInfo}
    (hlast : (call.stream other).Has last) (hpacket : (call.stream party).Has rtpPacket)
    (hdiffers : isSameStream last rtpPacket = false) : party = other.other := by
  rcases party.eq_or_other other with heq | heq
  · rw [heq] at hpacket
    rw [call.same hlast hpacket] at hdiffers
    cases hdiffers
  · exact heq

/-- The sides are exchanged where side 1 is of the party for the second channel. -/
theorem shouldSwapChannels_eq {party : Party} {side1 side2 : RtpPacketInfo} {s : SessionData}
    (hside1 : (call.stream party).Has side1) (hside2 : (call.stream party.other).Has side2)
    (hlocalIp : s.localIp = call.localIp) :
    shouldSwapChannels cfg s side1 side2 = decide (channelOf cfg party = 2) := by
  rw [shouldSwapChannels, hside1.2.1, hside2.2.1, hlocalIp]
  cases hempty : cfg.mediaGateways.isEmpty with
  | false =>
      obtain ⟨hlocal, hremote⟩ := call.gateways hempty
      cases party <;> cases hs1 : cfg.rtpS1S2MappingDeterministicS1IsLocal <;>
        simp [channelOf, Party.other, hlocal, hremote, hs1]
  | true =>
      obtain ⟨hlocal, hremote⟩ := call.addresses hempty
      cases party <;> cases hs1 : cfg.rtpS1S2MappingDeterministicS1IsLocal <;>
        simp [channelOf, Party.other, hlocal, hremote, hs1]

end Call

/-! ### Sides -/

/-- The streams that the two sides are of. Once the sides are mapped, side 1 is of the party for
the first channel. -/
inductive Sided (call : Call cfg) (t : Streams) : Prop
  | none : t.side1 = none → t.side2 = none → t.mapped = false → Sided call t
  | one (party : Party) {last : RtpPacketInfo} : t.side1 = some last →
      (call.stream party).Has last → t.side2 = none → t.mapped = false → Sided call t
  | both (party : Party) {last1 last2 : RtpPacketInfo} : t.side1 = some last1 →
      (call.stream party).Has last1 → t.side2 = some last2 → (call.stream party.other).Has last2 →
      (t.mapped = true → channelOf cfg party = 1) → Sided call t

namespace Sided

variable {call : Call cfg} {t t' : Streams} {party : Party} {rtpPacket : RtpPacketInfo}

theorem of_sides (sided : Sided call t) (hside1 : t'.side1 = t.side1) (hside2 : t'.side2 = t.side2)
    (hmapped : t'.mapped = t.mapped) : Sided call t' := by
  cases sided with
  | none hnone1 hnone2 hnot =>
      exact .none (hside1.trans hnone1) (hside2.trans hnone2) (hmapped.trans hnot)
  | one party hlast hhas hnone2 hnot =>
      exact .one party (hside1.trans hlast) hhas (hside2.trans hnone2) (hmapped.trans hnot)
  | both party hlast1 hhas1 hlast2 hhas2 hchannel =>
      exact .both party (hside1.trans hlast1) hhas1 (hside2.trans hlast2) hhas2
        (fun h => hchannel (hmapped.symm.trans h))

theorem detected {channel : Nat × Bool} (sided : Sided call t)
    (hpacket : (call.stream party).Has rtpPacket) (detected : Detected t rtpPacket channel t') :
    Sided call t' := by
  cases detected with
  | first1 hside1 =>
      cases sided with
      | none hnone1 hnone2 hmapped => exact .one party rfl hpacket hnone2 hmapped
      | one other hlast => rw [hside1] at hlast; cases hlast
      | both other hlast => rw [hside1] at hlast; cases hlast
  | first2 hside1 hside2 hdiffers =>
      cases sided with
      | none hnone1 => rw [hside1] at hnone1; cases hnone1
      | one other hlast hhas hnone2 hmapped =>
          obtain rfl := Option.some.inj (hlast.symm.trans hside1)
          obtain rfl := call.other_of_differs hhas hpacket hdiffers
          refine .both other hside1 hhas rfl hpacket ?_
          intro h
          cases hmapped.symm.trans h
      | both other _ _ hlast2 => rw [hside2] at hlast2; cases hlast2
  | side1 => exact sided
  | side2 => exact sided
  | alien => exact sided

theorem not_alien (sided : Sided call t) (hpacket : (call.stream party).Has rtpPacket) :
    ¬ t.IsAlien rtpPacket := by
  intro ⟨side1, side2, hside1, hside2, hdiffers1, hdiffers2⟩
  cases sided with
  | none hnone1 => cases hnone1.symm.trans hside1
  | one other _ _ hnone2 => cases hnone2.symm.trans hside2
  | both other hlast1 hhas1 hlast2 hhas2 =>
      obtain rfl := Option.some.inj (hlast1.symm.trans hside1)
      obtain rfl := Option.some.inj (hlast2.symm.trans hside2)
      obtain rfl := call.other_of_differs hhas1 hpacket hdiffers1
      rw [call.same hhas2 hpacket] at hdiffers2
      cases hdiffers2

end Sided

/-! ### Mapping -/

theorem mapChannels_one {channel : Nat} {keys : SessionKeys} {c : Context}
    (hside2 : c.session.lastRtpPacketSide2 = none) : mapChannels cfg channel keys c = (channel, c) := by
  rw [mapChannels, session_bind, hside2]
  cases c.session.lastRtpPacketSide1 <;> rfl

/-- With both sides known a packet has the channel of its party, and the sides are mapped. -/
theorem mapChannels_both {call : Call cfg} {party : Party} {last1 last2 : RtpPacketInfo}
    {channel : Nat} {keys : SessionKeys} {c : Context}
    (hprotocol : c.session.protocol = .protSip ∨ c.session.protocol = .protSkinny)
    (hlocalIp : c.session.localIp = call.localIp)
    (hside1 : c.session.lastRtpPacketSide1 = some last1) (hhas1 : (call.stream party).Has last1)
    (hside2 : c.session.lastRtpPacketSide2 = some last2)
    (hhas2 : (call.stream party.other).Has last2)
    (hmapped : c.session.mappedS1S2 = true → channelOf cfg party = 1)
    (hchannel : channel = 1 ∨ channel = 2) :
    (mapChannels cfg channel keys c).1 =
        channelOf cfg (if channel = 1 then party else party.other) ∧
      Sided call (mapChannels cfg channel keys c).2.session.streams := by
  rw [mapChannels, session_bind, hside1, hside2]
  dsimp only
  rw [call.deterministic, Bool.true_and]
  cases hdone : c.session.mappedS1S2 with
  | true =>
      have hparty := hmapped hdone
      have hother : channelOf cfg party.other = 2 := by
        rcases channelOf_cases cfg party with h | h
        · exact h.2
        · rw [h.1] at hparty
          cases hparty
      rw [Bool.not_true, if_neg Bool.false_ne_true]
      refine ⟨?_, .both party hside1 hhas1 hside2 hhas2 fun _ => hparty⟩
      rcases hchannel with rfl | rfl
      · exact hparty.symm
      · exact hother.symm
  | false =>
      rw [Bool.not_false, if_pos rfl, update_bind]
      have hswap := call.shouldSwapChannels_eq hhas1 hhas2 hlocalIp
      rw [hswap]
      rcases channelOf_cases cfg party with ⟨hparty, hother⟩ | ⟨hparty, hother⟩
      · have hstays : ¬ ((c.session.protocol = .protSip ∨ c.session.protocol = .protSkinny) ∧
            decide (channelOf cfg party = 2) = true) := by
          rw [hparty]
          exact fun h => absurd h.2 (by decide)
        rw [if_neg hstays]
        refine ⟨?_, .both party hside1 hhas1 hside2 hhas2 fun _ => hparty⟩
        rcases hchannel with rfl | rfl
        · exact hparty.symm
        · exact hother.symm
      · rw [if_pos ⟨hprotocol, decide_eq_true hparty⟩]
        refine ⟨?_, .both party.other rfl hhas2 rfl ?_ fun _ => hother⟩
        · rcases hchannel with rfl | rfl
          · exact hparty.symm
          · exact hother.symm
        · rw [party.other_other]
          exact hhas1

/-! ### Packets of a call -/

/-- The second channel's packet that goes out while no other party is known: it is kept, follows
the stream of side 1, and the session records or starts with it. -/
structure TooEarly (call : Call cfg) (s : SessionData) (heard : Heard) : Prop where
  second : channelOf cfg heard.party = 2
  unknown : s.lastRtpPacketSide2 = none
  alone : ∀ last, s.lastRtpPacketSide1 = some last → (call.stream heard.party).Has last
  event : s.gates.isTelephoneEvent cfg heard.rtpPacket = false
  kept : s.keepRtp = true
  dismissed : s.gates.isDismissed heard.rtpPacket = false
  follows : ∀ last, s.lastRtpPacketSide1 = some last →
    heard.rtpPacket.timestamp ≠ last.timestamp ∧
      s.gates.breaks cfg last heard.rtpPacket (checksPauseSide1 cfg last heard.rtpPacket) = false
  records : (recordsAtOnce cfg s || startsCounting cfg s) = true

/-- A packet of one of the parties, in a session that has the call's local address, or anything
else that leaves the sides. -/
inductive CallStep (call : Call cfg) : Context → Option Heard → Context → Prop
  | packet {c : Context} (env : Env) (keys : SessionKeys) (heard : Heard) :
      (call.stream heard.party).Has heard.rtpPacket →
      (processMetadata cfg heard.rtpPacket keys c).2.session.localIp = call.localIp →
      (addRtpPacket cfg env heard.rtpPacket keys c).2.audio = c.audio ++ heard.chunks →
      CallStep call c (some heard) (addRtpPacket cfg env heard.rtpPacket keys c).2
  | other {c c' : Context} : c'.session.protocol = c.session.protocol →
      c'.session.lastRtpPacketSide1 = c.session.lastRtpPacketSide1 →
      c'.session.lastRtpPacketSide2 = c.session.lastRtpPacketSide2 →
      c'.session.mappedS1S2 = c.session.mappedS1S2 → CallStep call c none c'

/-- A signalled session whose sides are those of the call. -/
structure Ready (call : Call cfg) (c : Context) : Prop where
  signalled : c.session.protocol = .protSip ∨ c.session.protocol = .protSkinny
  sided : Sided call c.session.streams

/-- All audio of a packet has the channel of its party. -/
def Heard.Right (cfg : Config) (heard : Heard) : Prop :=
  ∀ chunk ∈ heard.chunks, chunk.channel? = some (UInt8.ofNat (channelOf cfg heard.party))

/-- What is taken in on a channel that is then mapped to that of the party. -/
theorem Ready.accepted {call : Call cfg} {party : Party} {rtpPacket : RtpPacketInfo}
    {t : Streams} {g : Gates} {channel : Nat} {keys : SessionKeys} {decided : Context}
    (hsignalled : decided.session.protocol = .protSip ∨ decided.session.protocol = .protSkinny)
    (hlocalIp : decided.session.localIp = call.localIp) (sided : Sided call t)
    (hpacket : (call.stream party).Has rtpPacket)
    (follows : Follows cfg env g t rtpPacket (.accepted channel) decided.session.streams) :
    Sided call (mapChannels cfg channel keys decided).2.session.streams ∧
      ((mapChannels cfg channel keys decided).1 = channelOf cfg party ∨
        (mapChannels cfg channel keys decided).1 = 1 ∧ channelOf cfg party = 2 ∧
          decided.session.streams.side2 = none) := by
  generalize hverdict : Verdict.accepted channel = verdict at follows
  generalize hstreams : decided.session.streams = t' at follows
  have hfirst : decided.session.lastRtpPacketSide1 = t'.side1 := congrArg Streams.side1 hstreams
  have hsecond : decided.session.lastRtpPacketSide2 = t'.side2 := congrArg Streams.side2 hstreams
  have hdone : decided.session.mappedS1S2 = t'.mapped := congrArg Streams.mapped hstreams
  -- a packet of side 1 while side 2 is unknown
  have hone (hchannel : channel = 1) (hside1 : t'.side1 = some rtpPacket) (hside2 : t'.side2 = none)
      (hmapped : t'.mapped = false) :
      Sided call (mapChannels cfg channel keys decided).2.session.streams ∧
        ((mapChannels cfg channel keys decided).1 = channelOf cfg party ∨
          (mapChannels cfg channel keys decided).1 = 1 ∧ channelOf cfg party = 2 ∧
            t'.side2 = none) := by
    rw [mapChannels_one (hsecond.trans hside2), hstreams, hchannel]
    refine ⟨.one party hside1 hpacket hside2 hmapped, ?_⟩
    rcases channelOf_cases cfg party with h | h
    · exact Or.inl h.1.symm
    · exact Or.inr ⟨rfl, h.1, hside2⟩
  -- both sides are known
  have hboth (first : Party) {last1 last2 : RtpPacketInfo} (hside1 : t'.side1 = some last1)
      (hhas1 : (call.stream first).Has last1) (hside2 : t'.side2 = some last2)
      (hhas2 : (call.stream first.other).Has last2)
      (hmapped : t'.mapped = true → channelOf cfg first = 1)
      (hchannel : channel = 1 ∧ party = first ∨ channel = 2 ∧ party = first.other) :
      Sided call (mapChannels cfg channel keys decided).2.session.streams ∧
        ((mapChannels cfg channel keys decided).1 = channelOf cfg party ∨
          (mapChannels cfg channel keys decided).1 = 1 ∧ channelOf cfg party = 2 ∧
            t'.side2 = none) := by
    obtain ⟨hmap, hsided⟩ := mapChannels_both hsignalled hlocalIp (hfirst.trans hside1) hhas1
      (hsecond.trans hside2) hhas2 (fun h => hmapped (hdone.symm.trans h))
      (hchannel.imp And.left And.left)
    refine ⟨hsided, Or.inl (hmap.trans ?_)⟩
    rcases hchannel with ⟨rfl, rfl⟩ | ⟨rfl, rfl⟩
    · rfl
    · rfl
  cases follows with
  | first1 hside1 =>
      cases hverdict
      cases sided with
      | none _ hnone2 hmapped => exact hone rfl rfl hnone2 hmapped
      | one other hlast => cases hlast.symm.trans hside1
      | both other hlast => cases hlast.symm.trans hside1
  | first2 hside1 hside2 hdiffers =>
      cases hverdict
      cases sided with
      | none hnone1 => cases hnone1.symm.trans hside1
      | one other hlast hhas _ hmapped =>
          obtain rfl := Option.some.inj (hlast.symm.trans hside1)
          obtain rfl := call.other_of_differs hhas hpacket hdiffers
          exact hboth other hside1 hhas rfl hpacket (fun h => by cases hmapped.symm.trans h)
            (Or.inr ⟨rfl, rfl⟩)
      | both other _ _ hlast2 => cases hlast2.symm.trans hside2
  | accepted1 hside1 hsame =>
      cases hverdict
      cases sided with
      | none hnone1 => cases hnone1.symm.trans hside1
      | one other hlast hhas hnone2 hmapped => exact hone rfl rfl hnone2 hmapped
      | both other hlast1 hhas1 hlast2 hhas2 hmapped =>
          obtain rfl := Option.some.inj (hlast1.symm.trans hside1)
          obtain rfl := call.eq_of_same hhas1 hpacket hsame
          exact hboth party rfl hpacket hlast2 hhas2 hmapped (Or.inl ⟨rfl, rfl⟩)
  | accepted2 hside1 hside2 hdiffers hsame =>
      cases hverdict
      cases sided with
      | none hnone1 => cases hnone1.symm.trans hside1
      | one other _ _ hnone2 => cases hnone2.symm.trans hside2
      | both other hlast1 hhas1 hlast2 hhas2 hmapped =>
          obtain rfl := Option.some.inj (hlast1.symm.trans hside1)
          obtain rfl := call.other_of_differs hhas1 hpacket hdiffers
          exact hboth other hside1 hhas1 rfl hpacket hmapped (Or.inr ⟨rfl, rfl⟩)
  | alien halien => exact absurd halien (sided.not_alien hpacket)
  | duplicate1 => cases hverdict
  | broken1 => cases hverdict
  | duplicate2 => cases hverdict
  | broken2 => cases hverdict

/-! ### One packet -/

section

variable {call : Call cfg} {party : Party} {rtpPacket : RtpPacketInfo} {g : Gates}
  {t t' : Streams} {verdict : Verdict}

theorem Follows.accepted_eq (follows : Follows cfg env g t rtpPacket verdict t') :
    t'.accepted = t.accepted := by
  cases follows with
  | alien =>
      have hcount : (t.countAlien env rtpPacket).accepted = t.accepted := by
        unfold Streams.countAlien
        split_ifs <;> rfl
      rw [← hcount]
      unfold Streams.takeOver
      split_ifs <;> rfl
  | _ => rfl

/-- A packet that is not taken in leaves the sides. -/
theorem Sided.refused (sided : Sided call t) (hpacket : (call.stream party).Has rtpPacket)
    (follows : Follows cfg env g t rtpPacket verdict t')
    (hrefused : ∀ channel, verdict ≠ .accepted channel) : Sided call t' := by
  cases follows with
  | duplicate1 => exact sided
  | broken1 => exact sided
  | duplicate2 => exact sided
  | broken2 => exact sided
  | alien halien => exact absurd halien (sided.not_alien hpacket)
  | first1 => exact absurd rfl (hrefused 1)
  | first2 => exact absurd rfl (hrefused 2)
  | accepted1 => exact absurd rfl (hrefused 1)
  | accepted2 => exact absurd rfl (hrefused 2)

/-- A packet that is taken in while side 2 is unknown follows side 1. -/
theorem Follows.goes {channel : Nat}
    (follows : Follows cfg env g t rtpPacket (.accepted channel) t') (hside2 : t'.side2 = none)
    {last : RtpPacketInfo} (hlast : t.side1 = some last) :
    rtpPacket.timestamp ≠ last.timestamp ∧
      g.breaks cfg last rtpPacket (checksPauseSide1 cfg last rtpPacket) = false := by
  obtain ⟨hnone, hsame⟩ := follows.alone hside2
  generalize hverdict : Verdict.accepted channel = verdict at follows
  cases follows with
  | first1 hside1 => cases hside1.symm.trans hlast
  | first2 => cases hside2
  | accepted1 hside1 _ hdiffers hgoes =>
      obtain rfl := Option.some.inj (hside1.symm.trans hlast)
      exact ⟨hdiffers, hgoes⟩
  | accepted2 => cases hside2
  | alien halien =>
      obtain ⟨_, side2, _, hsome, _⟩ := halien
      cases hnone.symm.trans hsome
  | duplicate1 => cases hverdict
  | broken1 => cases hverdict
  | duplicate2 => cases hverdict
  | broken2 => cases hverdict

/-- The packet that comes too early is taken in for side 1. -/
theorem TooEarly.takenIn {s : SessionData} {heard : Heard} (early : TooEarly call s heard)
    (hpacket : (call.stream heard.party).Has heard.rtpPacket)
    (follows : Follows cfg env (s.gates.next heard.rtpPacket) s.streams heard.rtpPacket verdict t') :
    verdict = .accepted 1 ∧ t'.side2 = none := by
  cases follows with
  | first1 => exact ⟨rfl, early.unknown⟩
  | first2 hside1 _ hdiffers =>
      rw [call.same (early.alone _ hside1) hpacket] at hdiffers
      cases hdiffers
  | duplicate1 hside1 _ hequal => exact absurd hequal (early.follows _ hside1).1
  | broken1 hside1 _ _ hbreaks => cases hbreaks.symm.trans (early.follows _ hside1).2
  | accepted1 => exact ⟨rfl, early.unknown⟩
  | duplicate2 _ hside2 => cases hside2.symm.trans early.unknown
  | broken2 _ hside2 => cases hside2.symm.trans early.unknown
  | accepted2 _ hside2 => cases hside2.symm.trans early.unknown
  | alien halien =>
      obtain ⟨_, side2, _, hside2, _⟩ := halien
      cases hside2.symm.trans early.unknown

end

/-- A packet that comes to the streams. -/
theorem Ready.reaches {call : Call cfg} {c : Context} (ready : Ready call c) {keys : SessionKeys}
    {heard : Heard} (hpacket : (call.stream heard.party).Has heard.rtpPacket)
    (hlocalIp : (processMetadata cfg heard.rtpPacket keys c).2.session.localIp = call.localIp)
    (houts : (addRtpPacket cfg env heard.rtpPacket keys c).2.audio = c.audio ++ heard.chunks)
    (hevent : c.session.gates.isTelephoneEvent cfg heard.rtpPacket = false)
    (hkept : c.session.keepRtp = true)
    (hdismissed : c.session.gates.isDismissed heard.rtpPacket = false) :
    Ready call (addRtpPacket cfg env heard.rtpPacket keys c).2 ∧
      (heard.Right cfg ↔ ¬ TooEarly call c.session heard) := by
  have hsignalled : c.session.protocol ≠ .protRawRtp := by
    rcases ready.signalled with h | h
    · exact fun heq => by cases h.symm.trans heq
    · exact fun heq => by cases h.symm.trans heq
  obtain ⟨reached, hrun, hflow, hrecords, hreachedIp⟩ :=
    addRtpPacket_reaches cfg env keys hsignalled hevent hkept hdismissed
  obtain ⟨verdict, decided, hsettle, follows, hgates, haudio, hdecidedIp, hstarted⟩ :=
    reachStreams_settles cfg env heard.rtpPacket keys reached
  obtain ⟨hreached, hreachedGates, hreachedAudio⟩ := flow_eq_iff.mp hflow
  rw [hreached, hreachedGates] at follows
  rw [hreachedGates] at hgates
  rw [hreachedAudio] at haudio
  rw [hrun, hsettle] at houts ⊢
  have hprotocol : decided.session.protocol = c.session.protocol := congrArg Gates.protocol hgates
  have hrefused (hrefused : ∀ channel, verdict ≠ .accepted channel)
      (hpure : (settle cfg env heard.rtpPacket verdict keys decided).2 = decided) :
      Ready call (settle cfg env heard.rtpPacket verdict keys decided).2 ∧
        (heard.Right cfg ↔ ¬ TooEarly call c.session heard) := by
    rw [hpure, haudio] at houts
    have hnone : heard.chunks = [] := List.self_eq_append_right.mp houts
    rw [hpure]
    refine ⟨⟨hprotocol ▸ ready.signalled, ready.sided.refused hpacket follows hrefused⟩, ?_⟩
    constructor
    · intro _ early
      exact hrefused 1 (early.takenIn hpacket follows).1
    · intro _ chunk hchunk
      rw [hnone] at hchunk
      cases hchunk
  cases verdict with
  | dismissed => exact hrefused (fun _ h => by cases h) rfl
  | brokenUp => exact hrefused (fun _ h => by cases h) rfl
  | accepted channel =>
      obtain ⟨chunks, haccepted, hchannel, hnone⟩ :=
        acceptRtpPacket_chunks cfg env channel heard.rtpPacket keys decided
      obtain ⟨hsided, hmapped⟩ := Ready.accepted (hprotocol ▸ ready.signalled)
        (hdecidedIp.trans (hreachedIp.trans hlocalIp)) ready.sided hpacket follows
      have hctx : (settle cfg env heard.rtpPacket (.accepted channel) keys decided).2 =
          (acceptRtpPacket cfg env channel heard.rtpPacket keys decided).2 := rfl
      rw [hctx] at houts ⊢
      obtain ⟨hstreams, hgates', haudio'⟩ := flow_eq_iff.mp haccepted
      have hchunks : heard.chunks = chunks := by
        rw [haudio', haudio] at houts
        exact (List.append_cancel_left houts).symm
      have hprotocol' : (acceptRtpPacket cfg env channel heard.rtpPacket keys
          decided).2.session.protocol = c.session.protocol :=
        (congrArg Gates.protocol hgates').trans hprotocol
      have hready : Ready call
          (acceptRtpPacket cfg env channel heard.rtpPacket keys decided).2 := by
        refine ⟨?_, ?_⟩
        · rw [hprotocol']
          exact ready.signalled
        · rw [hstreams]
          exact hsided.of_sides rfl rfl rfl
      refine ⟨hready, ?_⟩
      rw [Heard.Right, hchunks]
      rcases hmapped with hright | ⟨hfirst, hsecond, hside2⟩
      · rw [hright] at hchannel
        constructor
        · intro _ early
          obtain ⟨hverdict, hside2⟩ := early.takenIn hpacket follows
          cases hverdict
          rw [mapChannels_one hside2, early.second] at hright
          cases hright
        · exact fun _ => hchannel
      · -- the channel of the other party, should there be audio
        rw [hfirst] at hchannel
        have hempty : (∀ chunk ∈ chunks,
            chunk.channel? = some (UInt8.ofNat (channelOf cfg heard.party))) ↔ chunks = [] := by
          constructor
          · intro hright
            apply List.eq_nil_iff_forall_not_mem.mpr
            intro chunk hchunk
            have hboth := (hchannel chunk hchunk).symm.trans (hright chunk hchunk)
            rw [hsecond] at hboth
            exact absurd hboth (by decide)
          · intro hnil chunk hchunk
            rw [hnil] at hchunk
            cases hchunk
        have hcounting : startsCounting cfg decided.session = startsCounting cfg c.session := by
          unfold startsCounting
          congr 1
          apply isStartPacket_congr
          · exact hprotocol
          · exact congrArg (· + 1) follows.accepted_eq
        rw [hempty, hnone, hstarted hside2, hrecords, hcounting]
        obtain ⟨hunknown, hsame⟩ := follows.alone hside2
        constructor
        · intro hsilent early
          cases early.records.symm.trans hsilent
        · intro hnot
          apply eq_false_of_ne_true
          intro hloud
          apply hnot
          exact {
            second := hsecond
            unknown := hunknown
            alone := by
              intro last hlast
              cases ready.sided with
              | none hnone1 => cases hnone1.symm.trans hlast
              | one other hother hhas =>
                  obtain rfl := Option.some.inj (hother.symm.trans hlast)
                  rw [call.eq_of_same hhas hpacket (hsame _ hlast)]
                  exact hhas
              | both other _ _ hsome => cases hsome.symm.trans hunknown
            event := hevent
            kept := hkept
            dismissed := hdismissed
            follows := fun _ hlast => follows.goes hside2 hlast
            records := hloud }

/-- A packet that does not come to the streams. -/
theorem Course.aside {call : Call cfg} {t t' : Streams} {g g' : Gates} {heard : Heard}
    {result : Bool × RtpPacketInfo} {chunks : List Output} (sided : Sided call t)
    (hpacket : (call.stream heard.party).Has heard.rtpPacket)
    (course : Course cfg env t g heard.rtpPacket result t' g' chunks)
    (haside : ¬ (g.isTelephoneEvent cfg heard.rtpPacket = false ∧ g.keepRtp = true ∧
      g.isDismissed heard.rtpPacket = false)) :
    chunks = [] ∧ Sided call t' ∧ g'.protocol = g.protocol := by
  cases course with
  | event _ hprotocol => exact ⟨rfl, sided, hprotocol⟩
  | ignored _ _ hdetected =>
      refine ⟨rfl, ?_, rfl⟩
      rcases hdetected with rfl | detected
      · exact sided.of_sides rfl rfl rfl
      · exact (sided.detected hpacket detected).of_sides rfl rfl rfl
  | dismissed => exact ⟨rfl, sided, rfl⟩
  | passedOver hevent hkept hdismissed => exact absurd ⟨hevent, hkept, hdismissed⟩ haside
  | brokenUp hevent hkept hdismissed => exact absurd ⟨hevent, hkept, hdismissed⟩ haside
  | accepted hevent hkept hdismissed => exact absurd ⟨hevent, hkept, hdismissed⟩ haside

/-- A step of a call leaves the sides to its two streams, and the audio of a packet has the
channel of its party unless it is too early. -/
theorem Ready.step {call : Call cfg} {c c' : Context} {label : Option Heard}
    (ready : Ready call c) (hstep : CallStep call c label c') :
    Ready call c' ∧ ∀ heard, label = some heard →
      (heard.Right cfg ↔ ¬ TooEarly call c.session heard) := by
  cases hstep with
  | other hprotocol hside1 hside2 hmapped =>
      refine ⟨⟨?_, ready.sided.of_sides hside1 hside2 hmapped⟩, ?_⟩
      · rw [hprotocol]
        exact ready.signalled
      · intro heard h
        cases h
  | packet env keys heard hpacket hlocalIp houts =>
      have heach : (Ready call (addRtpPacket cfg env heard.rtpPacket keys c).2 ∧
          (heard.Right cfg ↔ ¬ TooEarly call c.session heard)) →
          Ready call (addRtpPacket cfg env heard.rtpPacket keys c).2 ∧ ∀ other,
            some heard = some other → (other.Right cfg ↔ ¬ TooEarly call c.session other) := by
        intro h
        refine ⟨h.1, ?_⟩
        intro other hother
        rw [← Option.some.inj hother]
        exact h.2
      apply heach
      by_cases hcomes : c.session.gates.isTelephoneEvent cfg heard.rtpPacket = false ∧
          c.session.gates.keepRtp = true ∧ c.session.gates.isDismissed heard.rtpPacket = false
      · exact ready.reaches hpacket hlocalIp houts hcomes.1 hcomes.2.1 hcomes.2.2
      · obtain ⟨t, g, chunks, course, hflow⟩ := addRtpPacket_course cfg env heard.rtpPacket keys c
        obtain ⟨rfl, hsided, hprotocol⟩ := course.aside ready.sided hpacket hcomes
        obtain ⟨hstreams, hgates, haudio⟩ := flow_eq_iff.mp hflow
        have hprotocol' : (addRtpPacket cfg env heard.rtpPacket keys c).2.session.protocol =
            c.session.protocol := (congrArg Gates.protocol hgates).trans hprotocol
        have hnone : heard.chunks = [] := by
          rw [haudio] at houts
          exact (List.append_cancel_left houts).symm
        refine ⟨⟨?_, hstreams.symm ▸ hsided⟩, ?_⟩
        · rw [hprotocol']
          exact ready.signalled
        · rw [Heard.Right, hnone]
          constructor
          · exact fun _ early => hcomes ⟨early.event, early.kept, early.dismissed⟩
          · intro _ chunk hchunk
            cases hchunk

/-! ### Calls -/

/-- A session before its first packet. -/
structure Unheard (c : Context) : Prop where
  signalled : c.session.protocol = .protSip ∨ c.session.protocol = .protSkinny
  side1 : c.session.lastRtpPacketSide1 = none
  side2 : c.session.lastRtpPacketSide2 = none
  mapped : c.session.mappedS1S2 = false

theorem Unheard.ready (call : Call cfg) {c : Context} (unheard : Unheard c) : Ready call c :=
  ⟨unheard.signalled, .none unheard.side1 unheard.side2 unheard.mapped⟩

/-- The step is not a packet that is too early. -/
def InTime (call : Call cfg) (c : Context) (label : Option Heard) : Prop :=
  ∀ heard, label = some heard → ¬ TooEarly call c.session heard

/-- In a call without packets that are too early all audio has the channel of its party, and
one packet more keeps this if and only if it is not too early either. -/
theorem channels_of_parties {call : Call cfg} {start c : Context} {labels : List (Option Heard)}
    (unheard : Unheard start) (run : Steps (Guarded (InTime call) (CallStep call)) start labels c) :
    (∀ heard, some heard ∈ labels → heard.Right cfg) ∧
      ∀ (heard : Heard) (c' : Context), CallStep call c (some heard) c' →
        (heard.Right cfg ↔ ¬ TooEarly call c.session heard) := by
  have ready := unheard.ready call
  clear unheard
  induction run with
  | nil s => exact ⟨fun heard h => (by cases h), fun heard c' hstep => (ready.step hstep).2 heard rfl⟩
  | cons first _ ih =>
      obtain ⟨hnext, hright⟩ := ready.step first.2
      obtain ⟨hall, hlast⟩ := ih hnext
      refine ⟨?_, hlast⟩
      intro heard hmem
      rcases List.mem_cons.mp hmem with rfl | hmem
      · exact (hright heard rfl).mpr (first.1 heard rfl)
      · exact hall heard hmem

/-- A packet with the audio that the session hands out for it. -/
def heardBy (cfg : Config) (env : Env) (keys : SessionKeys) (party : Party)
    (rtpPacket : RtpPacketInfo) (c : Context) : Heard where
  party := party
  rtpPacket := rtpPacket
  chunks := (addRtpPacket cfg env rtpPacket keys c).2.audio.drop c.audio.length

theorem CallStep.heardBy {call : Call cfg} (keys : SessionKeys) {party : Party}
    {rtpPacket : RtpPacketInfo} {c : Context} (hpacket : (call.stream party).Has rtpPacket)
    (hlocalIp : (processMetadata cfg rtpPacket keys c).2.session.localIp = call.localIp) :
    CallStep call c (some (heardBy cfg env keys party rtpPacket c))
      (addRtpPacket cfg env rtpPacket keys c).2 := by
  apply CallStep.packet env keys (VoIp.heardBy cfg env keys party rtpPacket c) hpacket hlocalIp
  obtain ⟨t, g, chunks, _, hflow⟩ := addRtpPacket_course cfg env rtpPacket keys c
  have haudio := (flow_eq_iff.mp hflow).2.2
  rw [VoIp.heardBy, haudio, List.drop_left]

end

/-! ### The remote party comes first -/

def callConfig : Config := { rtpS1S2MappingDeterministic := true }

/-- A call between two addresses, with the local party on the first channel. -/
def twoParties : Call callConfig where
  localIp := 1
  stream := fun
    | .localParty => ⟨10, 1, 2⟩
    | .remoteParty => ⟨20, 2, 1⟩
  deterministic := rfl
  distinct := by decide
  gateways := by decide
  addresses := by decide

def sipContext : Context where
  shared := {}
  session := { (VoIpSession.new {} { usec := 0 } "").toSessionData with
    protocol := .protSip
    localIp := 1 }

def localPacket : RtpPacketInfo := { ssrc := 10, sourceIp := 1, destIp := 2, timestamp := 160 }

def remotePacket (timestamp : UInt32) : RtpPacketInfo :=
  { ssrc := 20, sourceIp := 2, destIp := 1, timestamp := timestamp }

/-- The session behind a packet. -/
def after (rtpPacket : RtpPacketInfo) (c : Context) : Context :=
  (addRtpPacket callConfig { usec := 0 } rtpPacket { trackingId := "" } c).2

def heardIn (c : Context) (party : Party) (rtpPacket : RtpPacketInfo) : Heard :=
  heardBy callConfig { usec := 0 } { trackingId := "" } party rtpPacket c

theorem sipContext_unheard : Unheard sipContext := ⟨Or.inl rfl, rfl, rfl, rfl⟩

theorem step_firstRemote : CallStep twoParties sipContext
    (some (heardIn sipContext .remoteParty (remotePacket 160))) (after (remotePacket 160) sipContext) :=
  .heardBy { trackingId := "" } ⟨rfl, rfl, rfl⟩ rfl

/-- The local party comes second, and starts the session on its own channel. -/
theorem channels_of_parties_second :
    (heardIn (after (remotePacket 160) sipContext) .localParty localPacket).Right callConfig := by
  have hfirst : Guarded (InTime twoParties) (CallStep twoParties) sipContext
      (some (heardIn sipContext .remoteParty (remotePacket 160)))
      (after (remotePacket 160) sipContext) := by
    refine ⟨?_, step_firstRemote⟩
    intro heard _ early
    exact absurd early.records (by decide)
  have hright := (channels_of_parties sipContext_unheard (.cons hfirst (.nil _))).2
  apply (hright _ _ (.heardBy { trackingId := "" } ⟨rfl, rfl, rfl⟩ rfl)).mpr
  intro early
  exact absurd early.second (by decide)

/-- Two packets of the remote party come before the local party's first one, and the second of
them goes out on channel 1. -/
theorem remote_party_on_first_channel : ¬ ∀ (cfg : Config) (call : Call cfg) (start c : Context)
    (labels : List (Option Heard)), Unheard start → Steps (CallStep call) start labels c →
    ∀ heard, some heard ∈ labels → heard.Right cfg := by
  intro hright
  have hsecond : CallStep twoParties (after (remotePacket 160) sipContext)
      (some (heardIn (after (remotePacket 160) sipContext) .remoteParty (remotePacket 320)))
      (after (remotePacket 320) (after (remotePacket 160) sipContext)) :=
    .heardBy { trackingId := "" } ⟨rfl, rfl, rfl⟩ rfl
  have hwrong := hright callConfig twoParties _ _ _ sipContext_unheard
    (.cons step_firstRemote (.cons hsecond (.nil _)))
    (heardIn (after (remotePacket 160) sipContext) .remoteParty (remotePacket 320))
    (List.mem_cons_of_mem _ List.mem_cons_self)
  have hchannel : (heardIn (after (remotePacket 160) sipContext) .remoteParty
      (remotePacket 320)).chunks.map Output.channel? = [some 1] := by
    decide +kernel
  have hmem : some 1 ∈ (heardIn (after (remotePacket 160) sipContext) .remoteParty
      (remotePacket 320)).chunks.map Output.channel? := by
    rw [hchannel]
    exact List.mem_cons_self
  obtain ⟨chunk, hchunk, hone⟩ := List.mem_map.mp hmem
  exact absurd (hone.symm.trans (hwrong chunk hchunk)) (by decide)

end OrkAudio.VoIp
