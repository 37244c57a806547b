import OrkAudio.Rtcp.Walks

/-! Which CNAME of a valid compound packet `TryRtcp` reports. -/

namespace OrkAudio.Rtcp

open Lib

variable {cfg : Config} {packet : UdpPacket} {payload : Bytes} {place r s : Nat}

/-! ### Valid compound packets -/

/-- The packet that follows one of version 2, by its length. -/
def nextPacket (payload : Bytes) (r : Nat) : Option Nat :=
  if r + headerSize ≤ payload.length ∧ byteAt payload r / 64 = 2 then some (packetEnd payload r)
  else none

/-- A report of version 2 without padding, and packets of version 2 behind it whose lengths lead
exactly to the end of the payload. -/
structure Compound (payload : Bytes) : Prop where
  long : headerSize ≤ payload.length
  version : byteAt payload 0 / 64 = 2
  type : byteAt payload 1 = 200 ∨ byteAt payload 1 = 201
  unpadded : byteAt payload 0 / 32 % 2 = 0
  walk : Walk (nextPacket payload) (packetEnd payload 0) payload.length

/-- The item behind one that is neither a CNAME nor an END: its type, its length and its text are
stepped over. -/
def followingItem (payload : Bytes) (stop place : Nat) : Option Nat :=
  if place < stop ∧ byteAt payload place ≠ 1 ∧ byteAt payload place ≠ 0 then
    some (place + 2 + byteAt payload (place + 1))
  else none

/-- The item at `place`, of the first chunk of the SDES packet at `r`, is a CNAME. -/
def Describes (payload : Bytes) (r place : Nat) : Prop :=
  IsSdes payload r ∧ Walk (followingItem payload (packetEnd payload r)) (r + 8) place ∧
    IsCname payload (packetEnd payload r) place ∧
      place + 2 + byteAt payload (place + 1) ≤ packetEnd payload r

/-- The CNAME of the first packet that has one. -/
def FirstCname (payload : Bytes) (place : Nat) : Prop :=
  ∃ r, Walk (nextPacket payload) (packetEnd payload 0) r ∧ r < payload.length ∧
    Describes payload r place ∧
      ∀ s, Walk (nextPacket payload) (packetEnd payload 0) s → s < r →
        ∀ other, ¬Describes payload s other

def cnameText (payload : Bytes) (place : Nat) : Bytes :=
  (payload.drop (place + 2)).take (byteAt payload (place + 1))

/-- The packet is recognised, and the text that is reported for its CNAME, when such a text is
admitted at all, is the text of the item. -/
def ReportsCname (cfg : Config) (packet : UdpPacket) : Prop :=
  ∃ detected, tryRtcp cfg packet = .ok detected ∧ detected.result = true ∧
    ∀ place, FirstCname packet.payload place →
      detected.reported.map SrcDescription.fullCname =
        if isAdmitted cfg (cnameText packet.payload place) then
          some (cnameText packet.payload place)
        else none

/-! ### What the loops need -/

/-- No packet behind the first is so close to the end that the loops leave it out. -/
def LastLong (payload : Bytes) : Prop :=
  ∀ r, Walk (nextPacket payload) (packetEnd payload 0) r → r < payload.length →
    r + 16 ≤ payload.length

theorem nextPacket_end : nextPacket payload payload.length = none := by
  apply if_neg
  intro h
  have hroom : payload.length + 4 ≤ payload.length := h.1
  omega

theorem nextPacket_of_nextHeader (hnext : nextHeader payload r = some s) :
    nextPacket payload r = some s := by
  unfold nextHeader at hnext
  split_ifs at hnext with hloop
  have hroom := hloop.1.room
  have hsize : headerSize = 4 := rfl
  rw [← hnext]
  exact if_pos ⟨by omega, hloop.2⟩

theorem lt_of_nextPacket (hnext : nextPacket payload r = some s) :
    r < s ∧ r < payload.length ∧ s = packetEnd payload r ∧ byteAt payload r / 64 = 2 := by
  unfold nextPacket at hnext
  split_ifs at hnext with hheader
  have hroom : r + 4 ≤ payload.length := hheader.1
  obtain rfl := Option.some.inj hnext
  exact ⟨lt_packetEnd payload r, by omega, rfl, hheader.2⟩

/-- Every packet that is met before the end leaves the loop room, when the loop comes to the
end. -/
theorem inLoop_of_walk (walk : Walk (nextHeader payload) r payload.length)
    (hpacket : Walk (nextPacket payload) r s) (hs : s < payload.length) : InLoop payload s := by
  induction walk using Relation.ReflTransGen.head_induction_on with
  | refl =>
      rw [(walk_of_none nextPacket_end).mp hpacket] at hs
      exact absurd hs (lt_irrefl _)
  | head hnext _ ih =>
      rcases (walk_of_some (nextPacket_of_nextHeader hnext)).mp hpacket with rfl | hpacket
      · exact (nextHeader_some hnext).1
      · exact ih hpacket

theorem nextHeader_walk (walk : Walk (nextPacket payload) r payload.length)
    (hlong : ∀ s, Walk (nextPacket payload) r s → s < payload.length → s + 16 ≤ payload.length) :
    Walk (nextHeader payload) r payload.length := by
  induction walk using Relation.ReflTransGen.head_induction_on with
  | refl => exact walk_refl _ _
  | head hnext _ ih =>
      obtain ⟨-, hlt, heq, hversion⟩ := lt_of_nextPacket hnext
      have hloop : InLoop payload _ := inLoop_iff.mpr (hlong _ (walk_refl _ _) hlt)
      have hheader : nextHeader payload _ = some (packetEnd payload _) :=
        if_pos ⟨hloop, hversion⟩
      rw [← heq] at hheader
      apply (walk_of_some hheader).mpr
      apply Or.inr
      apply ih
      intro s hs
      exact hlong s ((walk_of_some hnext).mpr (Or.inr hs))

/-- The checks of `TryRtcp` accept the valid compound packets whose last packet is not short. -/
theorem accepted_iff (compound : Compound payload) : Accepted payload ↔ LastLong payload := by
  constructor
  · intro accepted r hr hlt
    exact (inLoop_of_walk accepted.walk hr hlt).room
  · intro hlong
    exact ⟨compound.long, compound.version, compound.type, compound.unpadded,
      nextHeader_walk compound.walk hlong⟩

/-! ### What the search finds -/

/-- An item at which the search stops: it steps over `length` bytes where an item takes
`length + 2`. -/
def Found (payload : Bytes) (start place : Nat) : Prop :=
  ∃ r, Walk (nextSearched payload) start r ∧ InLoop payload r ∧ Finds payload r place

theorem found_of_some (hnext : nextSearched payload r = some s) :
    Found payload r place ↔ Found payload s place := by
  have hhere : ¬(InLoop payload r ∧ Finds payload r place) := by
    intro h
    unfold nextSearched at hnext
    split_ifs at hnext with hcond
    exact hcond.2 ⟨place, h.2⟩
  unfold Found
  rw [exists_walk_of_some hnext]
  constructor
  · intro h
    exact h.resolve_left hhere
  · exact Or.inr

theorem found_of_none (hnext : nextSearched payload r = none) :
    Found payload r place ↔ InLoop payload r ∧ Finds payload r place := by
  unfold Found
  rw [exists_walk_of_none hnext]

theorem searchCname_eq_some_iff {found : Option Nat}
    (walk : Walk (nextHeader payload) r payload.length)
    (hsearch : searchCname payload fuel r = .ok found) (place : Nat) :
    found = some place ↔ Found payload r place := by
  induction fuel generalizing r with
  | zero => cases hsearch
  | succ fuel ih =>
      rcases header_of_walk walk with rfl | ⟨hloop, hend, rest⟩
      · have hnone : nextSearched payload payload.length = none :=
          if_neg fun h => absurd h.1.1 (lt_irrefl _)
        rw [searchCname_end] at hsearch
        obtain rfl := Except.ok.inj hsearch
        rw [found_of_none hnone]
        apply iff_of_false
        · intro h
          cases h
        · intro h
          exact absurd h.1.1 (lt_irrefl _)
      · by_cases hsdes : IsSdes payload r
        · rw [searchCname_sdes hloop hsdes] at hsearch
          obtain ⟨here, hhere, hrest⟩ := bind_eq_ok.mp hsearch
          have hfinds := walkItems_eq_some_iff hend hhere
          cases here with
          | some q =>
              have hq := (hfinds q).mp rfl
              have hnone : nextSearched payload r = none :=
                if_neg fun h => h.2 ⟨q, hsdes, hq⟩
              obtain rfl := Except.ok.inj hrest
              rw [found_of_none hnone, hfinds place]
              constructor
              · intro h
                exact ⟨hloop, hsdes, h⟩
              · intro h
                exact h.2.2
          | none =>
              have hnext : nextSearched payload r = some (packetEnd payload r) := by
                apply nextSearched_of_not_finds hloop
                intro q hq
                cases (hfinds q).mpr hq.2
              rw [found_of_some hnext]
              exact ih rest hrest
        · have hnext := nextSearched_of_not_finds hloop fun q h => hsdes h.1
          rw [searchCname_other hloop hsdes] at hsearch
          rw [found_of_some hnext]
          exact ih rest hsearch

/-! ### The text that is reported -/

/-- The text that is reported for the item at which the search stops: up to its first NUL, and
of 254 bytes at most. -/
def reportedText (cfg : Config) (packet : UdpPacket) (place : Nat) : Option Bytes :=
  if isAdmitted cfg (itemText packet place) then
    some (cString ((itemText packet place).take 254))
  else none

/-- The search stops at an item whose text is reported as that of the packet's CNAME, or at none
when this text is not admitted. -/
def SearchAgrees (cfg : Config) (packet : UdpPacket) : Prop :=
  ∀ place, FirstCname packet.payload place →
    (∀ q, Found packet.payload (packetEnd packet.payload 0) q →
      reportedText cfg packet q =
        if isAdmitted cfg (cnameText packet.payload place) then
          some (cnameText packet.payload place)
        else none) ∧
      ((∀ q, ¬Found packet.payload (packetEnd packet.payload 0) q) →
        isAdmitted cfg (cnameText packet.payload place) = false)

theorem parseHost_fullCname (info : SrcDescription) (text : Bytes) :
    (parseHost info text).fullCname = info.fullCname := by
  unfold parseHost
  cases splitAt 58 text <;> rfl

theorem parseCname_fullCname (info : SrcDescription) :
    (parseCname info).fullCname = info.fullCname := by
  unfold parseCname
  cases splitAt 64 info.fullCname with
  | none => exact parseHost_fullCname info info.fullCname
  | some parts =>
      simp only
      split_ifs
      · rfl
      · rw [parseHost_fullCname]

theorem describe_fullCname (cfg : Config) (packet : UdpPacket) (place : Nat) :
    (describe cfg packet (itemText packet place)).map SrcDescription.fullCname =
      reportedText cfg packet place := by
  unfold describe reportedText
  split_ifs
  · rw [Option.map_some, parseCname_fullCname]
  · rfl

/-- A valid compound packet is recognised and its CNAME reported as it stands exactly when no
packet behind the first is shorter than 16 bytes to the end of the payload, the search gets on
from every item, and it stops at an item with the text of the CNAME. -/
theorem reportsCname_iff (cfg : Config) (packet : UdpPacket) (hdetect : cfg.rtcpDetect = true)
    (compound : Compound packet.payload) :
    ReportsCname cfg packet ↔
      LastLong packet.payload ∧
        SearchAdvances packet.payload (packetEnd packet.payload 0) ∧ SearchAgrees cfg packet := by
  have hsized := packet.sized
  have hlong : 4 ≤ packet.payload.length := compound.long
  by_cases hlast : LastLong packet.payload
  · have accepted := (accepted_iff compound).mpr hlast
    have hsearch := @searchCname_succeeds_iff packet.payload (packet.payload.length + 1)
      (packetEnd packet.payload 0) accepted.walk (by omega)
    unfold ReportsCname
    rw [tryRtcp_of_accepted hdetect accepted, ← hsearch]
    simp only [hlast, true_and]
    constructor
    · intro h
      rcases h with ⟨detected, hdetected, -, hreports⟩
      obtain ⟨found, hfound, hrest⟩ := bind_eq_ok.mp hdetected
      have hiff := searchCname_eq_some_iff accepted.walk hfound
      refine ⟨⟨found, hfound⟩, ?_⟩
      intro place hfirst
      have hreport := hreports place hfirst
      cases found with
      | some q =>
          have hq := (hiff q).mp rfl
          obtain rfl := Except.ok.inj hrest
          rw [Option.bind_some, describe_fullCname] at hreport
          constructor
          · intro other hother
            obtain rfl := Option.some.inj ((hiff other).mpr hother)
            exact hreport
          · intro hnone
            exact absurd hq (hnone q)
      | none =>
          obtain rfl := Except.ok.inj hrest
          constructor
          · intro other hother
            cases (hiff other).mpr hother
          · intro _
            split_ifs at hreport with hadmitted
            · cases hreport
            · exact Bool.eq_false_iff.mpr hadmitted
    · rintro ⟨⟨found, hfound⟩, hagrees⟩
      have hiff := searchCname_eq_some_iff accepted.walk hfound
      rw [hfound]
      cases found with
      | some q =>
          refine ⟨_, rfl, rfl, ?_⟩
          intro place hfirst
          rw [Option.bind_some, describe_fullCname]
          exact (hagrees place hfirst).1 q ((hiff q).mp rfl)
      | none =>
          refine ⟨_, rfl, rfl, ?_⟩
          intro place hfirst
          have hrefused : isAdmitted cfg (cnameText packet.payload place) = false := by
            apply (hagrees place hfirst).2
            intro q hq
            cases (hiff q).mpr hq
          rw [hrefused]
          rfl
  · have hrejected : ¬Accepted packet.payload := fun h => hlast ((accepted_iff compound).mp h)
    apply iff_of_false
    · intro h
      rcases h with ⟨detected, hdetected, hresult, -⟩
      rw [tryRtcp_of_rejected (by omega) hrejected] at hdetected
      obtain rfl := Except.ok.inj hdetected
      cases hresult
    · intro h
      exact hlast h.1

/-- A receiver report, and an SDES packet with the CNAME "ext100". -/
def extension : UdpPacket where
  len := 36
  payload := [0x80, 201, 0, 1, 0, 0, 0, 1] ++
    [0x81, 202, 0, 4, 0, 0, 0, 1, 1, 6, 101, 120, 116, 49, 48, 48, 0, 0, 0, 0]
  sized := by rfl
  len_lt := by decide

theorem extension_compound : Compound extension.payload where
  long := by decide
  version := by decide
  type := by decide
  unpadded := by decide
  walk := by
    have hnext : nextPacket extension.payload (packetEnd extension.payload 0) =
        some extension.payload.length := by decide
    exact (walk_refl _ _).step hnext

theorem extension_reported_iff :
    ReportsCname { rtcpDetect := true } extension ↔
      LastLong extension.payload ∧
        SearchAdvances extension.payload (packetEnd extension.payload 0) ∧
          SearchAgrees { rtcpDetect := true } extension :=
  reportsCname_iff { rtcpDetect := true } extension rfl extension_compound

/-- A receiver report, and an SDES packet of 12 bytes with the CNAME "e". -/
def shortSdes : UdpPacket where
  len := 28
  payload := [0x80, 201, 0, 1, 0, 0, 0, 1] ++ [0x81, 202, 0, 2, 0, 0, 0, 1, 1, 1, 101, 0]
  sized := by rfl
  len_lt := by decide

/-- The packet is valid, but its last 12 bytes are left out by the loop over the headers. -/
theorem short_sdes_refused :
    Compound shortSdes.payload ∧ ¬ReportsCname { rtcpDetect := true } shortSdes := by
  constructor
  · refine ⟨by decide, by decide, by decide, by decide, ?_⟩
    have hnext : nextPacket shortSdes.payload (packetEnd shortSdes.payload 0) =
        some shortSdes.payload.length := by decide
    exact (walk_refl _ _).step hnext
  · intro h
    rcases h with ⟨detected, hdetected, hresult, -⟩
    have hrefused : tryRtcp { rtcpDetect := true } shortSdes = .ok { result := false } := by
      decide +kernel
    rw [hrefused] at hdetected
    obtain rfl := Except.ok.inj hdetected
    cases hresult

end OrkAudio.Rtcp
