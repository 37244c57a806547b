import OrkAudio.Lib.Walk
import OrkAudio.Rtcp.Model

/-! The walks through a compound RTCP packet: by headers, and by the items of a chunk. -/

namespace OrkAudio.Rtcp

open Lib

variable {payload : Bytes} {place stop fuel r s : Nat}

/-! ### Headers -/

/-- Where a packet ends by its length. -/
def packetEnd (payload : Bytes) (r : Nat) : Nat := r + 4 * (halfAt payload (r + 2) + 1)

/-- The header that the first loop goes on to. -/
def nextHeader (payload : Bytes) (r : Nat) : Option Nat :=
  if InLoop payload r ∧ byteAt payload r / 64 = 2 then some (packetEnd payload r) else none

theorem read_eq (hplace : place < payload.length) :
    read payload place = .ok (byteAt payload place) := by
  rw [read, byte?_eq hplace]

theorem read_eq_outside (hplace : payload.length ≤ place) :
    read payload place = .error .outside := by
  rw [read, byte?_eq_none hplace]

theorem readPacketEnd_eq (hr : r + 3 < payload.length) :
    readPacketEnd payload r = .ok (packetEnd payload r) := by
  rw [readPacketEnd, readHalf, half?_eq (by omega)]
  rfl

theorem lt_packetEnd (payload : Bytes) (r : Nat) : r < packetEnd payload r := by
  unfold packetEnd
  omega

theorem InLoop.room (hloop : InLoop payload r) : r + 16 ≤ payload.length := by
  have hleft := hloop.2
  unfold headerSize at hleft
  omega

theorem inLoop_iff : InLoop payload r ↔ r + 16 ≤ payload.length := by
  constructor
  · exact InLoop.room
  · intro hroom
    unfold InLoop headerSize
    omega

theorem nextHeader_some (hnext : nextHeader payload r = some s) :
    InLoop payload r ∧ s = packetEnd payload r := by
  unfold nextHeader at hnext
  split_ifs at hnext with hloop
  exact ⟨hloop.1, (Option.some.inj hnext).symm⟩

theorem nextHeader_end : nextHeader payload payload.length = none := by
  apply if_neg
  intro h
  exact absurd h.1.1 (lt_irrefl _)

theorem le_of_walk (walk : Walk (nextHeader payload) r s) : r ≤ s := by
  induction walk with
  | refl => exact le_rfl
  | tail _ hnext ih =>
      have hlt := lt_packetEnd payload
      rw [(nextHeader_some hnext).2]
      exact ih.trans (hlt _).le

/-- The first loop stops where no header follows. -/
theorem walkHeaders_eq (hfuel : payload.length < r + fuel) (hpos : 0 < fuel) :
    ∃ s, walkHeaders payload fuel r = .ok s ∧ Walk (nextHeader payload) r s ∧
      nextHeader payload s = none := by
  induction fuel generalizing r with
  | zero => exact absurd hpos (lt_irrefl 0)
  | succ fuel ih =>
      unfold walkHeaders
      by_cases hloop : InLoop payload r
      · have hroom := hloop.room
        rw [if_pos hloop, read_eq (by omega)]
        simp only [bind, Except.bind]
        by_cases hversion : byteAt payload r / 64 = 2
        · have hlt := lt_packetEnd payload r
          rw [if_neg (not_not.mpr hversion), readPacketEnd_eq (by omega)]
          rcases @ih (packetEnd payload r) (by omega) (by omega) with ⟨s, hs, walk, hend⟩
          have hnext : nextHeader payload r = some (packetEnd payload r) :=
            if_pos ⟨hloop, hversion⟩
          exact ⟨s, hs, (walk_of_some hnext).mpr (Or.inr walk), hend⟩
        · rw [if_pos hversion]
          exact ⟨r, rfl, walk_refl _ r, if_neg fun h => hversion h.2⟩
      · rw [if_neg hloop]
        exact ⟨r, rfl, walk_refl _ r, if_neg fun h => hloop h.1⟩

/-- The headers that are met when the walk ends with the payload. -/
theorem header_of_walk (walk : Walk (nextHeader payload) r payload.length) :
    r = payload.length ∨ (InLoop payload r ∧ packetEnd payload r ≤ payload.length ∧
      Walk (nextHeader payload) (packetEnd payload r) payload.length) := by
  rcases Relation.ReflTransGen.cases_head walk with heq | ⟨s, hnext, rest⟩
  · exact Or.inl heq
  · obtain ⟨hloop, rfl⟩ := nextHeader_some hnext
    exact Or.inr ⟨hloop, le_of_walk rest, rest⟩

/-! ### Items -/

/-- The item that the walk goes on to: `length` bytes further, whatever the item's own size. -/
def nextItem (payload : Bytes) (stop place : Nat) : Option Nat :=
  if place < stop ∧ byteAt payload place ≠ 1 ∧ byteAt payload place ≠ 0 then
    some (place + byteAt payload (place + 1))
  else none

/-- The walk gets on from an item, by a length that is in the payload. -/
def Advances (payload : Bytes) (stop place : Nat) : Prop :=
  place < stop → byteAt payload place ≠ 1 → byteAt payload place ≠ 0 →
    place + 1 < payload.length ∧ byteAt payload (place + 1) ≠ 0

/-- It does so from every item that it comes to. -/
def ItemsAdvance (payload : Bytes) (stop start : Nat) : Prop :=
  ∀ place, Walk (nextItem payload stop) start place → Advances payload stop place

def IsCname (payload : Bytes) (stop place : Nat) : Prop :=
  place < stop ∧ byteAt payload place = 1

/-- An item of length 0 is met for ever. -/
theorem walkItems_stuck (hstop : stop ≤ payload.length) (hplace : place < stop)
    (hcname : byteAt payload place ≠ 1) (hend : byteAt payload place ≠ 0)
    (hlength : byteAt payload (place + 1) = 0) (fuel : Nat) :
    ¬Succeeds (walkItems payload stop fuel place) := by
  induction fuel with
  | zero => exact not_succeeds_error _
  | succ fuel ih =>
      unfold walkItems
      rw [if_pos hplace, read_eq (by omega)]
      simp only [bind, Except.bind, if_neg hcname, if_neg hend]
      by_cases hinside : place + 1 < payload.length
      · rw [read_eq hinside, hlength]
        exact ih
      · rw [read_eq_outside (by omega)]
        exact not_succeeds_error _

theorem walkItems_succeeds_iff (hstop : stop ≤ payload.length) (hfuel : stop < place + fuel)
    (hpos : 0 < fuel) :
    Succeeds (walkItems payload stop fuel place) ↔ ItemsAdvance payload stop place := by
  induction fuel generalizing place with
  | zero => exact absurd hpos (lt_irrefl 0)
  | succ fuel ih =>
      by_cases hon : place < stop ∧ byteAt payload place ≠ 1 ∧ byteAt payload place ≠ 0
      · rcases hon with ⟨hplace, hcname, hend⟩
        have hnext : nextItem payload stop place =
            some (place + byteAt payload (place + 1)) := if_pos ⟨hplace, hcname, hend⟩
        unfold ItemsAdvance
        rw [forall_walk_of_some hnext]
        by_cases hlength : byteAt payload (place + 1) = 0
        · apply iff_of_false (walkItems_stuck hstop hplace hcname hend hlength _)
          intro h
          exact (h.1 hplace hcname hend).2 hlength
        · unfold walkItems
          rw [if_pos hplace, read_eq (by omega)]
          simp only [bind, Except.bind, if_neg hcname, if_neg hend]
          by_cases hinside : place + 1 < payload.length
          · rw [read_eq hinside]
            have hrest := @ih (place + byteAt payload (place + 1)) (by omega) (by omega)
            simp only [hrest]
            constructor
            · intro h
              exact ⟨fun _ _ _ => ⟨hinside, hlength⟩, h⟩
            · intro h
              exact h.2
          · rw [read_eq_outside (by omega)]
            apply iff_of_false (not_succeeds_error _)
            intro h
            exact hinside (h.1 hplace hcname hend).1
      · have hnone : nextItem payload stop place = none := if_neg hon
        unfold ItemsAdvance
        rw [forall_walk_of_none hnone]
        apply iff_of_true
        · unfold walkItems
          by_cases hplace : place < stop
          · rw [if_pos hplace, read_eq (by omega)]
            simp only [bind, Except.bind]
            by_cases hcname : byteAt payload place = 1
            · rw [if_pos hcname]
              exact succeeds_ok _
            · have hend : byteAt payload place = 0 := by
                by_contra hend
                exact hon ⟨hplace, hcname, hend⟩
              rw [if_neg hcname, if_pos hend]
              exact succeeds_ok _
          · rw [if_neg hplace]
            exact succeeds_ok _
        · intro hplace hcname hend
          exact absurd ⟨hplace, hcname, hend⟩ hon

/-- The place that the walk returns is the CNAME that it comes to. -/
theorem walkItems_eq_some_iff {found : Option Nat} (hstop : stop ≤ payload.length)
    (hwalk : walkItems payload stop fuel place = .ok found) (q : Nat) :
    found = some q ↔ Walk (nextItem payload stop) place q ∧ IsCname payload stop q := by
  induction fuel generalizing place with
  | zero => cases hwalk
  | succ fuel ih =>
      unfold walkItems at hwalk
      by_cases hplace : place < stop
      · rw [if_pos hplace, read_eq (by omega)] at hwalk
        simp only [bind, Except.bind] at hwalk
        by_cases hcname : byteAt payload place = 1
        · have hnone : nextItem payload stop place = none := if_neg fun h => h.2.1 hcname
          rw [if_pos hcname] at hwalk
          obtain rfl := Except.ok.inj hwalk
          rw [walk_of_none hnone, Option.some_inj]
          constructor
          · rintro rfl
            exact ⟨rfl, hplace, hcname⟩
          · intro h
            exact h.1.symm
        · rw [if_neg hcname] at hwalk
          by_cases hend : byteAt payload place = 0
          · have hnone : nextItem payload stop place = none := if_neg fun h => h.2.2 hend
            rw [if_pos hend] at hwalk
            obtain rfl := Except.ok.inj hwalk
            rw [walk_of_none hnone]
            apply iff_of_false
            · intro h
              cases h
            · rintro ⟨rfl, hq⟩
              exact hcname hq.2
          · have hnext : nextItem payload stop place =
                some (place + byteAt payload (place + 1)) := if_pos ⟨hplace, hcname, hend⟩
            rw [if_neg hend] at hwalk
            by_cases hinside : place + 1 < payload.length
            · rw [read_eq hinside] at hwalk
              rw [ih hwalk, walk_of_some hnext]
              constructor
              · intro h
                exact ⟨Or.inr h.1, h.2⟩
              · rintro ⟨rfl | walk, hq⟩
                · exact absurd hq.2 hcname
                · exact ⟨walk, hq⟩
            · rw [read_eq_outside (by omega)] at hwalk
              cases hwalk
      · have hnone : nextItem payload stop place = none := if_neg fun h => hplace h.1
        rw [if_neg hplace] at hwalk
        obtain rfl := Except.ok.inj hwalk
        rw [walk_of_none hnone]
        apply iff_of_false
        · intro h
          cases h
        · rintro ⟨rfl, hq⟩
          exact hplace hq.1

/-! ### The search for an SDES packet -/

/-- An SDES packet with a chunk. -/
def IsSdes (payload : Bytes) (r : Nat) : Prop :=
  byteAt payload (r + 1) = 202 ∧ byteAt payload r % 32 ≠ 0

/-- The walk over the items of the packet comes to a CNAME at `place`. -/
def Finds (payload : Bytes) (r place : Nat) : Prop :=
  IsSdes payload r ∧ Walk (nextItem payload (packetEnd payload r)) (r + 8) place ∧
    IsCname payload (packetEnd payload r) place

open Classical in
/-- The header that the search goes on to: that of the next packet, as long as no CNAME has been
found. -/
noncomputable def nextSearched (payload : Bytes) (r : Nat) : Option Nat :=
  if InLoop payload r ∧ ¬∃ place, Finds payload r place then some (packetEnd payload r) else none

/-- The items can be walked over in each SDES packet that the search comes to. -/
def SearchAdvances (payload : Bytes) (start : Nat) : Prop :=
  ∀ r, Walk (nextSearched payload) start r → InLoop payload r → IsSdes payload r →
    ItemsAdvance payload (packetEnd payload r) (r + 8)

theorem nextSearched_of_not_finds (hloop : InLoop payload r)
    (hnone : ∀ place, ¬Finds payload r place) :
    nextSearched payload r = some (packetEnd payload r) := by
  apply if_pos
  refine ⟨hloop, ?_⟩
  rintro ⟨place, hfinds⟩
  exact hnone place hfinds

/-- The search at an SDES packet. -/
theorem searchCname_sdes (hloop : InLoop payload r) (hsdes : IsSdes payload r) (fuel : Nat) :
    searchCname payload (fuel + 1) r =
      (walkItems payload (packetEnd payload r) (payload.length + 1) (r + 8) >>= fun csrcItem =>
        csrcItem.elim (searchCname payload fuel (packetEnd payload r)) fun place =>
          .ok (some place)) := by
  have hroom := hloop.room
  rw [searchCname, if_pos hloop, read_eq (by omega), read_eq (by omega),
    readPacketEnd_eq (by omega)]
  have hsdes' : byteAt payload (r + 1) = 202 ∧ byteAt payload r % 32 ≠ 0 := hsdes
  simp only [bind, Except.bind]
  rw [if_pos hsdes']
  cases walkItems payload (packetEnd payload r) (payload.length + 1) (r + 8) with
  | error fault => rfl
  | ok csrcItem => cases csrcItem <;> rfl

theorem searchCname_other (hloop : InLoop payload r) (hsdes : ¬IsSdes payload r) (fuel : Nat) :
    searchCname payload (fuel + 1) r = searchCname payload fuel (packetEnd payload r) := by
  have hroom := hloop.room
  rw [searchCname, if_pos hloop, read_eq (by omega), read_eq (by omega),
    readPacketEnd_eq (by omega)]
  exact if_neg hsdes

theorem searchCname_end : searchCname payload (fuel + 1) payload.length = .ok none := by
  rw [searchCname]
  exact if_neg fun h => absurd h.1 (lt_irrefl _)

theorem searchCname_succeeds_iff (walk : Walk (nextHeader payload) r payload.length)
    (hfuel : payload.length < r + fuel) :
    Succeeds (searchCname payload fuel r) ↔ SearchAdvances payload r := by
  induction fuel generalizing r with
  | zero =>
      have hle := le_of_walk walk
      omega
  | succ fuel ih =>
      rcases header_of_walk walk with rfl | ⟨hloop, hend, rest⟩
      · have hnone : nextSearched payload payload.length = none :=
          if_neg fun h => absurd h.1.1 (lt_irrefl _)
        rw [searchCname_end]
        apply iff_of_true (succeeds_ok _)
        intro s hs hloop
        rw [(walk_of_none hnone).mp hs] at hloop
        exact absurd hloop.1 (lt_irrefl _)
      · have hlt := lt_packetEnd payload r
        have hrest := ih rest (by omega)
        by_cases hsdes : IsSdes payload r
        · rw [searchCname_sdes hloop hsdes, succeeds_bind]
          have hitems := @walkItems_succeeds_iff payload (r + 8) (packetEnd payload r)
            (payload.length + 1) hend (by omega) (by omega)
          constructor
          · rintro ⟨found, hfound, hsucceeds⟩
            have hadvance := hitems.mp ⟨found, hfound⟩
            have hfinds := walkItems_eq_some_iff hend hfound
            cases found with
            | some place =>
                have hhere := (hfinds place).mp rfl
                have hnone : nextSearched payload r = none :=
                  if_neg fun h => h.2 ⟨place, hsdes, hhere⟩
                intro s hs _ _
                rw [(walk_of_none hnone).mp hs]
                exact hadvance
            | none =>
                have hnext : nextSearched payload r = some (packetEnd payload r) := by
                  apply nextSearched_of_not_finds hloop
                  intro place hhere
                  cases (hfinds place).mpr hhere.2
                intro s hs hsloop hssdes
                rcases (walk_of_some hnext).mp hs with rfl | hs
                · exact hadvance
                · exact hrest.mp hsucceeds s hs hsloop hssdes
          · intro hadvances
            rcases hitems.mpr (hadvances r (walk_refl _ r) hloop hsdes) with ⟨found, hfound⟩
            refine ⟨found, hfound, ?_⟩
            cases found with
            | some place => exact succeeds_ok _
            | none =>
                have hnext : nextSearched payload r = some (packetEnd payload r) := by
                  apply nextSearched_of_not_finds hloop
                  intro place hhere
                  cases (walkItems_eq_some_iff hend hfound place).mpr hhere.2
                apply hrest.mpr
                intro s hs
                exact hadvances s ((walk_of_some hnext).mpr (Or.inr hs))
        · have hnext := nextSearched_of_not_finds hloop fun place h => hsdes h.1
          rw [searchCname_other hloop hsdes, hrest]
          constructor
          · intro hadvances s hs hsloop hssdes
            rcases (walk_of_some hnext).mp hs with rfl | hs
            · exact absurd hssdes hsdes
            · exact hadvances s hs hsloop hssdes
          · intro hadvances s hs
            exact hadvances s ((walk_of_some hnext).mpr (Or.inr hs))

/-! ### `TryRtcp` -/

/-- The checks that a compound packet passes: its first packet is a report of version 2 without
padding, and the headers lead to the end of the payload. -/
structure Accepted (payload : Bytes) : Prop where
  long : headerSize ≤ payload.length
  version : byteAt payload 0 / 64 = 2
  type : byteAt payload 1 = 200 ∨ byteAt payload 1 = 201
  unpadded : byteAt payload 0 / 32 % 2 = 0
  walk : Walk (nextHeader payload) (packetEnd payload 0) payload.length

variable {cfg : Config} {packet : UdpPacket}

theorem toU64_len (hlen : 8 ≤ packet.len) :
    toU64 ((packet.len : Int) - 8) = packet.payload.length := by
  have hsized := packet.sized
  have hlt := packet.len_lt
  unfold toU64
  omega

/-- Behind the checks the CNAME is searched for. -/
theorem tryRtcp_of_accepted (hdetect : cfg.rtcpDetect = true) (accepted : Accepted packet.payload) :
    tryRtcp cfg packet =
      (searchCname packet.payload (packet.payload.length + 1) (packetEnd packet.payload 0) >>=
        fun csrcItem =>
          .ok { result := true
                reported := csrcItem.bind fun place =>
                  describe cfg packet (itemText packet place) }) := by
  have hsized := packet.sized
  have hlong : 4 ≤ packet.payload.length := accepted.long
  have htype : ¬(byteAt packet.payload 1 ≠ 200 ∧ byteAt packet.payload 1 ≠ 201) := by
    rcases accepted.type with h | h <;> simp [h]
  rcases @walkHeaders_eq packet.payload (packet.payload.length + 1) (packetEnd packet.payload 0)
    (by omega) (by omega) with ⟨r, hr, walk, hend⟩
  have hplace : r = packet.payload.length :=
    ((walk_of_none hend).mp (accepted.walk.to_end nextHeader_end walk)).symm
  rw [hplace] at hr
  unfold tryRtcp
  rw [if_neg (by rw [hdetect]; decide), toU64_len (by omega),
    if_neg (not_lt.mpr accepted.long), read_eq (by omega), read_eq (by omega),
    readPacketEnd_eq (by omega)]
  simp only [bind, Except.bind, hr]
  rw [if_neg (not_not.mpr accepted.version), if_neg htype,
    if_neg (not_not.mpr accepted.unpadded), if_neg (not_not.mpr rfl)]
  cases searchCname packet.payload (packet.payload.length + 1) (packetEnd packet.payload 0) with
  | error fault => rfl
  | ok csrcItem => cases csrcItem <;> rfl

theorem tryRtcp_of_rejected (hlen : 8 ≤ packet.len) (rejected : ¬Accepted packet.payload) :
    tryRtcp cfg packet = .ok { result := false } := by
  unfold tryRtcp
  by_cases hdetect : cfg.rtcpDetect = false
  · exact if_pos hdetect
  rw [if_neg hdetect, toU64_len hlen]
  by_cases hshort : packet.payload.length < headerSize
  · exact if_pos hshort
  have hlong : 4 ≤ packet.payload.length := not_lt.mp hshort
  rw [if_neg hshort, read_eq (by omega), read_eq (by omega), readPacketEnd_eq (by omega)]
  simp only [bind, Except.bind]
  by_cases hversion : byteAt packet.payload 0 / 64 = 2
  · rw [if_neg (not_not.mpr hversion)]
    by_cases htype : byteAt packet.payload 1 ≠ 200 ∧ byteAt packet.payload 1 ≠ 201
    · rw [if_pos htype]
    · rw [if_neg htype]
      by_cases hunpadded : byteAt packet.payload 0 / 32 % 2 = 0
      · rw [if_neg (not_not.mpr hunpadded)]
        rcases @walkHeaders_eq packet.payload (packet.payload.length + 1)
          (packetEnd packet.payload 0) (by omega) (by omega) with ⟨r, hr, walk, -⟩
        rw [hr]
        apply if_pos
        rintro rfl
        apply rejected
        exact ⟨hlong, hversion, by tauto, hunpadded, walk⟩
      · rw [if_pos hunpadded]
  · rw [if_pos hversion]

/-- A length that does not even count the UDP header passes for a huge one. -/
theorem tryRtcp_of_short (hdetect : cfg.rtcpDetect = true) (hlen : packet.len < 8) :
    tryRtcp cfg packet = .error .outside := by
  have hsized := packet.sized
  have hwraps : ¬toU64 ((packet.len : Int) - 8) < headerSize := by
    unfold toU64 headerSize
    omega
  unfold tryRtcp
  rw [if_neg (by rw [hdetect]; decide), if_neg hwraps, read_eq_outside (by omega)]
  rfl

/-- `TryRtcp` returns, and reads its walks in the payload, exactly when the UDP length counts the
UDP header and each item that the search steps over has a length in the payload that is not 0. -/
theorem tryRtcp_returns_iff (cfg : Config) (packet : UdpPacket) :
    Succeeds (tryRtcp cfg packet) ↔
      (cfg.rtcpDetect = true → 8 ≤ packet.len ∧
        (Accepted packet.payload →
          SearchAdvances packet.payload (packetEnd packet.payload 0))) := by
  by_cases hdetect : cfg.rtcpDetect = true
  · simp only [hdetect, forall_const]
    by_cases hlen : 8 ≤ packet.len
    · simp only [hlen, true_and]
      by_cases haccepted : Accepted packet.payload
      · simp only [haccepted, forall_const]
        have hsearch := @searchCname_succeeds_iff packet.payload (packet.payload.length + 1)
          (packetEnd packet.payload 0) haccepted.walk (by omega)
        rw [tryRtcp_of_accepted hdetect haccepted, ← hsearch, succeeds_bind]
        constructor
        · rintro ⟨found, hfound, -⟩
          exact ⟨found, hfound⟩
        · rintro ⟨found, hfound⟩
          refine ⟨found, hfound, ?_⟩
          cases found <;> exact succeeds_ok _
      · rw [tryRtcp_of_rejected hlen haccepted]
        exact iff_of_true (succeeds_ok _) fun h => absurd h haccepted
    · rw [tryRtcp_of_short hdetect (by omega)]
      exact iff_of_false (not_succeeds_error _) fun h => hlen h.1
  · have hreturns : tryRtcp cfg packet = .ok { result := false } := by
      unfold tryRtcp
      exact if_pos (Bool.eq_false_iff.mpr hdetect)
    rw [hreturns]
    exact iff_of_true (succeeds_ok _) fun h => absurd h hdetect

/-- A receiver report, and an SDES packet whose first item is a NOTE without text. -/
def emptyNote : UdpPacket where
  len := 32
  payload := [0x80, 201, 0, 1, 0, 0, 0, 1] ++
    [0x81, 202, 0, 3, 0, 0, 0, 1, 7, 0, 1, 3, 101, 120, 116, 0]
  sized := by rfl
  len_lt := by decide

/-- The item of length 0 is looked at for ever. -/
theorem empty_note_endless : ¬Succeeds (tryRtcp { rtcpDetect := true } emptyNote) := by
  have hfault : tryRtcp { rtcpDetect := true } emptyNote = .error .endless := by
    decide +kernel
  rw [hfault]
  exact not_succeeds_error _

end OrkAudio.Rtcp
