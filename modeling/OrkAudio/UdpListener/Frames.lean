import OrkAudio.UdpListener.Model

/-! Which frames of a datagram reach `HandlePacket`. -/

namespace OrkAudio.UdpListener

open Lib

variable {received : List UInt8} {place other : Nat}

/-- The length that a header at `place` gives its frame. -/
def frameLength (received : List UInt8) (place : Nat) : Nat :=
  totalPacketLength (frameBuffer received) place

/-- A header with all of its frame. -/
def Complete (received : List UInt8) (place : Nat) : Prop :=
  IsHeader (frameBuffer received) place ∧
    place + headerSize + frameLength received place ≤ received.length

/-- Only complete frames stand between the two places. -/
inductive Leads (received : List UInt8) : Nat → Nat → Prop
  | here (place : Nat) : Leads received place place
  | next {place other : Nat} (complete : Complete received place)
      (leads : Leads received (place + frameLength received place + headerSize) other) :
      Leads received place other

/-- The frames lie in what was received, and none is missed that stands behind complete ones. -/
def Delivers (received : List UInt8) (start : Nat) (frames : List Frame) : Prop :=
  (∀ frame ∈ frames, frame.frameOffset + headerSize + frame.caplen ≤ received.length) ∧
    ∀ place, Leads received start place → Complete received place →
      { frameOffset := place, caplen := frameLength received place } ∈ frames

/-- The loop ends, and has handed on what it should. -/
def FramesDelivered (received : List UInt8) : Prop :=
  ∃ frames, receive received = some frames ∧ Delivers received 0 frames

/-- What a header may say: neither lacks its frame the last byte alone, nor does an empty frame
end the datagram. -/
structure WellCut (received : List UInt8) (place : Nat) : Prop where
  cut : place + headerSize < received.length →
    place + headerSize + frameLength received place ≠ received.length + 1
  empty : place + headerSize = received.length → frameLength received place ≠ 0

/-- The headers behind complete frames are all well cut. -/
def AllWellCut (received : List UInt8) (start : Nat) : Prop :=
  ∀ place, Leads received start place → IsHeader (frameBuffer received) place →
    WellCut received place

theorem Leads.le (leads : Leads received place other) : place ≤ other := by
  induction leads with
  | here => exact le_rfl
  | next _ _ ih => omega

theorem Leads.eq_of_not_complete (leads : Leads received place other)
    (hincomplete : ¬Complete received place) : other = place := by
  cases leads with
  | here => rfl
  | next complete => exact absurd complete hincomplete

theorem Leads.cases_of_complete (leads : Leads received place other) :
    other = place ∨
      Leads received (place + frameLength received place + headerSize) other := by
  cases leads with
  | here => exact Or.inl rfl
  | next _ leads => exact Or.inr leads

/-! ### Where the loop stops -/

/-- Nothing is handed on from an incomplete frame on. -/
theorem delivers_nil (hincomplete : ¬Complete received place) : Delivers received place [] := by
  refine ⟨by simp, ?_⟩
  intro other leads complete
  rw [leads.eq_of_not_complete hincomplete] at complete
  exact absurd complete hincomplete

theorem allWellCut_of_not_complete (hincomplete : ¬Complete received place)
    (hheader : IsHeader (frameBuffer received) place → WellCut received place) :
    AllWellCut received place := by
  intro other leads hother
  rw [leads.eq_of_not_complete hincomplete] at hother ⊢
  exact hheader hother

/-! ### A complete frame -/

theorem delivers_cons_iff (complete : Complete received place) (frames : List Frame) :
    Delivers received place
        ({ frameOffset := place, caplen := frameLength received place } :: frames) ↔
      Delivers received (place + frameLength received place + headerSize) frames := by
  constructor
  · intro delivers
    refine ⟨fun frame hframe => delivers.1 frame (List.mem_cons_of_mem _ hframe), ?_⟩
    intro other leads hother
    have hmem := delivers.2 other (Leads.next complete leads) hother
    rcases List.mem_cons.mp hmem with heq | hmem
    · have hplace : other = place := congrArg Frame.frameOffset heq
      have hle := leads.le
      have hsize : headerSize = 9 := rfl
      omega
    · exact hmem
  · intro delivers
    constructor
    · intro frame hframe
      rcases List.mem_cons.mp hframe with rfl | hframe
      · exact complete.2
      · exact delivers.1 frame hframe
    · intro other leads hother
      rcases leads.cases_of_complete with rfl | leads
      · exact List.mem_cons_self
      · exact List.mem_cons_of_mem _ (delivers.2 other leads hother)

theorem allWellCut_iff (complete : Complete received place)
    (hcut : WellCut received place) :
    AllWellCut received place ↔
      AllWellCut received (place + frameLength received place + headerSize) := by
  constructor
  · intro hall other leads
    exact hall other (Leads.next complete leads)
  · intro hall other leads
    rcases leads.cases_of_complete with rfl | leads
    · exact fun _ => hcut
    · exact hall other leads

/-! ### The loop -/

/-- One turn, where the datagram has room for a header. -/
theorem deencapsulate_succ (hlong : headerSize ≤ received.length)
    (hbuffer : received.length ≤ bufferSize) (fuel place : Nat) :
    deencapsulate (frameBuffer received) received.length (fuel + 1) place =
      if place + headerSize < received.length ∧ IsHeader (frameBuffer received) place ∧
          place + headerSize + frameLength received place ≤ received.length + 1 then
        (deencapsulate (frameBuffer received) received.length fuel
            (place + frameLength received place + headerSize)).map
          ({ frameOffset := place, caplen := frameLength received place } :: ·)
      else some [] := by
  have hsize : headerSize = 9 := rfl
  have hlimit : bufferSize = 65000 := rfl
  have hloop : toU64 ((received.length : Int) - headerSize) = received.length - headerSize := by
    unfold toU64
    omega
  rw [deencapsulate, hloop]
  change (if place < received.length - headerSize then
      if IsHeader (frameBuffer received) place then
        if frameLength received place >
            toU64 ((received.length : Int) - place - headerSize + 1) then some []
        else _
      else some []
    else some []) = _
  have hcount (hroom : place + headerSize < received.length) :
      toU64 ((received.length : Int) - place - headerSize + 1) =
        received.length - place - headerSize + 1 := by
    unfold toU64
    omega
  by_cases hturn : place + headerSize < received.length ∧
      IsHeader (frameBuffer received) place ∧
        place + headerSize + frameLength received place ≤ received.length + 1
  · rw [if_pos hturn]
    rcases hturn with ⟨hroom, hheader, hfits⟩
    rw [if_pos (by omega), if_pos hheader, hcount hroom]
    exact if_neg (by omega)
  · rw [if_neg hturn]
    split_ifs with hroom hheader hlonger
    · rfl
    · have hroom' : place + headerSize < received.length := by omega
      rw [hcount hroom'] at hlonger
      exact absurd ⟨hroom', hheader, by omega⟩ hturn
    · rfl
    · rfl

/-- Every turn passes a header, so that the turns are no more than the bytes. -/
theorem deencapsulate_isSome (hlong : headerSize ≤ received.length)
    (hbuffer : received.length ≤ bufferSize) {fuel : Nat}
    (hfuel : received.length + 1 < fuel + place) (hpos : 0 < fuel) :
    ∃ frames, deencapsulate (frameBuffer received) received.length fuel place = some frames := by
  induction fuel generalizing place with
  | zero => exact absurd hpos (lt_irrefl 0)
  | succ fuel ih =>
      have hsize : headerSize = 9 := rfl
      rw [deencapsulate_succ hlong hbuffer]
      split_ifs with hturn
      · have hrest := @ih (place + frameLength received place + headerSize) (by omega)
        rcases hrest (by omega) with ⟨frames, hframes⟩
        exact ⟨_, by rw [hframes, Option.map_some]⟩
      · exact ⟨[], rfl⟩

/-- From each place on the right frames are delivered exactly when the headers are well cut. -/
theorem deencapsulate_delivers_iff (hlong : headerSize ≤ received.length)
    (hbuffer : received.length ≤ bufferSize) {fuel : Nat} {frames : List Frame}
    (hframes : deencapsulate (frameBuffer received) received.length fuel place = some frames) :
    Delivers received place frames ↔ AllWellCut received place := by
  have hsize : headerSize = 9 := rfl
  induction fuel generalizing place frames with
  | zero => cases hframes
  | succ fuel ih =>
      rw [deencapsulate_succ hlong hbuffer] at hframes
      split_ifs at hframes with hturn
      · obtain ⟨rest, hrest, rfl⟩ := Option.map_eq_some_iff.mp hframes
        rcases hturn with ⟨hroom, hheader, hfits⟩
        by_cases hshort :
            place + headerSize + frameLength received place = received.length + 1
        · -- the byte behind the datagram is taken for the last one of the frame
          apply iff_of_false
          · intro delivers
            have hwithin := delivers.1 _ List.mem_cons_self
            simp only at hwithin
            omega
          · intro hall
            exact (hall place (Leads.here place) hheader).cut hroom hshort
        · have complete : Complete received place := ⟨hheader, by omega⟩
          have hcut : WellCut received place := ⟨fun _ => hshort, by omega⟩
          rw [delivers_cons_iff complete, allWellCut_iff complete hcut]
          exact ih hrest
      · obtain rfl := Option.some.inj hframes
        by_cases complete : Complete received place
        · -- an empty frame at the end, for which the loop has no turn left
          have hend := complete.2
          have hlast : place + headerSize = received.length := by
            by_contra hne
            exact hturn ⟨by omega, complete.1, by omega⟩
          apply iff_of_false
          · intro delivers
            exact List.not_mem_nil (delivers.2 place (Leads.here place) complete)
          · intro hall
            exact (hall place (Leads.here place) complete.1).empty hlast (by omega)
        · apply iff_of_true (delivers_nil complete)
          apply allWellCut_of_not_complete complete
          intro hheader
          constructor
          · intro hroom hshort
            exact hturn ⟨hroom, hheader, by omega⟩
          · intro hlast hzero
            exact complete ⟨hheader, by omega⟩

/-! ### Datagrams without room for a header -/

theorem byteAt_frameBuffer (hplace : received.length ≤ place) :
    byteAt (frameBuffer received) place = 0 := by
  have hzero : (frameBuffer received).getD place 0 = 0 := by
    rw [List.getD_eq_getElem?_getD, frameBuffer, List.getElem?_append_right hplace,
      List.getElem?_replicate]
    split_ifs <;> rfl
  rw [byteAt, hzero]
  rfl

/-- A header that is cut off is found in the zeros behind it all the same. -/
theorem receive_short (hpos : 0 < received.length) (hshort : received.length < headerSize)
    (hheader : IsHeader (frameBuffer received) 0) :
    receive received =
      if received.length = 8 ∧ frameLength received 0 ≠ 0 then some []
      else some [{ frameOffset := 0, caplen := 0 }] := by
  have hsize : headerSize = 9 := rfl
  have hturn : ∀ place, place ≤ 9 → place < toU64 ((received.length : Int) - headerSize) := by
    intro place hplace
    unfold toU64
    omega
  have halien : ¬IsHeader (frameBuffer received) 9 := by
    intro h
    have hfirst := h.1
    rw [protocol, byteAt_frameBuffer (by omega), byteAt_frameBuffer (by omega)] at hfirst
    exact absurd hfirst (by decide)
  have hempty : frameLength received 0 = 0 →
      receive received = some [{ frameOffset := 0, caplen := 0 }] := by
    intro hzero
    unfold frameLength at hzero
    rw [receive, if_pos ⟨hpos, hheader⟩, deencapsulate, if_pos (hturn 0 (by omega)),
      if_pos hheader]
    simp only [hzero]
    have hnext : 0 + 0 + headerSize = 9 := rfl
    rw [if_neg (Nat.not_lt_zero _), hnext, deencapsulate, if_pos (hturn 9 le_rfl),
      if_neg halien]
    rfl
  by_cases height : received.length = 8
  · by_cases hzero : frameLength received 0 = 0
    · rw [if_neg (fun h => h.2 hzero)]
      exact hempty hzero
    · rw [if_pos ⟨height, hzero⟩, receive, if_pos ⟨hpos, hheader⟩, deencapsulate,
        if_pos (hturn 0 (by omega)), if_pos hheader]
      have hcount : toU64 ((received.length : Int) - (0 : Nat) - headerSize + 1) = 0 := by
        rw [height]
        rfl
      apply if_pos
      rw [hcount]
      exact Nat.pos_of_ne_zero hzero
  · rw [if_neg (fun h => height h.1)]
    apply hempty
    rw [frameLength, totalPacketLength, byteAt_frameBuffer (by omega),
      byteAt_frameBuffer (by omega)]

/-- What a datagram must be like: a header without room for its length does not begin it, unless
it says that there is more, and the headers behind complete frames are well cut. -/
structure WellFormed (received : List UInt8) : Prop where
  short : received.length < headerSize → IsHeader (frameBuffer received) 0 →
    received.length = 8 ∧ frameLength received 0 ≠ 0
  cut : AllWellCut received 0

/-- All complete frames of a datagram and nothing behind its end reach `HandlePacket`, exactly when
it is well formed. -/
theorem frames_delivered_iff (hpos : 0 < received.length)
    (hbuffer : received.length ≤ bufferSize) :
    FramesDelivered received ↔ WellFormed received := by
  have hsize : headerSize = 9 := rfl
  by_cases hheader : IsHeader (frameBuffer received) 0
  · by_cases hshort : received.length < headerSize
    · have hincomplete : ¬Complete received 0 := fun complete => by
        have hend := complete.2
        omega
      have hcut : AllWellCut received 0 := by
        apply allWellCut_of_not_complete hincomplete
        intro _
        exact ⟨by omega, by omega⟩
      have hreceive := receive_short hpos hshort hheader
      by_cases hmore : received.length = 8 ∧ frameLength received 0 ≠ 0
      · rw [if_pos hmore] at hreceive
        exact iff_of_true ⟨[], hreceive, delivers_nil hincomplete⟩ ⟨fun _ _ => hmore, hcut⟩
      · rw [if_neg hmore] at hreceive
        apply iff_of_false
        · intro delivered
          rcases delivered with ⟨frames, hframes, delivers⟩
          rw [hreceive] at hframes
          obtain rfl := Option.some.inj hframes
          have hwithin := delivers.1 _ List.mem_cons_self
          simp only at hwithin
          omega
        · intro wellFormed
          exact hmore (wellFormed.short hshort hheader)
    · have hlong : headerSize ≤ received.length := not_lt.mp hshort
      have hreceive : receive received =
          deencapsulate (frameBuffer received) received.length (received.length + 2) 0 :=
        if_pos ⟨hpos, hheader⟩
      rcases @deencapsulate_isSome received 0 hlong hbuffer (received.length + 2)
        (by omega) (by omega) with ⟨frames, hframes⟩
      have hiff := deencapsulate_delivers_iff hlong hbuffer hframes
      constructor
      · intro delivered
        rcases delivered with ⟨others, hothers, delivers⟩
        rw [hreceive, hframes] at hothers
        obtain rfl := Option.some.inj hothers
        exact ⟨fun h => absurd h hshort, hiff.mp delivers⟩
      · intro wellFormed
        exact ⟨frames, hreceive.trans hframes, hiff.mpr wellFormed.cut⟩
  · have hincomplete : ¬Complete received 0 := fun complete => hheader complete.1
    have hreceive : receive received = some [] := if_neg fun h => hheader h.2
    refine iff_of_true ⟨[], hreceive, delivers_nil hincomplete⟩ ⟨fun _ h => absurd h hheader, ?_⟩
    exact allWellCut_of_not_complete hincomplete fun h => absurd h hheader

/-- A header that announces `length` bytes, and two bytes. -/
def sampleDatagram (length : UInt8) : List UInt8 :=
  [0xbe, 0xef, 0x01, 0, 0, 0, 1, 0, length, 7, 9]

theorem sample_frames_delivered :
    FramesDelivered (sampleDatagram 2) ↔ WellFormed (sampleDatagram 2) :=
  frames_delivered_iff (by decide) (by decide)

/-- A frame of three bytes of which two were received is handed on. -/
theorem frame_past_datagram : ¬FramesDelivered (sampleDatagram 3) := by
  intro delivered
  rcases delivered with ⟨frames, hframes, delivers⟩
  have hreceive : receive (sampleDatagram 3) = some [{ frameOffset := 0, caplen := 3 }] := by
    decide +kernel
  rw [hreceive] at hframes
  obtain rfl := Option.some.inj hframes
  exact absurd (delivers.1 _ List.mem_cons_self) (by decide)

end OrkAudio.UdpListener
