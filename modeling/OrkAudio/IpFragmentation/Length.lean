import OrkAudio.IpFragmentation.Isolation

/-! The length of the packets handed out.

Sizes are added up without a bound, the length field of a header holds 16 bits. Within the
replay an overflow breaks the next contiguity check, so that only the last piece can carry
a packet over the edge. -/

namespace OrkAudio

open Lib

/-! ### Pieces without a gap -/

/-- The pieces follow each other without a gap or an overlap, from this offset on. -/
def Contiguous : Nat → List IpPacket → Prop
  | _, [] => True
  | offset, piece :: rest =>
      piece.offset = offset ∧ Contiguous (offset + piece.payloadLen) rest

instance decidableContiguous : (offset : Nat) → (pieces : List IpPacket) →
    Decidable (Contiguous offset pieces)
  | _, [] => .isTrue trivial
  | offset, piece :: rest =>
      have := decidableContiguous (offset + piece.payloadLen) rest
      inferInstanceAs (Decidable (_ ∧ _))

/-- The bytes the pieces carry together. -/
def carried (pieces : List IpPacket) : Nat := (pieces.flatMap IpPacket.payload).length

@[simp] theorem carried_nil : carried [] = 0 := rfl

@[simp] theorem carried_cons (piece : IpPacket) (rest : List IpPacket) :
    carried (piece :: rest) = piece.payloadLen + carried rest := by
  simp [carried]

@[simp] theorem carried_append (front back : List IpPacket) :
    carried (front ++ back) = carried front + carried back := by
  simp [carried]

theorem contiguous_copies {offset : Nat} {pieces : List IpPacket} :
    Contiguous offset (pieces.map IpPacket.copy) ↔ Contiguous offset pieces := by
  induction pieces generalizing offset with
  | nil => rfl
  | cons piece pieces ih => simp [Contiguous, ih]

namespace IpPacket

theorem offset_le (packet : IpPacket) : packet.offset ≤ 65528 := by
  unfold offset IpHeader.offset
  omega

theorem packetLen_lt (packet : IpPacket) : packet.packetLen < 65536 := by
  have hhigh := (packet.bytes.getD 2 0).toNat_lt
  have hlow := (packet.bytes.getD 3 0).toNat_lt
  unfold packetLen IpHeader.packetLen IpHeader.byteAt
  omega

theorem headerLen_le (packet : IpPacket) : packet.headerLen ≤ 60 := by
  unfold headerLen IpHeader.headerLen
  omega

theorem payloadLen_lt (packet : IpPacket) : packet.payloadLen < 65536 := by
  have hlen := packet.payloadLen_eq
  have hpacket := packet.packetLen_lt
  omega

end IpPacket

namespace Composed

variable {first : IpPacket} {rest : List IpPacket} {packet : List UInt8}

theorem length (composed : Composed (first :: rest) packet) :
    packet.length = first.headerLen + carried (first :: rest) := by
  rcases composed with ⟨head, tail, len, hpieces, rfl⟩
  rcases List.cons.inj hpieces with ⟨rfl, rfl⟩
  rw [IpHeader.length_setPacketLen, List.length_append, IpPacket.header_length, carried]

theorem length_ge (composed : Composed (first :: rest) packet) : 20 ≤ packet.length := by
  have hlen := first.payloadLen_eq
  have hstruct := first.struct_le
  have hheader := first.header_le
  rw [composed.length, carried_cons]
  unfold IpPacket.packetLen IpPacket.headerLen at hlen
  unfold IpPacket.headerLen
  omega

theorem headerLen (composed : Composed (first :: rest) packet) :
    IpHeader.headerLen packet = first.headerLen := by
  rcases composed with ⟨head, tail, len, hpieces, rfl⟩
  rcases List.cons.inj hpieces with ⟨rfl, rfl⟩
  have htake : 20 ≤ (first.bytes.take first.packetLen).length := by
    rw [List.length_take]
    exact le_min first.struct_le (le_trans first.struct_le first.captured)
  calc IpHeader.headerLen (IpHeader.setPacketLen
        (first.header ++ (first :: rest).flatMap IpPacket.payload) len)
      = IpHeader.headerLen (first.header ++ (first :: rest).flatMap IpPacket.payload) :=
        (IpHeader.sameButLength_setPacketLen _ _).headerLen
    _ = IpHeader.headerLen (first.bytes.take first.packetLen ++
          rest.flatMap IpPacket.payload) := by
        rw [first.take_packetLen, List.flatMap_cons, List.append_assoc]
    _ = IpHeader.headerLen (first.bytes.take first.packetLen) :=
        (IpHeader.sameButLength_append _ htake).headerLen
    _ = first.headerLen := (IpHeader.sameButLength_take first.struct_le).headerLen

end Composed

/-! ### The replay -/

/-- What the replay has put together: the length field is right up to its width, and the
last piece, which begins at `edge`, reaches less than 65536 bytes further. -/
structure Joined (first : IpPacket) (rest : List IpPacket) (edge : Nat) (packet : List UInt8) :
    Prop where
  composed : Composed (first :: rest) packet
  packetLen : IpHeader.packetLen packet = packet.length % 65536
  carried_lt : carried (first :: rest) < edge + 65536

namespace Joined

variable {first : IpPacket} {rest : List IpPacket} {edge : Nat} {packet : List UInt8}

theorem single (first : IpPacket) : Joined first [] 0 (first.bytes.take first.packetLen) := by
  have hlen := first.packetLen_lt
  refine ⟨Composed.single first, ?_, ?_⟩
  · have hlength : (first.bytes.take first.packetLen).length = first.packetLen := by
      rw [List.length_take]
      exact Nat.min_eq_left first.captured
    rw [hlength, Nat.mod_eq_of_lt hlen]
    exact IpHeader.packetLen_take first.struct_le
  · have hpayload := first.payloadLen_lt
    rw [carried_cons, carried_nil]
    omega

/-- The contiguity check against the length field is the one against the bytes carried,
as long as these and the header fit into 16 bits. After an overflow it fails. -/
theorem payloadLen_eq_offset_iff (joined : Joined first rest edge packet) {next : IpPacket}
    (habove : edge < next.offset) :
    IpHeader.payloadLen packet = next.offset ↔
      next.offset = carried (first :: rest) ∧ first.headerLen + next.offset < 65536 := by
  have hlength := joined.composed.length
  have hshort := joined.carried_lt
  have hoffset := next.offset_le
  have hheader := first.headerLen_le
  rw [IpHeader.payloadLen, joined.composed.headerLen, joined.packetLen, hlength]
  split_ifs with hle
  · omega
  · -- the header alone is longer than the length field says
    omega

theorem append (joined : Joined first rest edge packet) {next : IpPacket}
    (hnext : IpHeader.payloadLen packet = next.offset) (habove : edge < next.offset) :
    Joined first (rest ++ [next]) next.offset (IpHeader.setPacketLen (packet ++ next.payload)
      (IpHeader.headerLen (packet ++ next.payload) +
        IpHeader.payloadLen (packet ++ next.payload) + next.payloadLen)) := by
  have hlong := joined.composed.length_ge
  have hsame := IpHeader.sameButLength_append next.payload hlong
  have hpacket : IpHeader.packetLen (packet ++ next.payload) = IpHeader.packetLen packet := by
    rw [IpHeader.packetLen, IpHeader.packetLen, IpHeader.byteAt_append (by omega),
      IpHeader.byteAt_append (by omega)]
  have hpayload : IpHeader.payloadLen (packet ++ next.payload) = next.offset := by
    rw [← hnext, IpHeader.payloadLen, IpHeader.payloadLen, hpacket, hsame.headerLen]
  rcases (joined.payloadLen_eq_offset_iff habove).mp hnext with ⟨hoffset, -⟩
  refine ⟨joined.composed.append next _, ?_, ?_⟩
  · rw [IpHeader.packetLen_setPacketLen (by rw [List.length_append]; omega),
      IpHeader.length_setPacketLen, List.length_append, IpPacket.payload_length,
      joined.composed.length, hpayload, hsame.headerLen, joined.composed.headerLen, hoffset]
  · have hlen := next.payloadLen_lt
    rw [← List.cons_append, carried_append, carried_cons next, carried_nil, ← hoffset]
    omega

/-- A replay in the order of the offsets is kept exactly when the pieces leave no gap and
each of them begins within the width of the length field. -/
theorem replay {algorithm : ForwardSequential} (now : Int)
    (joined : Joined first rest edge packet) (hdata : algorithm.packetData = some packet)
    (hdrop : algorithm.drop = false) {pieces : List IpPacket}
    (sorted : SortedBy IpPacket.offset pieces)
    (habove : ∀ piece ∈ pieces, edge < piece.offset) :
    ((algorithm.replay now pieces).drop = false ↔
      Contiguous (carried (first :: rest)) pieces ∧
        ∀ piece ∈ pieces, first.headerLen + piece.offset < 65536) ∧
    ((algorithm.replay now pieces).drop = false → ∃ whole edge,
      (algorithm.replay now pieces).packetData = some whole ∧
        Joined first (rest ++ pieces) edge whole) := by
  induction pieces generalizing algorithm rest edge packet with
  | nil =>
      refine ⟨by simp [ForwardSequential.replay, hdrop, Contiguous], fun _ => ?_⟩
      rw [List.append_nil]
      exact ⟨packet, edge, hdata, joined⟩
  | cons next pieces ih =>
      have hnext := habove next List.mem_cons_self
      have hcheck := joined.payloadLen_eq_offset_iff hnext
      rcases List.pairwise_cons.mp sorted with ⟨hfirst, hrest⟩
      by_cases hoffset : IpHeader.payloadLen packet = next.offset
      · have hadd : (algorithm.addFragment now next).drop = false ∧
            (algorithm.addFragment now next).packetData = some (IpHeader.setPacketLen
              (packet ++ next.payload) (IpHeader.headerLen (packet ++ next.payload) +
                IpHeader.payloadLen (packet ++ next.payload) + next.payloadLen)) := by
          simp [ForwardSequential.addFragment, hdata, hoffset, hdrop]
        have hih := ih (joined.append hoffset hnext) hadd.2 hadd.1 hrest hfirst
        simp only [ForwardSequential.replay, hadd.1, Bool.false_eq_true, if_false]
        refine ⟨?_, fun hkept => ?_⟩
        · rw [hih.1, Contiguous, List.forall_mem_cons, ← List.cons_append, carried_append,
            carried_cons next, carried_nil, Nat.add_zero]
          exact ⟨fun hkept => ⟨⟨(hcheck.mp hoffset).1, hkept.1⟩, (hcheck.mp hoffset).2, hkept.2⟩,
            fun hkept => ⟨hkept.1.2, hkept.2.2⟩⟩
        · rcases hih.2 hkept with ⟨whole, last, hwhole, hjoined⟩
          rw [List.append_assoc] at hjoined
          exact ⟨whole, last, hwhole, hjoined⟩
      · have hadd : (algorithm.addFragment now next).drop = true := by
          simp [ForwardSequential.addFragment, hdata, hoffset]
        simp only [ForwardSequential.replay, hadd, if_true, Bool.true_eq_false, false_iff,
          false_implies, and_true]
        intro hkept
        exact hoffset (hcheck.mpr ⟨hkept.1.1, hkept.2 next List.mem_cons_self⟩)

end Joined

theorem replay_start (now : Int) {first : IpPacket} {rest : List IpPacket}
    (sorted : SortedBy IpPacket.offset (first :: rest)) :
    ((ForwardSequential.replay now {} (first :: rest)).drop = false ↔
      Contiguous 0 (first :: rest) ∧
        ∀ piece ∈ first :: rest, first.headerLen + piece.offset < 65536) ∧
    ((ForwardSequential.replay now {} (first :: rest)).drop = false → ∃ whole edge,
      (ForwardSequential.replay now {} (first :: rest)).packetData = some whole ∧
        Joined first rest edge whole) := by
  have hheader := first.headerLen_le
  by_cases hoffset : first.offset = 0
  · have hadd : (ForwardSequential.addFragment now {} first).drop = false ∧
        (ForwardSequential.addFragment now {} first).packetData =
          some (first.bytes.take first.packetLen) := by
      simp [ForwardSequential.addFragment, hoffset]
    rcases List.pairwise_cons.mp sorted with ⟨hfirst, hrest⟩
    rw [hoffset] at hfirst
    have hreplay := (Joined.single first).replay now hadd.2 hadd.1 hrest hfirst
    simp only [ForwardSequential.replay, hadd.1, Bool.false_eq_true, if_false]
    refine ⟨?_, hreplay.2⟩
    rw [hreplay.1, Contiguous, List.forall_mem_cons, carried_cons, carried_nil, Nat.zero_add,
      Nat.add_zero]
    exact ⟨fun hkept => ⟨⟨hoffset, hkept.1⟩, by omega, hkept.2⟩,
      fun hkept => ⟨hkept.1.2, hkept.2.2⟩⟩
  · have hadd : (ForwardSequential.addFragment now {} first).drop = true := by
      simp [ForwardSequential.addFragment, hoffset]
    simp only [ForwardSequential.replay, hadd, if_true, Bool.true_eq_false, false_iff,
      false_implies, and_true]
    exact fun hkept => hoffset hkept.1.1

/-! ### One fragment more -/

/-- With the fragment the entry has pieces of the announced size, without a gap from the
start on and each beginning within the width of the length field. -/
structure Fills (algorithm : WaitAllAndSort) (fragment first : IpPacket)
    (rest : List IpPacket) : Prop where
  insert : insertByKey IpPacket.offset fragment.copy algorithm.orderedFragments =
    some (first :: rest)
  size : algorithm.currentSize + fragment.payloadLen =
    if fragment.isLastFragment then fragment.offset + fragment.payloadLen
    else algorithm.finalSize
  contiguous : Contiguous 0 (first :: rest)
  begins : ∀ piece ∈ first :: rest, first.headerLen + piece.offset < 65536

/-- An entry of the table: neither given up nor complete, its pieces in order. -/
structure Waiting (algorithm : WaitAllAndSort) : Prop where
  notDropped : algorithm.drop = false
  notComplete : algorithm.isComplete = false
  sorted : SortedBy IpPacket.offset algorithm.orderedFragments

namespace Waiting

variable {algorithm : WaitAllAndSort}

theorem start : Waiting {} := ⟨rfl, rfl, List.Pairwise.nil⟩

/-- A fragment completes the entry exactly when it fills it, and then does not make it
dropped; one that does neither leaves an entry that waits on. -/
theorem addFragment (waiting : Waiting algorithm) (now : Int) (fragment : IpPacket) :
    (∃ first rest whole edge, Fills algorithm fragment first rest ∧
      Joined first rest edge whole ∧
      (algorithm.addFragment now fragment).isComplete = true ∧
      (algorithm.addFragment now fragment).drop = false ∧
      (algorithm.addFragment now fragment).packetData = some whole) ∨
    ((∀ first rest, ¬ Fills algorithm fragment first rest) ∧
      (algorithm.addFragment now fragment).isComplete = false ∧
      ((algorithm.addFragment now fragment).drop = false →
        Waiting (algorithm.addFragment now fragment))) := by
  cases hinsert : insertByKey IpPacket.offset fragment.copy algorithm.orderedFragments with
  | none =>
      have hsame : algorithm.addFragment now fragment = algorithm := by
        simp only [WaitAllAndSort.addFragment, hinsert]
      rw [hsame]
      apply Or.inr
      refine ⟨fun first rest fills => ?_, waiting.notComplete, fun _ => waiting⟩
      rw [fills.insert] at hinsert
      cases hinsert
  | some ordered =>
      have hsorted := insertByKey_sorted waiting.sorted hinsert
      have hmem := (mem_insertByKey hinsert).mpr (.inl rfl)
      cases ordered with
      | nil => cases hmem
      | cons first rest =>
          have hreplay := replay_start now hsorted
          have hadd : algorithm.addFragment now fragment =
              algorithm.account now fragment (first :: rest) := by
            simp only [WaitAllAndSort.addFragment, hinsert]
          have hfills : ∀ head tail, Fills algorithm fragment head tail →
              head = first ∧ tail = rest := by
            intro head tail fills
            have hsame := fills.insert.symm.trans hinsert
            exact List.cons.inj (Option.some.inj hsame)
          rw [hadd]
          unfold WaitAllAndSort.account
          generalize hfinal : (if fragment.isLastFragment = true then
            fragment.offset + fragment.payloadLen else algorithm.finalSize) = finalSize
          simp only
          split_ifs with hlarge hfull hkept
          · -- the pieces overlap
            apply Or.inr
            refine ⟨fun head tail fills => ?_, waiting.notComplete, fun hdrop => by cases hdrop⟩
            have hsize := fills.size.trans hfinal
            omega
          · apply Or.inr
            refine ⟨fun head tail fills => ?_, waiting.notComplete, fun hdrop => by cases hdrop⟩
            rcases hfills head tail fills with ⟨rfl, rfl⟩
            have hnot := hreplay.1.mpr ⟨fills.contiguous, fills.begins⟩
            rw [hnot] at hkept
            cases hkept
          · have hdrop := Bool.eq_false_of_not_eq_true hkept
            rcases hreplay.1.mp hdrop with ⟨hcontiguous, hbegins⟩
            rcases hreplay.2 hdrop with ⟨whole, edge, hwhole, hjoined⟩
            apply Or.inl
            exact ⟨first, rest, whole, edge,
              ⟨hinsert, hfull.trans hfinal.symm, hcontiguous, hbegins⟩, hjoined,
              rfl, waiting.notDropped, hwhole⟩
          · apply Or.inr
            refine ⟨fun head tail fills => hfull (fills.size.trans hfinal), waiting.notComplete,
              fun _ => ⟨waiting.notDropped, waiting.notComplete, hsorted⟩⟩

end Waiting

namespace FragmentTable

/-! ### One call -/

/-- The entry a call works on, as the time-out leaves it. -/
def entryFor (table : FragmentTable) (arrival : Arrival) : WaitAllAndSort :=
  (table.sweep arrival.now).algorithmOf arrival.fragment.packetId

/-- The same entry after the call has added its fragment. -/
def entryAfter (table : FragmentTable) (arrival : Arrival) : WaitAllAndSort :=
  (table.entryFor arrival).addFragment arrival.stamp arrival.fragment

/-- What a call must do: hand out nothing, or a packet made of pieces given under its
identification that follow each other from offset 0 on, with its true length in its
header; erase the entry once at most; and have a packet where it says so. -/
structure Sound (given : List IpPacket) (table : FragmentTable) (arrival : Arrival) : Prop where
  result : ∀ packet, arrival.result = some packet →
    ∃ pieces, (∀ piece ∈ pieces, piece ∈ given ∧
      piece.packetId = arrival.fragment.packetId) ∧ Contiguous 0 pieces ∧
      Composed pieces packet ∧ IpHeader.packetLen packet = packet.length
  once : ¬ ((table.entryAfter arrival).drop = true ∧
    (table.entryAfter arrival).isComplete = true)
  present : (table.entryAfter arrival).isComplete = true →
    (table.entryAfter arrival).packetData ≠ none

/-- The fragment fills its entry with more than a length field of 16 bits can tell. -/
def Overlong (table : FragmentTable) (arrival : Arrival) : Prop :=
  ∃ first rest, Fills (table.entryFor arrival) arrival.fragment first rest ∧
    65536 ≤ first.headerLen + carried (first :: rest)

/-- Every entry of the table waits. -/
def AllWaiting (table : FragmentTable) : Prop :=
  ∀ id entry, table.fragmentMap.find? id = some entry → Waiting entry

theorem AllWaiting.entryFor {table : FragmentTable} (waiting : AllWaiting table)
    (arrival : Arrival) : Waiting (table.entryFor arrival) := by
  unfold FragmentTable.entryFor algorithmOf
  rcases table.find?_sweep arrival.now arrival.fragment.packetId with hsame | ⟨hnone, -⟩
  · rw [hsame]
    cases hfind : table.fragmentMap.find? arrival.fragment.packetId with
    | none => exact .start
    | some entry => exact waiting _ _ hfind
  · rw [hnone]
    exact .start

theorem Sources.entryFor {given : List IpPacket} {table : FragmentTable}
    (sources : Sources given table) (arrival : Arrival) :
    Sourced given arrival.fragment.packetId (table.entryFor arrival) := by
  unfold FragmentTable.entryFor algorithmOf
  rcases table.find?_sweep arrival.now arrival.fragment.packetId with hsame | ⟨hnone, -⟩
  · rw [hsame]
    cases hfind : table.fragmentMap.find? arrival.fragment.packetId with
    | none => exact .start _ _
    | some entry => exact sources _ _ hfind
  · rw [hnone]
    exact .start _ _

theorem step_own {table table' : FragmentTable} {arrival : Arrival}
    (step : Step table arrival table') :
    arrival.result = (if (table.entryAfter arrival).isComplete then
        (table.entryAfter arrival).packetData else none) ∧
      table'.fragmentMap.find? arrival.fragment.packetId =
        if (table.entryAfter arrival).isComplete ∨ (table.entryAfter arrival).drop then none
        else some (table.entryAfter arrival) := by
  have hown := handleIpFragment_own table arrival.now arrival.stamp arrival.fragment
  rw [step] at hown
  have hentry : (table.entryAfter arrival) =
      (((table.sweep arrival.now).fragmentMap.find? arrival.fragment.packetId).getD
        {}).addFragment arrival.stamp arrival.fragment := rfl
  simp only [outcome, ← hentry, Prod.ext_iff] at hown
  rw [hown.1, hown.2]
  cases (table.entryAfter arrival).isComplete
  · simp
  · simp

theorem AllWaiting.step {table table' : FragmentTable} {arrival : Arrival}
    (waiting : AllWaiting table) (step : Step table arrival table') : AllWaiting table' := by
  intro id entry hfind
  by_cases hid : id = arrival.fragment.packetId
  · subst hid
    rw [(step_own step).2] at hfind
    split_ifs at hfind with hgone
    rcases not_or.mp hgone with ⟨hcomplete, hdrop⟩
    rcases Option.some.inj hfind with rfl
    rcases (waiting.entryFor arrival).addFragment arrival.stamp arrival.fragment with
      ⟨first, rest, whole, edge, -, -, hdone, -, -⟩ | ⟨-, -, hwaits⟩
    · exact absurd hdone hcomplete
    · exact hwaits (Bool.eq_false_of_not_eq_true hdrop)
  · rcases step_other step hid with hsame | ⟨hnone, -⟩
    · exact waiting id entry (hsame ▸ hfind)
    · rw [hnone] at hfind
      cases hfind

/-- The pieces of an entry that is filled are copies of fragments given for it. -/
theorem originals {given : List IpPacket} {id : Nat} {algorithm : WaitAllAndSort}
    (sourced : Sourced given id algorithm) {fragment first : IpPacket} {rest : List IpPacket}
    (hinsert : insertByKey IpPacket.offset fragment.copy algorithm.orderedFragments =
      some (first :: rest)) (hgiven : fragment ∈ given) (hid : fragment.packetId = id) :
    ∃ pieces : List IpPacket, first :: rest = pieces.map IpPacket.copy ∧
      ∀ piece ∈ pieces, piece ∈ given ∧ piece.packetId = id := by
  rcases sourced.fragments with ⟨held, hordered, hheld⟩
  rw [hordered, insertByKey_map] at hinsert
  rcases Option.map_eq_some_iff.mp hinsert with ⟨pieces, hpieces, hsame⟩
  refine ⟨pieces, hsame.symm, fun piece hpiece => ?_⟩
  rcases (mem_insertByKey hpieces).mp hpiece with rfl | hold
  · exact ⟨hgiven, hid⟩
  · exact hheld piece hold

/-- A call does what it must exactly when the packet it makes is not overlong. -/
theorem sound_iff {given : List IpPacket} {table table' : FragmentTable} {arrival : Arrival}
    (sources : Sources given table) (waiting : AllWaiting table)
    (step : Step table arrival table') :
    Sound (given ++ [arrival.fragment]) table arrival ↔ ¬ Overlong table arrival := by
  have hresult := (step_own step).1
  have hsourced := (sources.entryFor arrival).mono (List.subset_append_left _ [arrival.fragment])
  rcases (waiting.entryFor arrival).addFragment arrival.stamp arrival.fragment with
    ⟨first, rest, whole, edge, fills, joined, hcomplete, hdrop, hdata⟩ | ⟨hnever, hcomplete, -⟩
  · have hwhole : arrival.result = some whole := by
      rw [hresult, entryAfter, hcomplete, hdata, if_pos rfl]
    have hlength := joined.composed.length
    constructor
    · intro sound
      rcases sound.result whole hwhole with ⟨pieces, -, -, -, hlen⟩
      rintro ⟨head, tail, other, hlong⟩
      rcases List.cons.inj (Option.some.inj (other.insert.symm.trans fills.insert)) with
        ⟨rfl, rfl⟩
      have hfield := joined.packetLen
      omega
    · intro hshort
      have hfits : first.headerLen + carried (first :: rest) < 65536 := by
        by_contra hlong
        exact hshort ⟨first, rest, fills, by omega⟩
      refine ⟨fun packet hpacket => ?_, fun both => ?_, fun _ hnone => ?_⟩
      · rw [hwhole] at hpacket
        rcases Option.some.inj hpacket with rfl
        rcases originals hsourced fills.insert (by simp) rfl with ⟨pieces, hcopies, hpieces⟩
        refine ⟨pieces, hpieces, ?_, ?_, ?_⟩
        · apply contiguous_copies.mp
          rw [← hcopies]
          exact fills.contiguous
        · apply Composed.of_copies
          rw [← hcopies]
          exact joined.composed
        · rw [joined.packetLen, hlength]
          exact Nat.mod_eq_of_lt hfits
      · rw [entryAfter, hdrop] at both
        cases both.1
      · rw [entryAfter, hdata] at hnone
        cases hnone
  · have hnone : arrival.result = none := by
      rw [hresult, entryAfter, hcomplete, if_neg Bool.false_ne_true]
    apply iff_of_true
    · refine ⟨fun packet hpacket => ?_, fun both => ?_, fun hdone => ?_⟩
      · rw [hnone] at hpacket
        cases hpacket
      · rw [entryAfter, hcomplete] at both
        cases both.2
      · rw [entryAfter, hcomplete] at hdone
        cases hdone
    · rintro ⟨first, rest, fills, -⟩
      exact hnever first rest fills

/-! ### Runs -/

/-- A property of a call, given what has been handed over up to and with it and the table
it finds, holds at every call of the run from the empty table. -/
def AtEveryCall (arrivals : List Arrival)
    (property : List IpPacket → FragmentTable → Arrival → Prop) : Prop :=
  ∀ front arrival back before, arrivals = front ++ arrival :: back →
    Steps Step {} front before →
    property ((front ++ [arrival]).map Arrival.fragment) before arrival

theorem step_functional (table : FragmentTable) (arrival : Arrival) (after other : FragmentTable)
    (step : Step table arrival after) (step' : Step table arrival other) : after = other := by
  unfold Step at step step'
  rw [step] at step'
  exact (Prod.mk.inj step').2

theorem Sources.keep {given : List IpPacket} {table after : FragmentTable} {calls : List Arrival}
    (sources : Sources given table) (steps : Steps Step table calls after) :
    Sources (given ++ calls.map Arrival.fragment) after := by
  induction steps generalizing given with
  | nil => simpa using sources
  | cons head _ ih => simpa using ih (sources.step head).1

theorem reached {front : List Arrival} {before : FragmentTable}
    (run : Steps Step {} front before) :
    Sources (front.map Arrival.fragment) before ∧ AllWaiting before := by
  have hstart : ∀ id entry, ({} : FragmentTable).fragmentMap.find? id = some entry → False := by
    intro id entry hfind
    rw [OrderedMap.find?_empty] at hfind
    cases hfind
  have hsources : Sources [] ({} : FragmentTable) := by
    intro id entry hfind
    exact (hstart id entry hfind).elim
  constructor
  · exact hsources.keep run
  · exact run.invariant (fun _ _ _ waiting step => waiting.step step)
      (fun id entry hfind => (hstart id entry hfind).elim)

/-- Every call of a run does what it must if and only if no call fills an entry with more
than 65535 bytes. -/
theorem calls_sound_iff {arrivals : List Arrival} {table : FragmentTable}
    (run : Steps Step {} arrivals table) :
    AtEveryCall arrivals Sound ↔
      AtEveryCall arrivals fun _ before arrival => ¬ Overlong before arrival := by
  have hcall : ∀ front arrival back before, arrivals = front ++ arrival :: back →
      Steps Step {} front before →
      (Sound ((front ++ [arrival]).map Arrival.fragment) before arrival ↔
        ¬ Overlong before arrival) := by
    intro front arrival back before hsplit steps
    rw [hsplit] at run
    rcases run.split with ⟨middle, first, second⟩
    rcases first.functional step_functional steps with rfl
    rcases reached first with ⟨sources, waiting⟩
    cases second with
    | cons head _ =>
        rw [List.map_append]
        exact sound_iff sources waiting head
  constructor
  · intro sound front arrival back before hsplit steps
    exact (hcall front arrival back before hsplit steps).mp
      (sound front arrival back before hsplit steps)
  · intro short front arrival back before hsplit steps
    exact (hcall front arrival back before hsplit steps).mpr
      (short front arrival back before hsplit steps)

theorem calls_sound_two_halves :
    AtEveryCall (execute {} [(5, 5, secondHalf), (7, 7, firstHalf)]).1 Sound ↔
      AtEveryCall (execute {} [(5, 5, secondHalf), (7, 7, firstHalf)]).1
        fun _ before arrival => ¬ Overlong before arrival :=
  calls_sound_iff (execute_steps {} [(5, 5, secondHalf), (7, 7, firstHalf)])

end FragmentTable

/-- A fragment of 20 bytes of header and so many bytes of payload. -/
def longFragmentBytes (length field : UInt8 × UInt8) (count : Nat) : List UInt8 :=
  [0x45, 0, length.1, length.2, 0, 7, field.1, field.2, 64, 17, 0, 0, 10, 0, 0, 1, 10, 0, 0, 254]
    ++ List.replicate count 0

theorem longFragmentBytes_length (length field : UInt8 × UInt8) (count : Nat) :
    (longFragmentBytes length field count).length = 20 + count := by
  rw [longFragmentBytes, List.length_append, List.length_replicate]
  rfl

/-- The first 32768 bytes of a datagram, more to follow. -/
def lowerHalf : IpPacket :=
  ⟨longFragmentBytes (0x80, 20) (0x20, 0) 32768, by decide, by decide,
    by rw [longFragmentBytes_length]; decide⟩

/-- The last 32760 bytes of that datagram, up to the highest offset a fragment can have. -/
def upperHalf : IpPacket :=
  ⟨longFragmentBytes (0x80, 12) (0x10, 0) 32760, by decide, by decide,
    by rw [longFragmentBytes_length]; decide⟩

namespace FragmentTable

/-- The table after the lower half. -/
def halfway : FragmentTable := (handleIpFragment {} 5 5 lowerHalf).2

/-- The call that brings the upper half. -/
def upperArrival : Arrival := ⟨7, 7, upperHalf, (halfway.handleIpFragment 7 7 upperHalf).1⟩

theorem halfway_entry : halfway.entryFor upperArrival =
    { orderedFragments := [lowerHalf.copy], currentSize := 32768, lastUpdate := 5 } := by
  have hpayload : lowerHalf.payloadLen = 32768 := by decide
  have hlast : lowerHalf.isLastFragment = false := by decide
  have hafter : ({} : WaitAllAndSort).addFragment 5 lowerHalf =
      { orderedFragments := [lowerHalf.copy], currentSize := 32768, lastUpdate := 5 } := by
    simp [WaitAllAndSort.addFragment, insertByKey, WaitAllAndSort.account, hpayload, hlast]
  have hsweep : ({} : FragmentTable).sweep 5 = {} := if_neg (by decide)
  have hentry : ({} : FragmentTable).algorithmOf lowerHalf.packetId = {} := rfl
  have hfound : halfway.fragmentMap.find? lowerHalf.packetId =
      some { orderedFragments := [lowerHalf.copy], currentSize := 32768, lastUpdate := 5 } := by
    simp [halfway, handleIpFragment, hsweep, hentry, hafter]
  have hcheck : halfway.lastCheck = 0 := by
    simp [halfway, handleIpFragment, hsweep, hentry, hafter]
  have hid : upperArrival.fragment.packetId = lowerHalf.packetId := by decide
  rw [entryFor, hid, algorithmOf, sweep, hcheck, if_neg (by decide), hfound, Option.getD_some]

/-- Two fragments with 65528 bytes between them make a packet of 65548 bytes, whose header
says 12. -/
theorem length_wraps : ¬ ∀ (arrivals : List Arrival) (table : FragmentTable),
    Steps Step {} arrivals table → AtEveryCall arrivals Sound := by
  intro sound
  have hfirst : Steps Step {} [⟨5, 5, lowerHalf, (handleIpFragment {} 5 5 lowerHalf).1⟩]
      halfway := .cons rfl (.nil _)
  have hlast : Step halfway upperArrival (halfway.handleIpFragment 7 7 upperHalf).2 := by
    rfl
  have hcall := sound _ _ (hfirst.append (.cons hlast (.nil _))) _ upperArrival [] halfway rfl
    hfirst
  rcases reached hfirst with ⟨sources, waiting⟩
  rw [List.map_append] at hcall
  apply (sound_iff sources waiting hlast).mp hcall
  refine ⟨lowerHalf.copy, [upperHalf.copy], ⟨?_, ?_, ?_, ?_⟩, ?_⟩
  · rw [halfway_entry]
    simp only [insertByKey, IpPacket.copy_offset]
    rw [if_neg (by decide), if_neg (by decide)]
    rfl
  · rw [halfway_entry]
    decide
  · simp only [Contiguous, IpPacket.copy_offset, IpPacket.copy_payloadLen]
    decide
  · simp only [List.forall_mem_cons, IpPacket.copy_offset, IpPacket.copy_headerLen]
    decide
  · simp only [carried_cons, carried_nil, IpPacket.copy_headerLen, IpPacket.copy_payloadLen]
    decide

end FragmentTable

end OrkAudio
