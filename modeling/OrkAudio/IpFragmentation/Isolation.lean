import OrkAudio.IpFragmentation.Reassembly

/-! Which fragments can influence which packets.

The table is keyed by the 16-bit identification alone. Fragments with other
identifications have no influence, apart from the time-out that any call may apply;
fragments of other hosts with the same identification do. -/

namespace OrkAudio

open Lib

/-! ### What a packet is made of -/

/-- The packet is the header of the first fragment, its length rewritten, and the payloads
of all of them one after the other. -/
def Composed (fragments : List IpPacket) (packet : List UInt8) : Prop :=
  ∃ first rest len, fragments = first :: rest ∧
    packet = IpHeader.setPacketLen
      (first.header ++ fragments.flatMap IpPacket.payload) len

namespace Composed

variable {fragments : List IpPacket} {packet : List UInt8}

theorem header_le (first : IpPacket) (back : List UInt8) :
    4 ≤ (first.header ++ (first.payload ++ back)).length := by
  have hstruct := first.struct_le
  have hheader := first.header_le
  have hlen := first.payloadLen_eq
  unfold IpPacket.packetLen IpPacket.headerLen at hlen
  rw [List.length_append, List.length_append, IpPacket.header_length, IpPacket.payload_length,
    IpPacket.headerLen]
  omega

theorem single (first : IpPacket) :
    Composed [first] (first.bytes.take first.packetLen) := by
  have hlong := header_le first []
  refine ⟨first, [], IpHeader.packetLen (first.header ++ first.payload), rfl, ?_⟩
  simp only [List.flatMap_singleton, List.append_nil] at hlong ⊢
  rw [IpHeader.setPacketLen_self hlong, first.take_packetLen]

theorem append (composed : Composed fragments packet) (next : IpPacket) (len : Nat) :
    Composed (fragments ++ [next]) (IpHeader.setPacketLen (packet ++ next.payload) len) := by
  obtain ⟨first, rest, old, rfl, rfl⟩ := composed
  have hlong := header_le first (rest.flatMap IpPacket.payload)
  refine ⟨first, rest ++ [next], len, rfl, ?_⟩
  rw [List.flatMap_cons, IpHeader.setPacketLen_append hlong,
    IpHeader.setPacketLen_setPacketLen]
  simp [List.append_assoc]

/-- Copies compose as the packets they were made from do. -/
theorem of_copies (composed : Composed (fragments.map IpPacket.copy) packet) :
    Composed fragments packet := by
  obtain ⟨first, rest, len, hfragments, rfl⟩ := composed
  cases fragments with
  | nil => cases hfragments
  | cons original others =>
      obtain rfl := (List.cons.inj hfragments).1
      refine ⟨original, others, len, rfl, ?_⟩
      rw [List.flatMap_map, IpPacket.copy_header]
      simp only [IpPacket.copy_payload]

end Composed

/-- A replay that is not dropped composes all the fragments it was given. -/
theorem replay_composed {algorithm : ForwardSequential} {now : Int} (done : List IpPacket)
    {pieces : List IpPacket}
    (hstart : match algorithm.packetData with
      | none => done = []
      | some packet => Composed done packet)
    (hsome : done ++ pieces ≠ [])
    (hkept : (algorithm.replay now pieces).drop = false) :
    ∃ packet, (algorithm.replay now pieces).packetData = some packet ∧
      Composed (done ++ pieces) packet := by
  induction pieces generalizing algorithm done with
  | nil =>
      rw [List.append_nil] at hsome ⊢
      cases hdata : algorithm.packetData with
      | none => simp [hdata, hsome] at hstart
      | some packet =>
          simp only [hdata] at hstart
          exact ⟨packet, hdata, hstart⟩
  | cons next pieces ih =>
      simp only [ForwardSequential.replay] at hkept ⊢
      split_ifs at hkept ⊢ with hdrop
      · rw [hkept] at hdrop
        cases hdrop
      · have hnext : match (algorithm.addFragment now next).packetData with
            | none => done ++ [next] = []
            | some packet => Composed (done ++ [next]) packet := by
          unfold ForwardSequential.addFragment at hdrop ⊢
          cases hdata : algorithm.packetData with
          | none =>
              simp only [hdata] at hstart hdrop ⊢
              split_ifs at hdrop ⊢ with hoffset
              · simp at hdrop
              · rw [hstart]
                exact Composed.single next
          | some packet =>
              simp only [hdata] at hstart hdrop ⊢
              split_ifs at hdrop ⊢ with hoffset
              · simp at hdrop
              · exact hstart.append next _
        have hrest := ih _ hnext (by simp) hkept
        rwa [List.append_assoc] at hrest

/-! ### Where the fragments of an entry come from -/

/-- The entry is unfinished and holds copies of packets that were given under its
identification. -/
structure Sourced (given : List IpPacket) (id : Nat) (algorithm : WaitAllAndSort) : Prop where
  notComplete : algorithm.isComplete = false
  fragments : ∃ pieces : List IpPacket, algorithm.orderedFragments = pieces.map IpPacket.copy ∧
    ∀ packet ∈ pieces, packet ∈ given ∧ packet.packetId = id

namespace Sourced

variable {given more : List IpPacket} {id : Nat} {algorithm : WaitAllAndSort}

theorem start (given : List IpPacket) (id : Nat) : Sourced given id {} :=
  ⟨rfl, [], rfl, by simp⟩

theorem mono (sourced : Sourced given id algorithm) (hmore : given ⊆ more) :
    Sourced more id algorithm := by
  obtain ⟨hcomplete, pieces, hordered, hpieces⟩ := sourced
  exact ⟨hcomplete, pieces, hordered,
    fun packet hmem => ⟨hmore (hpieces packet hmem).1, (hpieces packet hmem).2⟩⟩

/-- Adding a fragment keeps the entry unfinished, or composes a packet of what was given. -/
theorem addFragment (sourced : Sourced given id algorithm) (packet : IpPacket) (now : Int)
    (hgiven : packet ∈ given) (hid : packet.packetId = id) :
    Sourced given id (algorithm.addFragment now packet) ∨
      ((algorithm.addFragment now packet).isComplete = true ∧
        ∃ pieces data, (algorithm.addFragment now packet).packetData = some data ∧
          (∀ piece ∈ pieces, piece ∈ given ∧ piece.packetId = id) ∧ Composed pieces data) := by
  obtain ⟨hcomplete, pieces, hordered, hpieces⟩ := sourced
  unfold WaitAllAndSort.addFragment
  rw [hordered, insertByKey_map]
  cases hinsert : insertByKey (fun piece => IpPacket.offset (IpPacket.copy piece)) packet
      pieces with
  | none => exact .inl ⟨hcomplete, pieces, hordered, hpieces⟩
  | some ordered =>
      have hsources : ∀ piece ∈ ordered, piece ∈ given ∧ piece.packetId = id := by
        intro piece hpiece
        rcases (mem_insertByKey hinsert).mp hpiece with rfl | hpiece
        · exact ⟨hgiven, hid⟩
        · exact hpieces piece hpiece
      have hsome : [] ++ ordered.map IpPacket.copy ≠ [] := by
        have hmem : packet ∈ ordered := (mem_insertByKey hinsert).mpr (.inl rfl)
        simpa using List.ne_nil_of_mem hmem
      have hreplay : (ForwardSequential.replay now {} (ordered.map IpPacket.copy)).drop = false →
          ∃ data, (ForwardSequential.replay now {} (ordered.map IpPacket.copy)).packetData =
            some data ∧ Composed (ordered.map IpPacket.copy) data :=
        fun hkept => replay_composed [] (by rfl) hsome hkept
      simp only [Option.map_some, WaitAllAndSort.account]
      generalize ForwardSequential.replay now {} (ordered.map IpPacket.copy) = replayed at hreplay ⊢
      by_cases hkept : replayed.drop = true
      · -- whatever the sizes say, nothing is returned
        simp only [hkept, if_true]
        split_ifs <;> exact .inl ⟨hcomplete, ordered, rfl, hsources⟩
      · obtain ⟨data, hdata, hcomposed⟩ := hreplay (by simpa using hkept)
        simp only [hkept]
        split_ifs
        all_goals first
          | exact .inl ⟨hcomplete, ordered, rfl, hsources⟩
          | exact .inr ⟨rfl, ordered, data, hdata, hsources, hcomposed.of_copies⟩

end Sourced

namespace FragmentTable

/-- What a call does with the entry of its own identification. -/
def outcome (stamp : Int) (packet : IpPacket) (entry : Option WaitAllAndSort) :
    Option (List UInt8) × Option WaitAllAndSort :=
  let algorithm := (entry.getD {}).addFragment stamp packet
  if algorithm.isComplete then (algorithm.packetData, none)
  else (none, if algorithm.drop then none else some algorithm)

theorem handleIpFragment_own (table : FragmentTable) (now stamp : Int) (packet : IpPacket) :
    ((table.handleIpFragment now stamp packet).1,
      (table.handleIpFragment now stamp packet).2.fragmentMap.find? packet.packetId) =
      outcome stamp packet ((table.sweep now).fragmentMap.find? packet.packetId) := by
  unfold handleIpFragment outcome algorithmOf
  simp only
  split_ifs <;> simp

/-- The time-out removes an entry when it is due and leaves every other alone. -/
theorem find?_sweep (table : FragmentTable) (now : Int) (id : Nat) :
    (table.sweep now).fragmentMap.find? id = table.fragmentMap.find? id ∨
      (table.sweep now).fragmentMap.find? id = none ∧
        ∃ entry, table.fragmentMap.find? id = some entry ∧ now - entry.lastUpdate ≥ timeoutSec := by
  unfold sweep
  split_ifs with hdue
  · rw [OrderedMap.find?_filter]
    cases hentry : table.fragmentMap.find? id with
    | none => simp
    | some entry =>
        by_cases hold : now - entry.lastUpdate ≥ timeoutSec
        · exact .inr ⟨by simp [Option.filter, hold], entry, rfl, hold⟩
        · exact .inl (by simp [Option.filter, hold])
  · exact .inl rfl

/-- A call leaves the entries of the other identifications alone, unless they time out. -/
theorem step_other {table table' : FragmentTable} {arrival : Arrival}
    (step : Step table arrival table') {id : Nat} (hne : id ≠ arrival.fragment.packetId) :
    table'.fragmentMap.find? id = table.fragmentMap.find? id ∨
      table'.fragmentMap.find? id = none ∧ ∃ entry, table.fragmentMap.find? id = some entry ∧
        arrival.now - entry.lastUpdate ≥ timeoutSec := by
  have hfind := find?_handleIpFragment_of_ne table arrival.now arrival.stamp hne
  rw [step] at hfind
  rw [hfind]
  exact table.find?_sweep arrival.now id

/-- Every entry of the table is made of what was given under its identification. -/
def Sources (given : List IpPacket) (table : FragmentTable) : Prop :=
  ∀ id entry, table.fragmentMap.find? id = some entry → Sourced given id entry

/-- The packet a call returns is composed of fragments given under its identification. -/
def ReturnsOwn (given : List IpPacket) (arrival : Arrival) : Prop :=
  ∀ packet, arrival.result = some packet →
    ∃ pieces, (∀ piece ∈ pieces, piece ∈ given ∧
      piece.packetId = arrival.fragment.packetId) ∧ Composed pieces packet

theorem Sources.step {given : List IpPacket} {table table' : FragmentTable} {arrival : Arrival}
    (sources : Sources given table) (step : Step table arrival table') :
    Sources (given ++ [arrival.fragment]) table' ∧
      ReturnsOwn (given ++ [arrival.fragment]) arrival := by
  have hmore : given ⊆ given ++ [arrival.fragment] := List.subset_append_left _ _
  have hown := handleIpFragment_own table arrival.now arrival.stamp arrival.fragment
  rw [step] at hown
  have hentry : Sourced (given ++ [arrival.fragment]) arrival.fragment.packetId
      (((table.sweep arrival.now).fragmentMap.find? arrival.fragment.packetId).getD {}) := by
    rcases table.find?_sweep arrival.now arrival.fragment.packetId with hsame | ⟨hnone, -⟩
    · rw [hsame]
      cases hfind : table.fragmentMap.find? arrival.fragment.packetId with
      | none => exact .start _ _
      | some entry => exact (sources _ _ hfind).mono hmore
    · rw [hnone]
      exact .start _ _
  have hothers : ∀ id entry, id ≠ arrival.fragment.packetId →
      table'.fragmentMap.find? id = some entry → Sourced (given ++ [arrival.fragment]) id entry := by
    intro id entry hne hfind
    rcases step_other step hne with hsame | ⟨hnone, -⟩
    · exact (sources id entry (hsame ▸ hfind)).mono hmore
    · rw [hnone] at hfind
      cases hfind
  have hadd := hentry.addFragment arrival.fragment arrival.stamp (by simp) rfl
  simp only [outcome] at hown
  rcases hadd with hsourced | ⟨hcomplete, pieces, data, hdata, hpieces, hcomposed⟩
  · rw [hsourced.notComplete] at hown
    simp only [Bool.false_eq_true, if_false, Prod.mk.injEq] at hown
    refine ⟨?_, by intro packet hresult; rw [hown.1] at hresult; cases hresult⟩
    intro id entry hfind
    by_cases hid : id = arrival.fragment.packetId
    · subst hid
      rw [hown.2] at hfind
      split_ifs at hfind
      obtain rfl := Option.some.inj hfind
      exact hsourced
    · exact hothers id entry hid hfind
  · rw [hcomplete] at hown
    simp only [if_true, Prod.mk.injEq, hdata] at hown
    refine ⟨?_, ?_⟩
    · intro id entry hfind
      by_cases hid : id = arrival.fragment.packetId
      · subst hid
        rw [hown.2] at hfind
        cases hfind
      · exact hothers id entry hid hfind
    · intro packet hresult
      rw [hown.1] at hresult
      obtain rfl := Option.some.inj hresult
      exact ⟨pieces, hpieces, hcomposed⟩

/-- In any run, each packet returned is composed of fragments given so far under the
identification of the call that returns it. -/
theorem Sources.run {given : List IpPacket} {table table' : FragmentTable}
    {arrivals : List Arrival} (sources : Sources given table)
    (run : Steps Step table arrivals table') {front back : List Arrival} {arrival : Arrival}
    (hsplit : arrivals = front ++ arrival :: back) :
    ReturnsOwn (given ++ (front ++ [arrival]).map Arrival.fragment) arrival := by
  induction run generalizing given front with
  | nil => simp at hsplit
  | @cons table next table' first arrivals head _ ih =>
      obtain ⟨hsources, hown⟩ := sources.step head
      cases front with
      | nil =>
          obtain ⟨rfl, -⟩ := List.cons.inj hsplit
          exact hown
      | cons other front =>
          obtain ⟨rfl, hrest⟩ := List.cons.inj hsplit
          have := ih hsources hrest
          simpa using this

/-! ### Runs with and without the other identifications -/

/-- The entry of this identification, if any, is not a time-out old at the call. -/
def Young (id : Nat) (table : FragmentTable) (arrival : Arrival) : Prop :=
  ∀ entry, table.fragmentMap.find? id = some entry →
    arrival.now - entry.lastUpdate < timeoutSec

theorem Young.sweep {id : Nat} {table : FragmentTable} {arrival : Arrival}
    (young : Young id table arrival) :
    (table.sweep arrival.now).fragmentMap.find? id = table.fragmentMap.find? id := by
  rcases table.find?_sweep arrival.now id with hsame | ⟨-, entry, hfind, hold⟩
  · exact hsame
  · have := young entry hfind
    omega

/-- Leaving out the fragments of all other identifications changes neither what the calls
for this one return nor its entry. -/
theorem run_alone {id : Nat} {table table' : FragmentTable} {arrivals : List Arrival}
    (run : Steps (Guarded (Young id) Step) table arrivals table') {alone : FragmentTable}
    (hsame : alone.fragmentMap.find? id = table.fragmentMap.find? id) :
    ∃ alone', Steps Step alone
        (arrivals.filter fun arrival => arrival.fragment.packetId = id) alone' ∧
      alone'.fragmentMap.find? id = table'.fragmentMap.find? id := by
  induction run generalizing alone with
  | nil table => exact ⟨alone, .nil alone, hsame⟩
  | @cons table next table' arrival arrivals head _ ih =>
      obtain ⟨young, hstep⟩ := head
      by_cases hid : arrival.fragment.packetId = id
      · subst hid
        have young' : Young arrival.fragment.packetId alone arrival := by
          intro entry hfind
          exact young entry (hsame ▸ hfind)
        -- both tables give the call the same entry, so both do the same with it
        have hown := handleIpFragment_own table arrival.now arrival.stamp arrival.fragment
        have hown' := handleIpFragment_own alone arrival.now arrival.stamp arrival.fragment
        rw [young.sweep] at hown
        rw [young'.sweep, hsame, ← hown, hstep, Prod.mk.injEq] at hown'
        obtain ⟨alone', hrun, hend⟩ := ih hown'.2
        refine ⟨alone', ?_, hend⟩
        rw [List.filter_cons_of_pos (by simp)]
        have hfirst : Step alone arrival (alone.handleIpFragment arrival.now arrival.stamp
            arrival.fragment).2 := Prod.ext hown'.1 rfl
        exact .cons hfirst hrun
      · have hother := find?_handleIpFragment_of_ne table arrival.now arrival.stamp
          (Ne.symm hid)
        rw [hstep, young.sweep] at hother
        obtain ⟨alone', hrun, hend⟩ := ih (hsame.trans hother.symm)
        refine ⟨alone', ?_, hend⟩
        rw [List.filter_cons_of_neg (by simpa using hid)]
        exact hrun

/-- Any packet returned is composed of fragments given under its identification, and the
fragments of the other identifications never complete, drop or alter it: unless an entry of
it gets a time-out old, its calls return the same and leave the same entry without them. -/
theorem same_identification {table : FragmentTable} {arrivals : List Arrival}
    (run : Steps Step {} arrivals table) :
    (∀ front arrival back, arrivals = front ++ arrival :: back →
      ReturnsOwn ((front ++ [arrival]).map Arrival.fragment) arrival) ∧
    ∀ id, Steps (Guarded (Young id) Step) {} arrivals table →
      ∃ alone, Steps Step {} (arrivals.filter fun arrival => arrival.fragment.packetId = id)
          alone ∧
        alone.fragmentMap.find? id = table.fragmentMap.find? id := by
  constructor
  · intro front arrival back hsplit
    have hempty : Sources [] ({} : FragmentTable) := by
      intro id entry hfind
      cases hfind
    exact hempty.run run hsplit
  · intro id young
    exact run_alone young rfl

/-- The calls with these clock readings and fragments, one after the other. -/
def execute (table : FragmentTable) : List (Int × Int × IpPacket) → List Arrival × FragmentTable
  | [] => ([], table)
  | (now, stamp, packet) :: calls =>
      let outcome := table.handleIpFragment now stamp packet
      let rest := outcome.2.execute calls
      (⟨now, stamp, packet, outcome.1⟩ :: rest.1, rest.2)

/-- Any fragments can be handed over at any times. -/
theorem execute_steps (table : FragmentTable) (calls : List (Int × Int × IpPacket)) :
    Steps Step table (table.execute calls).1 (table.execute calls).2 := by
  induction calls generalizing table with
  | nil => exact .nil table
  | cons call calls ih => exact .cons rfl (ih _)

theorem same_identification_two_halves :
    (∀ front arrival back,
      (execute {} [(5, 5, secondHalf), (7, 7, firstHalf)]).1 = front ++ arrival :: back →
      ReturnsOwn ((front ++ [arrival]).map Arrival.fragment) arrival) ∧
    ∀ id, Steps (Guarded (Young id) Step) {}
        (execute {} [(5, 5, secondHalf), (7, 7, firstHalf)]).1
        (execute {} [(5, 5, secondHalf), (7, 7, firstHalf)]).2 →
      ∃ alone, Steps Step {} ((execute {} [(5, 5, secondHalf), (7, 7, firstHalf)]).1.filter
          fun arrival => arrival.fragment.packetId = id) alone ∧
        alone.fragmentMap.find? id =
          (execute {} [(5, 5, secondHalf), (7, 7, firstHalf)]).2.fragmentMap.find? id :=
  same_identification (execute_steps {} [(5, 5, secondHalf), (7, 7, firstHalf)])

/-- Two fragments of one datagram of one host. -/
def SameDatagram (packet other : IpPacket) : Prop :=
  IpHeader.source packet.bytes = IpHeader.source other.bytes ∧
    IpHeader.dest packet.bytes = IpHeader.dest other.bytes ∧
    IpHeader.protocol packet.bytes = IpHeader.protocol other.bytes ∧
    packet.packetId = other.packetId

/-- The last three bytes of a datagram of host 2 with the same identification. -/
def strangersHalf : IpPacket :=
  ⟨fragmentBytes 2 (0, 1) [9, 10, 11], by decide, by decide, by decide⟩

/-- The second half of a datagram of host 2 completes the first half of one of host 1, and
the packet returned mixes the two. -/
theorem hosts_mixed : ¬ ∀ (arrivals : List Arrival) (table : FragmentTable),
    Steps Step {} arrivals table → ∀ front arrival back packet,
    arrivals = front ++ arrival :: back → arrival.result = some packet →
    ∃ pieces, (∀ piece ∈ pieces, piece ∈ (front ++ [arrival]).map Arrival.fragment ∧
      SameDatagram piece arrival.fragment) ∧ Composed pieces packet := by
  intro separate
  obtain ⟨pieces, hsame, first, rest, len, rfl, hpacket⟩ := separate _ _
    (execute_steps {} [(5, 5, firstHalf), (7, 7, strangersHalf)])
    [⟨5, 5, firstHalf, none⟩] ⟨7, 7, strangersHalf, _⟩ []
    (fragmentBytes 1 (0x20, 0) [1, 2, 3, 4, 5, 6, 7, 8, 9, 10, 11]) rfl rfl
  obtain ⟨hgiven, hsource, -⟩ := hsame first List.mem_cons_self
  -- only the second fragment comes from host 2
  obtain rfl : first = strangersHalf := by
    simp only [List.map_cons, List.map_nil, List.singleton_append, List.mem_cons,
      List.not_mem_nil, or_false] at hgiven
    rcases hgiven with rfl | rfl
    · exact absurd hsource (by decide)
    · rfl
  have hbyte := congrArg (fun bytes => IpHeader.byteAt bytes 15) hpacket
  simp only [IpHeader.byteAt_setPacketLen_of_ne (i := 15) (by decide) (by decide)] at hbyte
  rw [IpHeader.byteAt_append (by decide)] at hbyte
  exact absurd hbyte (by decide)

end FragmentTable

end OrkAudio
