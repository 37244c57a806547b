import OrkAudio.TcpListener.Model

/-! Frames are handled as they were written, however their stream is received. -/

namespace OrkAudio.TcpListener

open Lib

variable {s : Socket} {buf : Nat → UInt8} {fuel pos len : Nat}

/-! ### One request -/

/-- While there are bytes, a request of some gets some of them. -/
theorem Socket.recv_of_bytes (s : Socket) (hbytes : s.bytes ≠ []) (hlen : 0 < len) :
    ∃ count next, s.recv len = (((count : Nat) : Int), s.bytes.take count, next) ∧ 0 < count ∧
      count ≤ len ∧ count ≤ s.bytes.length ∧ next.bytes = s.bytes.drop count ∧
      next.ending = s.ending := by
  have hpos : 0 < s.bytes.length := List.length_pos_iff.mpr hbytes
  have htake : s.bytes.take (min (min len (s.chop 0 + 1)) s.bytes.length) =
      s.bytes.take (min len (s.chop 0 + 1)) := List.take_eq_take_min.symm
  have hdrop : s.bytes.drop (min (min len (s.chop 0 + 1)) s.bytes.length) =
      s.bytes.drop (min len (s.chop 0 + 1)) := by
    by_cases hle : min len (s.chop 0 + 1) ≤ s.bytes.length
    · rw [Nat.min_eq_left hle]
    · rw [Nat.min_eq_right (by omega), List.drop_length, List.drop_eq_nil_of_le (by omega)]
  refine ⟨min (min len (s.chop 0 + 1)) s.bytes.length,
    { s with bytes := s.bytes.drop (min len (s.chop 0 + 1)), chop := fun k => s.chop (k + 1) },
    ?_, by omega, by omega, by omega, hdrop.symm, rfl⟩
  rw [recv, if_neg (by omega), if_neg hbytes, htake]
  simp only [List.length_take]

/-- A turn of the loop that gets bytes: it has all of them, or asks for the rest. -/
theorem read_succ (fuel : Nat) (buf : Nat → UInt8) (pos : Nat) (hbytes : s.bytes ≠ [])
    (hlen : 0 < len) :
    ∃ count next, 0 < count ∧ count ≤ len ∧ count ≤ s.bytes.length ∧
      next.bytes = s.bytes.drop count ∧ next.ending = s.ending ∧
      read (fuel + 1) s buf pos len =
        if count = len then
          some (false,
            { size := count, wantedLen := len, bufferPos := pos + count
              buf := Buffer.written buf pos (s.bytes.take count), socket := next })
        else
          read fuel next (Buffer.written buf pos (s.bytes.take count)) (pos + count)
            (len - count) := by
  obtain ⟨count, next, hrecv, hpos, hle, hlength, hnext, hending⟩ := s.recv_of_bytes hbytes hlen
  refine ⟨count, next, hpos, hle, hlength, hnext, hending, ?_⟩
  rw [read, startReading, hrecv, readLoop]
  dsimp only
  by_cases hall : count = len
  · rw [if_pos (by rw [hall]), if_pos hall]
  · have hrest : (len : Int) - count = ((len - count : Nat) : Int) := by omega
    have hplace : ((pos : Int) + count).toNat = pos + count := by omega
    rw [if_neg (by omega), if_neg (by omega), if_neg hall, read, startReading, hrest, hplace,
      Int.toNat_natCast, Int.natCast_add]

/-! ### Whole reads -/

/-- When there are enough bytes, all that are asked for are put into the buffer. -/
theorem read_full (s : Socket) (buf : Nat → UInt8) (pos : Nat) (hfuel : len < fuel)
    (hlength : len ≤ s.bytes.length) :
    ∃ r, read fuel s buf pos len = some (false, r) ∧ r.bufferPos = pos + len ∧
      Ring.slice r.buf 0 (pos + len) = Ring.slice buf 0 pos ++ s.bytes.take len ∧
      r.socket.bytes = s.bytes.drop len ∧ r.socket.ending = s.ending := by
  induction len using Nat.strongRecOn generalizing fuel s buf pos with
  | _ len ih =>
      obtain ⟨fuel, rfl⟩ : ∃ less, fuel = less + 1 := Nat.exists_eq_succ_of_ne_zero (by omega)
      by_cases hzero : len = 0
      · subst hzero
        have hstart : startReading s buf pos 0 =
            { size := 0, wantedLen := 0, bufferPos := pos, buf := Buffer.written buf pos []
              socket := s } := by
          simp [startReading, Socket.recv]
        refine ⟨startReading s buf pos 0, ?_, ?_, ?_, ?_, ?_⟩
        · rw [read, readLoop, hstart, if_pos rfl]
        · simp [hstart]
        · rw [hstart]
          exact Buffer.slice_written_append buf pos []
        · rw [hstart, List.drop_zero]
        · rw [hstart]
      · have hbytes : s.bytes ≠ [] := List.ne_nil_of_length_pos (by omega)
        obtain ⟨count, next, hpos, hle, hcount, hnext, hending, hread⟩ :=
          read_succ fuel buf pos hbytes (Nat.pos_of_ne_zero hzero)
        have hlengthTake : (s.bytes.take count).length = count := List.length_take_of_le hcount
        have hwritten : Ring.slice (Buffer.written buf pos (s.bytes.take count)) 0 (pos + count) =
            Ring.slice buf 0 pos ++ s.bytes.take count := by
          have happend := Buffer.slice_written_append buf pos (s.bytes.take count)
          rwa [hlengthTake] at happend
        rw [hread]
        by_cases hall : count = len
        · subst hall
          rw [if_pos rfl]
          exact ⟨_, rfl, rfl, hwritten, hnext, hending⟩
        · rw [if_neg hall]
          have hrest : len - count ≤ next.bytes.length := by
            rw [hnext, List.length_drop]
            omega
          obtain ⟨r, hresult, hplace, hslice, hleft, hend⟩ :=
            ih (len - count) (by omega) next _ _ (by omega : len - count < fuel) hrest
          refine ⟨r, hresult, ?_, ?_, ?_, hend.trans hending⟩
          · rw [hplace]
            omega
          · have htotal : pos + count + (len - count) = pos + len := by omega
            have htake : s.bytes.take len =
                s.bytes.take count ++ (s.bytes.drop count).take (len - count) := by
              rw [← List.take_add]
              congr 1
              omega
            rw [htotal, hwritten, hnext, List.append_assoc, ← htake] at hslice
            exact hslice
          · rw [hleft, hnext, List.drop_drop]
            congr 1
            omega

/-- When the stream ends before, the position in the buffer shows it; what stands before it in
the buffer is left alone. -/
theorem read_short (s : Socket) (buf : Nat → UInt8) (pos : Nat) (hfuel : s.bytes.length < fuel)
    (hlength : s.bytes.length < len) :
    ∃ r, read fuel s buf pos len = some (true, r) ∧ r.bufferPos < pos + len ∧
      ∀ i < pos, r.buf i = buf i := by
  have hbefore (start : Nat → UInt8) (values : List UInt8) (i : Nat) (hi : i < pos) :
      Buffer.written start pos values i = start i := if_neg (by omega)
  induction fuel generalizing s buf pos len with
  | zero => omega
  | succ fuel ih =>
      by_cases hbytes : s.bytes = []
      · have hsize : ∃ size, s.recv len = (size, [], s) ∧ (size = 0 ∨ size = -1) := by
          rw [Socket.recv, if_neg (by omega), if_pos hbytes]
          cases s.ending with
          | closed => exact ⟨0, rfl, .inl rfl⟩
          | error => exact ⟨-1, rfl, .inr rfl⟩
        obtain ⟨size, hrecv, hsize⟩ := hsize
        refine ⟨startReading s buf pos len, ?_, ?_, ?_⟩
        · rw [read, readLoop, startReading, hrecv]
          dsimp only
          rw [if_neg (by omega), if_pos (by omega)]
        · rw [startReading, hrecv]
          dsimp only
          omega
        · rw [startReading, hrecv]
          exact hbefore buf []
      · obtain ⟨count, next, hpos, hle, hcount, hnext, -, hread⟩ :=
          read_succ fuel buf pos hbytes (by omega : 0 < len)
        have hleft : next.bytes.length = s.bytes.length - count := by
          rw [hnext, List.length_drop]
        rw [hread, if_neg (by omega)]
        obtain ⟨r, hresult, hplace, hkept⟩ := ih next
          (Buffer.written buf pos (s.bytes.take count)) (pos + count)
          (by omega : next.bytes.length < fuel) (by omega : next.bytes.length < len - count)
          (fun _ _ i hi => if_neg (by omega))
        refine ⟨r, hresult, by omega, ?_⟩
        intro i hi
        exact (hkept i (by omega)).trans (hbefore buf _ i hi)

/-! ### Frames -/

/-- A frame that a sender may write to a listener with this limit. -/
structure Frame (mtuMaxSize : Nat) where
  seq : UInt32
  payload : List UInt8
  length_lt : payload.length < 65536
  fits : encapsulationSize + payload.length ≤ mtuMaxSize

namespace Frame

variable {mtuMaxSize : Nat} (f : Frame mtuMaxSize)

def header : List UInt8 :=
  [0xbe, 0xef, 1] ++ LittleEndian.word f.seq ++
    [UInt8.ofNat (f.payload.length / 256), UInt8.ofNat f.payload.length]

def bytes : List UInt8 := f.header ++ f.payload

/-- The call of `HandlePacket` for the frame. -/
def handled : HandledPacket where
  caplen := f.payload.length
  packet := f.payload

theorem length_header : f.header.length = encapsulationSize := by
  simp [header, encapsulationSize]

theorem length_bytes : f.bytes.length = encapsulationSize + f.payload.length := by
  rw [bytes, List.length_append, length_header]

/-- What the reader makes of the header. -/
theorem fields_of_header (hheader : Ring.slice buf 0 encapsulationSize = f.header) :
    protocol buf = 0xbeef ∧ version buf = 1 ∧ totalPacketLength buf = f.payload.length := by
  have hcells : Ring.slice buf 0 encapsulationSize =
      [buf 0, buf 1, buf 2, buf 3, buf 4, buf 5, buf 6, buf 7, buf 8] := by
    simp [Ring.slice, encapsulationSize, List.range_succ]
  have hfields : f.header =
      0xbe :: 0xef :: 1 :: (LittleEndian.word f.seq ++
        [UInt8.ofNat (f.payload.length / 256), UInt8.ofNat f.payload.length]) := rfl
  have hseq : ∃ a b c d, LittleEndian.word f.seq = [a, b, c, d] := ⟨_, _, _, _, rfl⟩
  obtain ⟨a, b, c, d, hseq⟩ := hseq
  rw [hcells, hfields, hseq] at hheader
  simp only [List.cons_append, List.nil_append, List.cons.injEq, and_true] at hheader
  obtain ⟨h0, h1, h2, -, -, -, -, h7, h8⟩ := hheader
  have hlt := f.length_lt
  refine ⟨?_, ?_, ?_⟩
  · rw [protocol, h0, h1]
    rfl
  · rw [version, h2]
    rfl
  · rw [totalPacketLength, h7, h8, ntohs, UInt8.toNat_ofNat', UInt8.toNat_ofNat']
    omega

theorem le_payloadLimit : f.payload.length ≤ payloadLimit mtuMaxSize := by
  have hfits := f.fits
  rw [payloadLimit, if_pos (by omega)]
  omega

end Frame

/-! ### The connection -/

section

variable {mtuMaxSize readFuel : Nat} {env : Env} {c : Connection}

theorem keepAlive_of_sends (hsend : ∀ k, env.send k = 4) (c : Connection) :
    ∃ timer timeCalls sendCalls, keepAlive env c = some
      { c with keepAliveTimer := timer, timeCalls := timeCalls, sendCalls := sendCalls } := by
  unfold keepAlive
  split_ifs with htime hfailed
  · exact absurd (hsend _) hfailed
  · exact ⟨_, _, _, rfl⟩
  · exact ⟨_, _, _, rfl⟩

/-- A turn of the outer loop on a whole frame. -/
theorem connectionLoop_frame (f : Frame mtuMaxSize) {rest : List UInt8}
    (hbytes : c.socket.bytes = f.bytes ++ rest) (hfuel : c.socket.bytes.length < readFuel)
    (hsend : ∀ k, env.send k = 4) (fuel : Nat) :
    ∃ next, next.socket.bytes = rest ∧
      connectionLoop mtuMaxSize env readFuel (fuel + 1) c =
        (connectionLoop mtuMaxSize env readFuel fuel next).map (f.handled :: ·) := by
  have hlength : c.socket.bytes.length = encapsulationSize + f.payload.length + rest.length := by
    rw [hbytes, List.length_append, f.length_bytes]
  obtain ⟨header, hreadHeader, hplaceHeader, hsliceHeader, hleftHeader, -⟩ :=
    read_full c.socket (fun _ => 0) 0 (by omega : encapsulationSize < readFuel) (by omega)
  have htakeHeader : c.socket.bytes.take encapsulationSize = f.header := by
    rw [hbytes, Frame.bytes, List.append_assoc, ← f.length_header, List.take_left]
  have hdropHeader : header.socket.bytes = f.payload ++ rest := by
    rw [hleftHeader, hbytes, Frame.bytes, List.append_assoc, ← f.length_header, List.drop_left]
  have hheader : Ring.slice header.buf 0 encapsulationSize = f.header := by
    rw [Nat.zero_add] at hsliceHeader
    rw [hsliceHeader, htakeHeader]
    rfl
  obtain ⟨hprotocol, hversion, htotal⟩ := f.fields_of_header hheader
  have hlengthLeft : header.socket.bytes.length = f.payload.length + rest.length := by
    rw [hdropHeader, List.length_append]
  obtain ⟨r, hread, hplace, hslice, hleft, -⟩ := read_full header.socket header.buf
    encapsulationSize (by omega : f.payload.length < readFuel) (by omega)
  have hparts : Ring.slice r.buf 0 encapsulationSize = f.header ∧
      Ring.slice r.buf encapsulationSize f.payload.length = f.payload := by
    rw [Ring.slice_append, hheader, hdropHeader, List.take_left, Nat.zero_add] at hslice
    exact List.append_inj hslice (by rw [Ring.slice_length, f.length_header])
  have htotalAfter := (f.fields_of_header hparts.1).2.2
  have hlimit := f.le_payloadLimit
  obtain ⟨timer, timeCalls, sendCalls, halive⟩ :=
    keepAlive_of_sends hsend { c with socket := r.socket }
  refine ⟨{ c with
    socket := r.socket, keepAliveTimer := timer, timeCalls := timeCalls, sendCalls := sendCalls },
    ?_, ?_⟩
  · rw [hleft, hdropHeader, List.drop_left]
  · rw [connectionLoop, hreadHeader]
    dsimp only
    rw [if_neg (by rw [hplaceHeader]; simp), if_neg (by simp [hprotocol, hversion]),
      if_neg (by omega), htotal, hread]
    dsimp only
    rw [htotalAfter, if_neg (by rw [hplace]; simp), hparts.2, halive]
    rfl

/-- The last turn, on what is left of a frame that is cut off. -/
theorem connectionLoop_cut (f : Frame mtuMaxSize) {missing : List UInt8}
    (hbytes : c.socket.bytes ++ missing = f.bytes) (hmissing : missing ≠ [])
    (hfuel : c.socket.bytes.length < readFuel) (fuel : Nat) :
    connectionLoop mtuMaxSize env readFuel (fuel + 1) c = some [] := by
  have hpos : 0 < missing.length := List.length_pos_iff.mpr hmissing
  have hlength := congrArg List.length hbytes
  rw [List.length_append, f.length_bytes] at hlength
  rw [connectionLoop]
  by_cases hcut : c.socket.bytes.length < encapsulationSize
  · obtain ⟨header, hread, hplace, -⟩ := read_short c.socket (fun _ => 0) 0
      (by omega : c.socket.bytes.length < readFuel) hcut
    rw [hread]
    exact if_pos (by omega)
  · obtain ⟨header, hreadHeader, hplaceHeader, hsliceHeader, hleftHeader, -⟩ :=
      read_full c.socket (fun _ => 0) 0 (by omega : encapsulationSize < readFuel) (by omega)
    have htake : c.socket.bytes.take encapsulationSize = f.header := by
      have htakeWhole : (c.socket.bytes ++ missing).take encapsulationSize = f.header := by
        rw [hbytes, Frame.bytes, ← f.length_header, List.take_left]
      rwa [List.take_append_of_le_length (by omega)] at htakeWhole
    have hheader : Ring.slice header.buf 0 encapsulationSize = f.header := by
      rw [Nat.zero_add] at hsliceHeader
      rw [hsliceHeader, htake]
      rfl
    obtain ⟨hprotocol, hversion, htotal⟩ := f.fields_of_header hheader
    have hlimit := f.le_payloadLimit
    have hleft : header.socket.bytes.length = c.socket.bytes.length - encapsulationSize := by
      rw [hleftHeader, List.length_drop]
    obtain ⟨r, hread, hplace, hkept⟩ := read_short header.socket header.buf encapsulationSize
      (by omega : header.socket.bytes.length < readFuel)
      (by omega : header.socket.bytes.length < f.payload.length)
    have htotalAfter : totalPacketLength r.buf = f.payload.length := by
      rw [totalPacketLength, hkept 7 (by decide), hkept 8 (by decide)]
      exact htotal
    rw [hreadHeader]
    dsimp only
    rw [if_neg (by rw [hplaceHeader]; simp), if_neg (by simp [hprotocol, hversion]),
      if_neg (by omega), htotal, hread]
    dsimp only
    rw [htotalAfter, if_pos (by omega)]

theorem connectionLoop_nil (hbytes : c.socket.bytes = []) (hfuel : 0 < readFuel) (fuel : Nat) :
    connectionLoop mtuMaxSize env readFuel (fuel + 1) c = some [] := by
  obtain ⟨header, hread, hplace, -⟩ := read_short c.socket (fun _ => 0) 0
    (by rw [hbytes]; exact hfuel) (by rw [hbytes]; decide : c.socket.bytes.length < encapsulationSize)
  rw [connectionLoop, hread]
  exact if_pos (by omega)

/-- The bytes of a frame but not all of them, or none. -/
def CutOff (mtuMaxSize : Nat) (left : List UInt8) : Prop :=
  left = [] ∨ ∃ (f : Frame mtuMaxSize) (missing : List UInt8), missing ≠ [] ∧
    left ++ missing = f.bytes

theorem connectionLoop_frames (hsend : ∀ k, env.send k = 4) (frames : List (Frame mtuMaxSize))
    {left : List UInt8} (hleft : CutOff mtuMaxSize left) {fuel : Nat}
    (hbytes : c.socket.bytes = frames.flatMap Frame.bytes ++ left)
    (hread : c.socket.bytes.length < readFuel) (hfuel : c.socket.bytes.length < fuel) :
    connectionLoop mtuMaxSize env readFuel fuel c = some (frames.map Frame.handled) := by
  induction frames generalizing c fuel with
  | nil =>
      obtain ⟨fuel, rfl⟩ : ∃ less, fuel = less + 1 := Nat.exists_eq_succ_of_ne_zero (by omega)
      rcases hleft with hnone | ⟨f, missing, hmissing, hwhole⟩
      · apply connectionLoop_nil _ (by omega)
        rw [hbytes, hnone]
        rfl
      · apply connectionLoop_cut f _ hmissing hread
        rw [hbytes, ← hwhole]
        rfl
  | cons f frames ih =>
      obtain ⟨fuel, rfl⟩ : ∃ less, fuel = less + 1 := Nat.exists_eq_succ_of_ne_zero (by omega)
      rw [List.flatMap_cons, List.append_assoc] at hbytes
      obtain ⟨next, hnext, hloop⟩ := connectionLoop_frame f hbytes hread hsend fuel
      have hlength := congrArg List.length hbytes
      rw [List.length_append, f.length_bytes, ← hnext, encapsulationSize] at hlength
      rw [hloop, ih hnext (by omega) (by omega)]
      rfl

/-- The connection handles every whole frame of its stream, in order and with just its
payload, and ends. -/
theorem handleTcpConnection_frames (mtuMaxSize : Nat) (env : Env)
    (hsend : ∀ k, env.send k = 4) (frames : List (Frame mtuMaxSize)) (left : List UInt8)
    (hleft : CutOff mtuMaxSize left) (chop : Nat → Nat) (ending : Ending) :
    handleTcpConnection mtuMaxSize env
        { bytes := frames.flatMap Frame.bytes ++ left, chop := chop, ending := ending } =
      some (frames.map Frame.handled) :=
  connectionLoop_frames hsend frames hleft rfl (Nat.lt_succ_self _) (Nat.lt_succ_self _)

end

/-! Two frames, one of them empty, and a part of a third, received byte by byte. -/

section

def shortFrame : Frame 1500 where
  seq := 1
  payload := [1, 2, 3]
  length_lt := by decide
  fits := by decide

def emptyFrame : Frame 1500 where
  seq := 2
  payload := []
  length_lt := by decide
  fits := by decide

theorem handleTcpConnection_frames_bytewise :
    handleTcpConnection 1500 { time := fun k => 3 * k, send := fun _ => 4 }
        { bytes := shortFrame.bytes ++ emptyFrame.bytes ++ [0xbe, 0xef, 1]
          chop := fun _ => 0, ending := .closed } =
      some [{ caplen := 3, packet := [1, 2, 3] }, { caplen := 0, packet := [] }] :=
  handleTcpConnection_frames 1500 { time := fun k => 3 * k, send := fun _ => 4 } (fun _ => rfl)
    [shortFrame, emptyFrame] [0xbe, 0xef, 1]
    (.inr ⟨emptyFrame, emptyFrame.bytes.drop 3, by decide, rfl⟩) (fun _ => 0) .closed

end

end OrkAudio.TcpListener
