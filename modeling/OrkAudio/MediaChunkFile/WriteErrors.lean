import OrkAudio.MediaChunkFile.RoundTrip

/-! Capture files on a stream whose writes may fail.

A disk says of every write of the stream, in their order, whether it succeeds. A write that
fails leaves a part of its bytes in the file, and the stream stays bad after it. -/

namespace OrkAudio.MediaChunkFile

open Lib

/-- None where the write succeeds, and otherwise how many bytes get out before it fails, if it
was given more. -/
abbrev Disk := Nat → Option Nat

/-- `std::fstream::write` as the write of this number. -/
def writeTo (disk : Disk) (number : Nat) (stream : OutputStream) (data : List UInt8)
    (count : Int) : OutputStream :=
  match disk number with
  | none => stream.write data count
  | some room =>
      if stream.good ∧ 0 ≤ count then
        { bytes := stream.bytes ++ data.take (min room (count.toNat - 1)), good := false }
      else { stream with good := false }

structure Flushed where
  chunkQueue : List AudioChunkRef
  stream : OutputStream
  writes : Nat
  writeError : Bool

/-- The loop of `FlushToDisk`. -/
def flushChunksTo (disk : Disk) : Nat → List AudioChunkRef → OutputStream → Flushed
  | writes, [], stream => ⟨[], stream, writes, false⟩
  | writes, none :: queue, stream => flushChunksTo disk writes queue stream
  | writes, some chunk :: queue, stream =>
      match chunk.buffer with
      | none => flushChunksTo disk writes queue stream
      | some memory =>
          let details := writeTo disk writes stream chunk.details.bytes ChunkDetails.byteSize
          if details.good = false then ⟨queue, details, writes + 1, true⟩
          else
            let data := writeTo disk (writes + 1) details memory chunk.getNumBytes
            if data.good = false then ⟨queue, data, writes + 2, true⟩
            else flushChunksTo disk (writes + 2) queue data

/-- A file, and how many writes of its stream there were. -/
structure DiskFile extends Writing where
  writes : Nat

namespace DiskFile

def opened (filename : String) : DiskFile := { Writing.opened filename with writes := 0 }

def flushToDisk (disk : Disk) (file : DiskFile) : DiskFile × Bool :=
  let flushed := flushChunksTo disk file.writes file.chunkQueue file.stream
  ({ file with
      chunkQueue := flushed.chunkQueue
      stream := flushed.stream
      chunkQueueDataSize := 0
      writes := flushed.writes },
    flushed.writeError)

/-- The counter after one more chunk. -/
def sizeWith (file : DiskFile) (chunk : Chunk) : Nat :=
  ((file.chunkQueueDataSize + chunk.getNumBytes) % 18446744073709551616).toNat

/-- `WriteChunk`, with the text of the exception, if one is thrown. -/
def writeChunk (disk : Disk) (batchSizeKByte : Int) (file : DiskFile) (chunkRef : AudioChunkRef) :
    DiskFile × Option String :=
  match chunkRef with
  | none => (file, none)
  | some chunk =>
      if chunk.details.numBytes = 0 then (file, none)
      else
        let queued := { file with
          chunkQueueDataSize := file.sizeWith chunk
          chunkQueue := file.chunkQueue ++ [some chunk] }
        if toU32 (batchSizeKByte * 1024) < queued.chunkQueueDataSize then
          if file.isOpen then
            ((queued.flushToDisk disk).1,
              if (queued.flushToDisk disk).2 then some ("Could not write to file:" ++ file.filename)
              else none)
          else (queued, some ("Write attempt on unopened file:" ++ file.filename))
        else (queued, none)

/-- A call of `WriteChunk`, whether it throws or not. -/
def Step (disk : Disk) (batchSizeKByte : Int) (file : DiskFile) (chunkRef : AudioChunkRef)
    (file' : DiskFile) : Prop :=
  (file.writeChunk disk batchSizeKByte chunkRef).1 = file'

end DiskFile

/-! ### A disk without failures -/

theorem writeTo_reliable (number : Nat) (stream : OutputStream) (data : List UInt8) (count : Int) :
    writeTo (fun _ => none) number stream data count = stream.write data count := rfl

theorem flushChunksTo_reliable (queue : List AudioChunkRef) (stream : OutputStream)
    (writes : Nat) :
    Writing.flushChunks queue stream =
      ((flushChunksTo (fun _ => none) writes queue stream).chunkQueue,
        (flushChunksTo (fun _ => none) writes queue stream).stream,
        (flushChunksTo (fun _ => none) writes queue stream).writeError) := by
  induction queue generalizing stream writes with
  | nil => rfl
  | cons chunkRef queue ih =>
      cases chunkRef with
      | none => exact ih stream writes
      | some chunk =>
          rw [flushChunksTo, Writing.flushChunks]
          cases chunk.buffer with
          | none => exact ih stream writes
          | some memory =>
              dsimp only
              rw [writeTo_reliable, writeTo_reliable]
              split_ifs
              · rfl
              · rfl
              · exact ih _ _

theorem flushToDisk_reliable (file : DiskFile) :
    file.toWriting.flushToDisk =
      ((file.flushToDisk fun _ => none).1.toWriting, (file.flushToDisk fun _ => none).2) := by
  simp only [Writing.flushToDisk, DiskFile.flushToDisk,
    flushChunksTo_reliable file.chunkQueue file.stream file.writes]

/-- Where no write fails, `WriteChunk` is the one of a reliable stream. -/
theorem writeChunk_reliable (batchSizeKByte : Int) (file : DiskFile) (chunkRef : AudioChunkRef) :
    file.toWriting.writeChunk batchSizeKByte chunkRef =
      ((file.writeChunk (fun _ => none) batchSizeKByte chunkRef).1.toWriting,
        (file.writeChunk (fun _ => none) batchSizeKByte chunkRef).2) := by
  cases chunkRef with
  | none => rfl
  | some chunk =>
      have hflush := flushToDisk_reliable { file with
        chunkQueueDataSize := file.sizeWith chunk
        chunkQueue := file.chunkQueue ++ [some chunk] }
      rw [Writing.writeChunk, DiskFile.writeChunk]
      by_cases hempty : chunk.details.numBytes = 0
      · rw [if_pos hempty, if_pos hempty]
      · rw [if_neg hempty, if_neg hempty]
        dsimp only
        by_cases hlimit : toU32 (batchSizeKByte * 1024) < file.sizeWith chunk
        · rw [if_pos hlimit, if_pos (by exact hlimit)]
          by_cases hopen : file.isOpen = true
          · rw [if_pos hopen, if_pos hopen]
            exact congrArg (fun flushed : Writing × Bool => (flushed.1,
              if flushed.2 = true then some ("Could not write to file:" ++ file.filename)
              else none)) hflush
          · rw [if_neg hopen, if_neg hopen]
            rfl
        · rw [if_neg hlimit, if_neg (by exact hlimit)]
          rfl

/-! ### Flushing -/

/-- The chunks have fewer than 2147483648 bytes and a buffer, and their writes, two for each
of them, succeed. -/
def Succeeds (disk : Disk) : Nat → List Chunk → Prop
  | _, [] => True
  | writes, chunk :: chunks =>
      chunk.details.numBytes.toNat < 2147483648 ∧ chunk.buffer.isSome = true ∧
        disk writes = none ∧ disk (writes + 1) = none ∧ Succeeds disk (writes + 2) chunks

theorem Succeeds.size {disk : Disk} {writes : Nat} {chunks : List Chunk}
    (succeeds : Succeeds disk writes chunks) :
    ∀ chunk ∈ chunks, chunk.details.numBytes.toNat < 2147483648 := by
  induction chunks generalizing writes with
  | nil =>
      intro chunk hmem
      cases hmem
  | cons first chunks ih =>
      obtain ⟨hsize, -, -, -, hrest⟩ := succeeds
      intro chunk hmem
      rcases List.mem_cons.mp hmem with rfl | hmem
      · exact hsize
      · exact ih hrest chunk hmem

theorem length_bytes_chunk_pos (chunk : Chunk) : 0 < chunk.bytes.length := by
  rw [Chunk.bytes, List.length_append, ChunkDetails.length_bytes]
  exact Nat.add_pos_left (by decide) _

theorem writeTo_details {disk : Disk} {writes : Nat} (hwrite : disk writes = none)
    {stream : OutputStream} (hgood : stream.good = true) (details : ChunkDetails) :
    writeTo disk writes stream details.bytes ChunkDetails.byteSize =
      { bytes := stream.bytes ++ details.bytes, good := true } := by
  rw [writeTo, hwrite]
  dsimp only
  rw [OutputStream.write, if_pos ⟨hgood, Int.natCast_nonneg _⟩, Int.toNat_natCast,
    ← details.length_bytes, List.take_length, hgood]

theorem getNumBytes_of_lt {chunk : Chunk} (hsize : chunk.details.numBytes.toNat < 2147483648) :
    chunk.getNumBytes = chunk.details.numBytes.toNat := toInt32_of_lt hsize

theorem writeTo_data {disk : Disk} {writes : Nat} (hwrite : disk writes = none)
    {stream : OutputStream} (hgood : stream.good = true) {chunk : Chunk} {memory : List UInt8}
    (hbuffer : chunk.buffer = some memory) (hsize : chunk.details.numBytes.toNat < 2147483648) :
    writeTo disk writes stream memory chunk.getNumBytes =
      { bytes := stream.bytes ++ memory, good := true } := by
  rw [writeTo, hwrite, getNumBytes_of_lt hsize]
  dsimp only
  rw [OutputStream.write, if_pos ⟨hgood, Int.natCast_nonneg _⟩, Int.toNat_natCast,
    ← chunk.sized memory hbuffer, List.take_length, hgood]

/-- A write that fails leaves fewer bytes than it was given. -/
theorem writeTo_failing {disk : Disk} {writes room : Nat} (hwrite : disk writes = some room)
    (stream : OutputStream) {data : List UInt8} (hdata : 0 < data.length) (count : Int)
    (hcount : count ≤ data.length) :
    (writeTo disk writes stream data count).good = false ∧
      (writeTo disk writes stream data count).bytes.length < stream.bytes.length + data.length := by
  rw [writeTo, hwrite]
  dsimp only
  split_ifs
  · refine ⟨rfl, ?_⟩
    rw [List.length_append, List.length_take]
    omega
  · refine ⟨rfl, ?_⟩
    dsimp only
    omega

theorem writeTo_negative (disk : Disk) (writes : Nat) (stream : OutputStream) (data : List UInt8)
    {count : Int} (hcount : count < 0) :
    writeTo disk writes stream data count = { stream with good := false } := by
  have hnot : ¬ (stream.good = true ∧ 0 ≤ count) := fun h => absurd h.2 (Int.not_le.mpr hcount)
  rw [writeTo]
  split
  · exact if_neg hnot
  · exact if_neg hnot

/-- Where the data is not all written the flush ends. -/
theorem flushChunksTo_data {disk : Disk} {writes : Nat} {chunk : Chunk} {memory : List UInt8}
    (queue : List AudioChunkRef) {stream : OutputStream} (hgood : stream.good = true)
    (hbuffer : chunk.buffer = some memory) (hdetails : disk writes = none)
    (hdata : (writeTo disk (writes + 1) { bytes := stream.bytes ++ chunk.details.bytes, good := true }
      memory chunk.getNumBytes).good = false) :
    flushChunksTo disk writes (some chunk :: queue) stream =
      ⟨queue, writeTo disk (writes + 1)
        { bytes := stream.bytes ++ chunk.details.bytes, good := true } memory chunk.getNumBytes,
        writes + 2, true⟩ := by
  rw [flushChunksTo, hbuffer]
  dsimp only
  rw [writeTo_details hdetails hgood, if_neg Bool.false_ne_true.symm, if_pos hdata]

/-- The chunks are all written. -/
theorem flushChunksTo_succeeds {disk : Disk} {writes : Nat} {chunks : List Chunk}
    {stream : OutputStream} (hgood : stream.good = true) (succeeds : Succeeds disk writes chunks) :
    ∃ writes', flushChunksTo disk writes (chunks.map some) stream =
      ⟨[], { bytes := stream.bytes ++ fileBytes chunks, good := true }, writes', false⟩ := by
  induction chunks generalizing writes stream with
  | nil =>
      refine ⟨writes, ?_⟩
      rw [fileBytes_nil, List.append_nil, ← hgood]
      rfl
  | cons chunk chunks ih =>
      obtain ⟨hsize, hbuffer, hdetails, hdata, hrest⟩ := succeeds
      obtain ⟨memory, hmemory⟩ := Option.isSome_iff_exists.mp hbuffer
      have hopen : OutputStream.good
          { bytes := stream.bytes ++ chunk.details.bytes ++ memory, good := true } = true := rfl
      obtain ⟨writes', hflush⟩ := ih hopen hrest
      refine ⟨writes', ?_⟩
      rw [List.map_cons, flushChunksTo, hmemory]
      dsimp only
      rw [writeTo_details hdetails hgood, if_neg Bool.false_ne_true.symm,
        writeTo_data hdata rfl hmemory hsize, if_neg Bool.false_ne_true.symm, hflush, fileBytes_cons,
        Chunk.bytes, hmemory, Option.getD_some]
      simp only [List.append_assoc]

/-- Otherwise some of the chunks that leave the queue are not in the file. -/
theorem flushChunksTo_loses {disk : Disk} {writes : Nat} {chunks : List Chunk}
    {stream : OutputStream} (hgood : stream.good = true)
    (hbytes : ∀ chunk ∈ chunks, chunk.details.numBytes ≠ 0)
    (hfails : ¬ Succeeds disk writes chunks) :
    ∃ count, (flushChunksTo disk writes (chunks.map some) stream).chunkQueue =
        (chunks.drop count).map some ∧
      (flushChunksTo disk writes (chunks.map some) stream).stream.bytes.length <
        stream.bytes.length + (fileBytes (chunks.take count)).length := by
  induction chunks generalizing writes stream with
  | nil => exact absurd trivial hfails
  | cons chunk chunks ih =>
      have hrest : ∀ chunk ∈ chunks, chunk.details.numBytes ≠ 0 := fun chunk hmem =>
        hbytes chunk (List.mem_cons_of_mem _ hmem)
      have hpositive : 0 < chunk.details.numBytes.toNat := by
        apply Nat.pos_of_ne_zero
        intro hzero
        exact hbytes chunk List.mem_cons_self (UInt32.toNat_inj.mp hzero)
      cases hbuffer : chunk.buffer with
      | none =>
          -- the chunk is dropped, whatever becomes of the others
          have hskip : flushChunksTo disk writes ((chunk :: chunks).map some) stream =
              flushChunksTo disk writes (chunks.map some) stream := by
            rw [List.map_cons, flushChunksTo, hbuffer]
          have hlength := length_bytes_chunk_pos chunk
          rw [hskip]
          by_cases hothers : Succeeds disk writes chunks
          · obtain ⟨writes', hflush⟩ := flushChunksTo_succeeds hgood hothers
            refine ⟨chunks.length + 1, ?_, ?_⟩
            · rw [hflush, List.drop_succ_cons, List.drop_length]
              rfl
            · rw [hflush, List.take_succ_cons, List.take_length, fileBytes_cons]
              simp only [List.length_append]
              omega
          · obtain ⟨count, hqueue, hless⟩ := ih hgood hrest hothers
            refine ⟨count + 1, hqueue, ?_⟩
            rw [List.take_succ_cons, fileBytes_cons, List.length_append]
            omega
      | some memory =>
          have hmemory := chunk.sized memory hbuffer
          have hlength : chunk.bytes.length = chunk.details.bytes.length + memory.length := by
            rw [Chunk.bytes, hbuffer, Option.getD_some, List.length_append]
          have hone : (fileBytes ((chunk :: chunks).take 1)).length =
              chunk.details.bytes.length + memory.length := by
            rw [List.take_succ_cons, List.take_zero, fileBytes_cons, fileBytes_nil,
              List.append_nil, hlength]
          cases hdetails : disk writes with
          | some room =>
              have hpos : 0 < chunk.details.bytes.length := by
                rw [ChunkDetails.length_bytes]
                exact Nat.succ_pos 31
              obtain ⟨hbad, hless⟩ := writeTo_failing hdetails stream hpos ChunkDetails.byteSize
                (Int.le_of_eq (by rw [ChunkDetails.length_bytes]))
              refine ⟨1, ?_, ?_⟩
              all_goals
                rw [List.map_cons, flushChunksTo, hbuffer]
                dsimp only
                rw [if_pos hbad]
              · rfl
              · rw [hone]
                dsimp only
                omega
          | none =>
              by_cases hsize : chunk.details.numBytes.toNat < 2147483648
              · cases hdata : disk (writes + 1) with
                | some room =>
                    have hsome : 0 < memory.length := by omega
                    obtain ⟨hbad, hless⟩ := writeTo_failing hdata
                      { bytes := stream.bytes ++ chunk.details.bytes, good := true }
                      hsome chunk.getNumBytes
                      (Int.le_of_eq (by rw [getNumBytes_of_lt hsize, hmemory]))
                    rw [List.length_append] at hless
                    rw [List.map_cons, flushChunksTo_data _ hgood hbuffer hdetails hbad]
                    refine ⟨1, rfl, ?_⟩
                    rw [hone]
                    dsimp only
                    omega
                | none =>
                    have hothers : ¬ Succeeds disk (writes + 2) chunks := by
                      intro hothers
                      exact hfails ⟨hsize, by rw [hbuffer]; rfl, hdetails, hdata, hothers⟩
                    have hopen : OutputStream.good
                        { bytes := stream.bytes ++ chunk.details.bytes ++ memory,
                          good := true } = true := rfl
                    obtain ⟨count, hqueue, hless⟩ := ih hopen hrest hothers
                    have hnext : flushChunksTo disk writes ((chunk :: chunks).map some) stream =
                        flushChunksTo disk (writes + 2) (chunks.map some)
                          { bytes := stream.bytes ++ chunk.details.bytes ++ memory,
                            good := true } := by
                      rw [List.map_cons, flushChunksTo, hbuffer]
                      dsimp only
                      rw [writeTo_details hdetails hgood, if_neg Bool.false_ne_true.symm,
                        writeTo_data hdata rfl hbuffer hsize, if_neg Bool.false_ne_true.symm]
                    rw [hnext]
                    refine ⟨count + 1, hqueue, ?_⟩
                    rw [List.take_succ_cons, fileBytes_cons, List.length_append, hlength]
                    rw [List.length_append, List.length_append] at hless
                    omega
              · -- the count is a negative `int`
                have hnegative : chunk.getNumBytes < 0 := by
                  have hlt := chunk.details.numBytes.toNat_lt
                  rw [Chunk.getNumBytes, toInt32, if_neg hsize]
                  omega
                have hbad := writeTo_negative disk (writes + 1)
                  { bytes := stream.bytes ++ chunk.details.bytes, good := true } memory hnegative
                rw [List.map_cons, flushChunksTo_data _ hgood hbuffer hdetails (by rw [hbad]), hbad]
                refine ⟨1, rfl, ?_⟩
                dsimp only
                rw [hone, List.length_append]
                omega

/-! ### Accounting for the chunks -/

/-- The chunks that `WriteChunk` puts into the queue. -/
def accepted (chunkRefs : List AudioChunkRef) : List Chunk :=
  chunkRefs.filterMap fun chunkRef =>
    chunkRef.filter fun chunk => decide (chunk.details.numBytes ≠ 0)

def totalBytes : List Chunk → Nat
  | [] => 0
  | chunk :: chunks => chunk.details.numBytes.toNat + totalBytes chunks

/-- What was accepted is in the file or in the queue, in its order, and the counter has the
size of the queue. -/
def Accounted (file : Writing) (chunks : List Chunk) : Prop :=
  ∃ front back, chunks = front ++ back ∧ file.stream.bytes = fileBytes front ∧
    file.chunkQueue = back.map some ∧ file.chunkQueueDataSize = totalBytes back

theorem totalBytes_append (front back : List Chunk) :
    totalBytes (front ++ back) = totalBytes front + totalBytes back := by
  induction front with
  | nil => exact (Nat.zero_add _).symm
  | cons chunk front ih => rw [List.cons_append, totalBytes, totalBytes, ih, Nat.add_assoc]

theorem accepted_concat (chunkRefs : List AudioChunkRef) (chunkRef : AudioChunkRef) :
    accepted (chunkRefs ++ [chunkRef]) = accepted chunkRefs ++ accepted [chunkRef] :=
  List.filterMap_append

theorem accepted_nonempty {chunk : Chunk} (hbytes : chunk.details.numBytes ≠ 0) :
    accepted [some chunk] = [chunk] := by
  simp [accepted, Option.filter, hbytes]

theorem accepted_empty {chunk : Chunk} (hempty : chunk.details.numBytes = 0) :
    accepted [some chunk] = [] := by
  simp [accepted, Option.filter, hempty]

/-- The queue tells which chunks are still in it. -/
theorem Accounted.front {file : Writing} {front back : List Chunk}
    (accounted : Accounted file (front ++ back)) (hqueue : file.chunkQueue = back.map some) :
    file.stream.bytes = fileBytes front ∧ file.chunkQueueDataSize = totalBytes back := by
  obtain ⟨front', back', hchunks, hbytes, hqueue', hsize⟩ := accounted
  have hback : back = back' :=
    List.map_injective_iff.mpr (fun _ _ => Option.some.inj) (hqueue.symm.trans hqueue')
  subst hback
  obtain rfl : front = front' := List.append_cancel_right hchunks
  exact ⟨hbytes, hsize⟩

namespace DiskFile

variable {disk : Disk} {batchSizeKByte : Int} {file file' : DiskFile} {chunks : List Chunk}

/-- A chunk that is put into the queue has fewer than 2147483648 bytes; and when it makes the
call flush the queue, the chunks in it and their writes are as they should be. -/
def Admits (disk : Disk) (batchSizeKByte : Int) (file : DiskFile) (chunkRef : AudioChunkRef) :
    Prop :=
  ∀ chunk, chunkRef = some chunk → chunk.details.numBytes ≠ 0 →
    chunk.details.numBytes.toNat < 2147483648 ∧
      (toU32 (batchSizeKByte * 1024) < file.sizeWith chunk →
        Succeeds disk file.writes (file.chunkQueue.filterMap id ++ [chunk]))

/-- The state between two calls. -/
structure Sound (batchSizeKByte : Int) (file : DiskFile) (chunks : List Chunk) : Prop where
  isOpen : file.isOpen = true
  good : file.stream.good = true
  accounted : Accounted file.toWriting chunks
  size : file.chunkQueueDataSize ≤ toU32 (batchSizeKByte * 1024)
  queued : ∀ chunk, some chunk ∈ file.chunkQueue → chunk.details.numBytes ≠ 0

theorem opened_sound (batchSizeKByte : Int) (filename : String) :
    Sound batchSizeKByte (opened filename) [] where
  isOpen := rfl
  good := rfl
  accounted := ⟨[], [], rfl, rfl, rfl, rfl⟩
  size := Nat.zero_le _
  queued _ hmem := by cases hmem

/-- The file with one more chunk in its queue. -/
def push (file : DiskFile) (chunk : Chunk) : DiskFile :=
  { file with
    chunkQueueDataSize := file.sizeWith chunk
    chunkQueue := file.chunkQueue ++ [some chunk] }

theorem Sound.sizeWith (sound : Sound batchSizeKByte file chunks) {chunk : Chunk}
    (hsize : chunk.details.numBytes.toNat < 2147483648) :
    file.sizeWith chunk = file.chunkQueueDataSize + chunk.details.numBytes.toNat := by
  have hcounter := sound.size
  have hlimit := toU32_lt (batchSizeKByte * 1024)
  rw [DiskFile.sizeWith, getNumBytes_of_lt hsize]
  omega

/-- A size that is no `int` is not what the counter grows by. -/
theorem sizeWith_ne {chunk : Chunk} (hsize : ¬ chunk.details.numBytes.toNat < 2147483648) :
    file.sizeWith chunk ≠ file.chunkQueueDataSize + chunk.details.numBytes.toNat := by
  have hlt := chunk.details.numBytes.toNat_lt
  rw [DiskFile.sizeWith, Chunk.getNumBytes, toInt32, if_neg hsize]
  omega

theorem step_none (hstep : Step disk batchSizeKByte file none file') : file' = file := hstep.symm

theorem step_empty {chunk : Chunk} (hempty : chunk.details.numBytes = 0)
    (hstep : Step disk batchSizeKByte file (some chunk) file') : file' = file := by
  rw [Step, writeChunk, if_pos hempty] at hstep
  exact hstep.symm

theorem step_some (isOpen : file.isOpen = true) {chunk : Chunk}
    (hbytes : chunk.details.numBytes ≠ 0)
    (hstep : Step disk batchSizeKByte file (some chunk) file') :
    file' = if toU32 (batchSizeKByte * 1024) < file.sizeWith chunk then
      ((file.push chunk).flushToDisk disk).1 else file.push chunk := by
  rw [Step, writeChunk, if_neg hbytes] at hstep
  dsimp only at hstep
  rw [if_pos isOpen] at hstep
  rw [← hstep]
  split_ifs <;> rfl

/-- The queue with one more chunk, as chunks. -/
theorem Sound.queue (sound : Sound batchSizeKByte file chunks) :
    ∃ front back, chunks = front ++ back ∧ file.stream.bytes = fileBytes front ∧
      file.chunkQueue = back.map some ∧ file.chunkQueue.filterMap id = back ∧
      file.chunkQueueDataSize = totalBytes back ∧
      ∀ chunk ∈ back, chunk.details.numBytes ≠ 0 := by
  obtain ⟨front, back, hchunks, hbytes, hqueue, hsize⟩ := sound.accounted
  refine ⟨front, back, hchunks, hbytes, hqueue, ?_, hsize, ?_⟩
  · rw [hqueue, List.filterMap_map]
    exact List.filterMap_some
  · intro chunk hmem
    apply sound.queued
    rw [hqueue]
    exact List.mem_map_of_mem hmem

/-- A call that meets the condition keeps account of the chunks. -/
theorem Sound.step (sound : Sound batchSizeKByte file chunks) {chunkRef : AudioChunkRef}
    (admits : Admits disk batchSizeKByte file chunkRef)
    (hstep : Step disk batchSizeKByte file chunkRef file') :
    Sound batchSizeKByte file' (chunks ++ accepted [chunkRef]) := by
  cases chunkRef with
  | none =>
      rw [step_none hstep, show accepted [none] = [] from rfl, List.append_nil]
      exact sound
  | some chunk =>
      by_cases hempty : chunk.details.numBytes = 0
      · rw [step_empty hempty hstep, accepted_empty hempty, List.append_nil]
        exact sound
      · obtain ⟨hsize, hflush⟩ := admits chunk rfl hempty
        obtain ⟨front, back, rfl, hbytes, hqueue, hback, hcounter, hnonempty⟩ := sound.queue
        have hsizeWith := sound.sizeWith hsize
        rw [step_some sound.isOpen hempty hstep, accepted_nonempty hempty]
        split_ifs with hlimit
        · have hsucceeds := hflush hlimit
          rw [hback] at hsucceeds
          obtain ⟨writes', hflushed⟩ := flushChunksTo_succeeds sound.good hsucceeds
          have hqueued : (file.push chunk).chunkQueue = (back ++ [chunk]).map some := by
            rw [push, hqueue, List.map_append]
            rfl
          have hfile : ((file.push chunk).flushToDisk disk).1 =
              { file with
                chunkQueue := []
                stream := { bytes := file.stream.bytes ++ fileBytes (back ++ [chunk]), good := true }
                chunkQueueDataSize := 0
                writes := writes' } := by
            rw [flushToDisk, hqueued]
            simp only [push, hflushed]
          rw [hfile]
          refine ⟨sound.isOpen, rfl, ⟨front ++ back ++ [chunk], [], ?_, ?_, rfl, rfl⟩,
            Nat.zero_le _, ?_⟩
          · rw [List.append_nil]
          · dsimp only
            rw [hbytes, List.append_assoc, fileBytes_append front]
          · intro other hmem
            cases hmem
        · refine ⟨sound.isOpen, sound.good, ⟨front, back ++ [chunk], ?_, hbytes, ?_, ?_⟩,
            Nat.not_lt.mp hlimit, ?_⟩
          · rw [List.append_assoc]
          · rw [push, hqueue, List.map_append]
            rfl
          · rw [push, hsizeWith, hcounter, totalBytes_append]
            rfl
          · intro other hmem
            rw [push, hqueue, List.mem_append, List.mem_singleton] at hmem
            rcases hmem with hmem | hmem
            · obtain ⟨_, hmem, heq⟩ := List.mem_map.mp hmem
              rw [← Option.some.inj heq]
              exact hnonempty _ hmem
            · rw [Option.some.inj hmem]
              exact hempty

/-- A call that does not meet it loses a chunk, or the size of one. -/
theorem Sound.not_accounted (sound : Sound batchSizeKByte file chunks) {chunkRef : AudioChunkRef}
    (hnot : ¬ Admits disk batchSizeKByte file chunkRef)
    (hstep : Step disk batchSizeKByte file chunkRef file') :
    ¬ Accounted file'.toWriting (chunks ++ accepted [chunkRef]) := by
  obtain ⟨chunk, rfl, hempty, hnot⟩ : ∃ chunk, chunkRef = some chunk ∧
      chunk.details.numBytes ≠ 0 ∧ ¬ (chunk.details.numBytes.toNat < 2147483648 ∧
        (toU32 (batchSizeKByte * 1024) < file.sizeWith chunk →
          Succeeds disk file.writes (file.chunkQueue.filterMap id ++ [chunk]))) := by
    simpa only [Admits, not_forall, exists_prop] using hnot
  obtain ⟨front, back, rfl, hbytes, hqueue, hback, hcounter, hnonempty⟩ := sound.queue
  have hqueued : (file.push chunk).chunkQueue = (back ++ [chunk]).map some := by
    rw [push, hqueue, List.map_append]
    rfl
  rw [step_some sound.isOpen hempty hstep, accepted_nonempty hempty, List.append_assoc]
  intro accounted
  split_ifs at accounted with hlimit
  · have hfails : ¬ Succeeds disk file.writes (back ++ [chunk]) := by
      intro succeeds
      apply hnot
      refine ⟨succeeds.size chunk (List.mem_append_right _ (List.mem_singleton.mpr rfl)), ?_⟩
      intro _
      rwa [hback]
    have hall : ∀ other ∈ back ++ [chunk], other.details.numBytes ≠ 0 := by
      intro other hmem
      rcases List.mem_append.mp hmem with hmem | hmem
      · exact hnonempty other hmem
      · rw [List.mem_singleton.mp hmem]
        exact hempty
    obtain ⟨count, hleft, hless⟩ := flushChunksTo_loses sound.good hall hfails
    have hfile : ((file.push chunk).flushToDisk disk).1.chunkQueue =
        ((back ++ [chunk]).drop count).map some ∧
        ((file.push chunk).flushToDisk disk).1.stream.bytes.length <
          file.stream.bytes.length + (fileBytes ((back ++ [chunk]).take count)).length := by
      rw [flushToDisk, hqueued]
      exact ⟨hleft, hless⟩
    have hsplit : front ++ (back ++ [chunk]) =
        (front ++ (back ++ [chunk]).take count) ++ (back ++ [chunk]).drop count := by
      rw [List.append_assoc, List.take_append_drop]
    rw [hsplit] at accounted
    have hwritten := congrArg List.length (accounted.front hfile.1).1
    rw [fileBytes_append, List.length_append, ← hbytes] at hwritten
    have hshort := hfile.2
    omega
  · have hsize : ¬ chunk.details.numBytes.toNat < 2147483648 := by
      intro hsize
      exact hnot ⟨hsize, fun hflush => absurd hflush hlimit⟩
    have hcount := (accounted.front hqueued).2
    rw [totalBytes_append, ← hcounter] at hcount
    exact sizeWith_ne hsize hcount

theorem Sound.run {start : DiskFile} {chunkRefs : List AudioChunkRef}
    (sound : Sound batchSizeKByte start chunks)
    (run : Steps (Guarded (Admits disk batchSizeKByte) (Step disk batchSizeKByte)) start chunkRefs
      file) : Sound batchSizeKByte file (chunks ++ accepted chunkRefs) := by
  induction run generalizing chunks with
  | nil =>
      rw [show accepted [] = [] from rfl, List.append_nil]
      exact sound
  | @cons _ _ _ chunkRef chunkRefs first _ ih =>
      have hsplit : accepted (chunkRef :: chunkRefs) =
          accepted [chunkRef] ++ accepted chunkRefs := List.filterMap_append (l := [chunkRef])
      rw [hsplit, ← List.append_assoc]
      exact ih (sound.step first.1 first.2)

/-- In every run of calls of `WriteChunk` that meet the condition, all that was accepted is in
the file or in the queue, in its order, and the counter has the size of the queue. One more
call keeps this so exactly where it meets the same condition. -/
theorem chunks_accounted {filename : String} {chunkRefs : List AudioChunkRef}
    (run : Steps (Guarded (Admits disk batchSizeKByte) (Step disk batchSizeKByte))
      (opened filename) chunkRefs file) :
    Accounted file.toWriting (accepted chunkRefs) ∧
      ∀ chunkRef file', Step disk batchSizeKByte file chunkRef file' →
        (Accounted file'.toWriting (accepted (chunkRefs ++ [chunkRef])) ↔
          Admits disk batchSizeKByte file chunkRef) := by
  have sound := (opened_sound batchSizeKByte filename).run run
  rw [List.nil_append] at sound
  refine ⟨sound.accounted, ?_⟩
  intro chunkRef file' hstep
  rw [accepted_concat]
  constructor
  · intro accounted
    by_contra hnot
    exact sound.not_accounted hnot hstep accounted
  · intro admits
    exact (sound.step admits hstep).accounted

/-- A chunk of 600 zero bytes. -/
def zeros : Chunk where
  details := { numBytes := 600 }
  buffer := some (List.replicate 600 0)
  sized := by
    intro memory heq
    rw [← Option.some.inj heq, List.length_replicate]
    rfl

/-- Two chunks are flushed when no write fails. -/
theorem chunks_accounted_flushed :
    ∃ file, Steps (Step (fun _ => none) 1) (opened "f") [some zeros, some zeros] file ∧
      Accounted file.toWriting [zeros, zeros] := by
  have hsize : zeros.details.numBytes.toNat < 2147483648 := by decide
  have hadmits (file : DiskFile) (hsucceeds : Succeeds (fun _ => none) file.writes
      (file.chunkQueue.filterMap id ++ [zeros])) :
      Admits (fun _ => none) 1 file (some zeros) := by
    rintro chunk ⟨⟩ -
    exact ⟨hsize, fun _ => hsucceeds⟩
  have run : Steps (Guarded (Admits (fun _ => none) 1) (Step (fun _ => none) 1)) (opened "f")
      [some zeros, some zeros] _ :=
    .cons ⟨hadmits _ ⟨hsize, rfl, rfl, rfl, trivial⟩, rfl⟩
      (.cons ⟨hadmits _ ⟨hsize, rfl, rfl, rfl, hsize, rfl, rfl, rfl, trivial⟩, rfl⟩ (.nil _))
  exact ⟨_, run.of_guarded, (chunks_accounted run).1⟩

/-- The first write fails: the chunk that was accepted by the first call is neither in the file
nor in the queue, and the counter says that the queue is empty. -/
theorem failed_write_loses_chunk :
    ∃ file, Steps (Step (fun _ => some 0) 1) (opened "f") [some zeros, some zeros] file ∧
      ((opened "f").writeChunk (fun _ => some 0) 1 (some zeros)).2 = none ∧
      file.stream.bytes = [] ∧ file.chunkQueue = [some zeros] ∧ file.chunkQueueDataSize = 0 ∧
      ¬ Accounted file.toWriting [zeros, zeros] := by
  refine ⟨_, .cons rfl (.cons rfl (.nil _)), rfl, rfl, rfl, rfl, ?_⟩
  intro accounted
  have htwo : Accounted _ ([zeros] ++ [zeros]) := accounted
  have hcounter := (htwo.front rfl).2
  exact absurd hcounter (by decide)

end DiskFile

end OrkAudio.MediaChunkFile
