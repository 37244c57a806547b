import Mathlib.Data.List.TakeWhile
import OrkAudio.MediaChunkFile.Model

/-! What is written to a capture file is read back from it, as far as the file goes. -/

namespace OrkAudio.MediaChunkFile

open Lib

/-- A chunk in the file. -/
def Chunk.bytes (chunk : Chunk) : List UInt8 := chunk.details.bytes ++ chunk.buffer.getD []

def fileBytes (chunks : List Chunk) : List UInt8 := (chunks.map Chunk.bytes).flatten

@[simp] theorem fileBytes_nil : fileBytes [] = [] := rfl

@[simp] theorem fileBytes_cons (chunk : Chunk) (chunks : List Chunk) :
    fileBytes (chunk :: chunks) = chunk.bytes ++ fileBytes chunks := rfl

theorem fileBytes_append (front back : List Chunk) :
    fileBytes (front ++ back) = fileBytes front ++ fileBytes back := by
  rw [fileBytes, List.map_append, List.flatten_append]
  rfl

theorem stored_append (front back : List AudioChunkRef) :
    stored (front ++ back) = stored front ++ stored back :=
  List.filterMap_append

theorem stored_some {chunk : Chunk} {memory : List UInt8} (hbuffer : chunk.buffer = some memory)
    (queue : List AudioChunkRef) : stored (some chunk :: queue) = chunk :: stored queue :=
  List.filterMap_cons_some (by simp [Option.filter, hbuffer])

theorem stored_null {chunk : Chunk} (hbuffer : chunk.buffer = none)
    (queue : List AudioChunkRef) : stored (some chunk :: queue) = stored queue :=
  List.filterMap_cons_none (by simp [Option.filter, hbuffer])

/-! ### The writer -/

theorem getNumBytes_toNat {chunk : Chunk} (hcount : 0 ≤ chunk.getNumBytes) :
    chunk.getNumBytes.toNat = chunk.details.numBytes.toNat := by
  have hlt := chunk.details.numBytes.toNat_lt
  unfold Chunk.getNumBytes toInt32 at *
  split_ifs at * <;> omega

/-- When the stream is still good after a flush, everything in the queue was written. -/
theorem flushChunks_good {queue : List AudioChunkRef} {stream : OutputStream}
    (hgood : (Writing.flushChunks queue stream).2.1.good = true) :
    stream.good = true ∧ (Writing.flushChunks queue stream).1 = [] ∧
      (Writing.flushChunks queue stream).2.1.bytes =
        stream.bytes ++ fileBytes (stored queue) := by
  induction queue generalizing stream with
  | nil => simpa [Writing.flushChunks, stored] using hgood
  | cons chunkRef queue ih =>
      cases chunkRef with
      | none => exact ih hgood
      | some chunk =>
          cases hbuffer : chunk.buffer with
          | none =>
              simp only [Writing.flushChunks, hbuffer] at hgood ⊢
              rw [stored_null hbuffer]
              exact ih hgood
          | some memory =>
              simp only [Writing.flushChunks, hbuffer] at hgood ⊢
              split_ifs at hgood ⊢ with hdetails hdata
              · rw [hdetails] at hgood
                cases hgood
              · rw [hdata] at hgood
                cases hgood
              · obtain ⟨-, hleft, hbytes⟩ := ih hgood
                rw [Bool.not_eq_false] at hdetails hdata
                obtain ⟨hstream, -, hfirst⟩ := OutputStream.write_good hdetails
                obtain ⟨-, hcount, hsecond⟩ := OutputStream.write_good hdata
                have hmemory : memory.take chunk.getNumBytes.toNat = memory := by
                  rw [getNumBytes_toNat hcount, ← chunk.sized memory hbuffer, List.take_length]
                have htaken : chunk.details.bytes.take (ChunkDetails.byteSize : Int).toNat =
                    chunk.details.bytes := by
                  apply List.take_of_length_le
                  simp
                refine ⟨hstream, hleft, ?_⟩
                rw [hbytes, hsecond, hfirst, hmemory, htaken, stored_some hbuffer, fileBytes_cons,
                  Chunk.bytes, hbuffer, Option.getD_some]
                simp only [List.append_assoc]

/-- The file on disk and the queue together have the chunks. -/
structure Holds (file : Writing) (chunks : List Chunk) : Prop where
  isOpen : file.isOpen = true
  bytes : file.stream.good = true →
    file.stream.bytes ++ fileBytes (stored file.chunkQueue) = fileBytes chunks

namespace Holds

variable {file file' : Writing} {chunks : List Chunk}

theorem opened (filename : String) : Holds (.opened filename) [] where
  isOpen := rfl
  bytes := fun _ => rfl

theorem flushToDisk (holds : Holds file chunks) : Holds file.flushToDisk.1 chunks where
  isOpen := holds.isOpen
  bytes := by
    intro hgood
    obtain ⟨hstream, hqueue, hbytes⟩ := flushChunks_good hgood
    simp only [Writing.flushToDisk, hqueue, hbytes]
    simpa [stored] using holds.bytes hstream

theorem push (holds : Holds file chunks) (chunk : Chunk) (size : Nat) :
    Holds { file with chunkQueueDataSize := size, chunkQueue := file.chunkQueue ++ [some chunk] }
      (chunks ++ stored [some chunk]) where
  isOpen := holds.isOpen
  bytes := by
    intro hgood
    rw [stored_append, fileBytes_append, fileBytes_append, ← List.append_assoc,
      holds.bytes hgood]

/-- `WriteChunk` on an open file, in so far as it does not throw. -/
theorem writeChunk_cases {batchSizeKByte : Int} {chunkRef : AudioChunkRef}
    (isOpen : file.isOpen = true)
    (accepted : file.writeChunk batchSizeKByte chunkRef = (file', none)) :
    file' = file ∧ written [.writeChunk chunkRef] = [] ∨
      ∃ chunk size, written [.writeChunk chunkRef] = stored [some chunk] ∧
        let queued := { file with
          chunkQueueDataSize := size
          chunkQueue := file.chunkQueue ++ [some chunk] }
        file' = queued ∨ file' = queued.flushToDisk.1 := by
  cases chunkRef with
  | none =>
      left
      exact ⟨(congrArg Prod.fst accepted).symm, rfl⟩
  | some chunk =>
      simp only [Writing.writeChunk] at accepted
      by_cases hempty : chunk.details.numBytes = 0
      · left
        rw [if_pos hempty] at accepted
        refine ⟨(congrArg Prod.fst accepted).symm, ?_⟩
        simp [written, stored, Option.filter, hempty]
      · right
        rw [if_neg hempty] at accepted
        refine ⟨chunk,
          ((file.chunkQueueDataSize + chunk.getNumBytes) % 18446744073709551616).toNat, ?_, ?_⟩
        · simp [written, stored, Option.filter, hempty]
        · have hfile := congrArg Prod.fst accepted
          rw [if_pos isOpen] at hfile
          split at hfile
          · exact .inr hfile.symm
          · exact .inl hfile.symm

theorem step (holds : Holds file chunks) {batchSizeKByte : Int} {operation : Operation}
    (taken : Step batchSizeKByte file operation file') :
    Holds file' (chunks ++ written [operation]) := by
  cases taken with
  | writeChunk accepted =>
      rcases writeChunk_cases holds.isOpen accepted with
        ⟨rfl, hwritten⟩ | ⟨chunk, size, hwritten, hfile⟩
      · rw [hwritten, List.append_nil]
        exact holds
      · rw [hwritten]
        rcases hfile with rfl | rfl
        · exact holds.push chunk size
        · exact (holds.push chunk size).flushToDisk
  | flushToDisk =>
      have hnone : written [.flushToDisk] = [] := rfl
      rw [hnone, List.append_nil]
      exact holds.flushToDisk

end Holds

theorem written_cons (operation : Operation) (operations : List Operation) :
    written (operation :: operations) = written [operation] ++ written operations := by
  rw [written, ← List.singleton_append, List.filterMap_append, stored_append]
  rfl

theorem Holds.steps {batchSizeKByte : Int} {file file' : Writing} {operations : List Operation}
    {chunks : List Chunk} (run : Steps (Step batchSizeKByte) file operations file')
    (holds : Holds file chunks) : Holds file' (chunks ++ written operations) := by
  induction run generalizing chunks with
  | nil => simpa [written, stored] using holds
  | cons first _ ih =>
      rw [written_cons, ← List.append_assoc]
      exact ih (holds.step first)

/-- A closed file whose writes have succeeded has all the chunks. -/
theorem bytes_close {batchSizeKByte : Int} {filename : String} {operations : List Operation}
    {file : Writing} (run : Steps (Step batchSizeKByte) (.opened filename) operations file)
    (succeeded : file.close.stream.good = true) :
    file.close.stream.bytes = fileBytes (written operations) := by
  have holds := Holds.steps run (.opened filename)
  rw [List.nil_append] at holds
  rw [Writing.close, if_pos holds.isOpen] at succeeded ⊢
  obtain ⟨hstream, -, hbytes⟩ := flushChunks_good succeeded
  exact hbytes.trans (holds.bytes hstream)

/-- Chunks with bytes and a buffer. -/
def Chunk.Filled (chunk : Chunk) : Prop := chunk.details.numBytes ≠ 0 ∧ chunk.buffer.isSome = true

theorem filled_of_mem_written {operations : List Operation} {chunk : Chunk}
    (hmem : chunk ∈ written operations) : chunk.Filled := by
  obtain ⟨chunkRef, hchunkRef, hchunk⟩ := List.mem_filterMap.mp hmem
  obtain ⟨operation, -, hoperation⟩ := List.mem_filterMap.mp hchunkRef
  cases operation with
  | flushToDisk => cases hoperation
  | writeChunk pushed =>
      obtain ⟨rfl, hbuffer⟩ := Option.filter_eq_some_iff.mp hchunk
      obtain ⟨-, hbytes⟩ := Option.filter_eq_some_iff.mp (Option.some.inj hoperation)
      exact ⟨of_decide_eq_true hbytes, hbuffer⟩

/-! ### The reader -/

namespace Reading

variable {filename : String} {chunk : Chunk}

theorem readData_admitted {memory : List UInt8} (hbytes : chunk.details.numBytes ≠ 0)
    (hbuffer : chunk.buffer = some memory) (admitted : chunk.Admitted) (rest : List UInt8) :
    readData filename (.opened (memory ++ rest)) chunk.details =
      (.ok (ChunkDetails.byteSize, chunk), .opened rest) := by
  have hsmall : ¬maxChunkSize ≤ chunk.details.numBytes := UInt32.not_le.mpr admitted.2
  rw [readData, if_neg (not_not.mpr admitted.1), if_neg hsmall,
    InputStream.read_append (chunk.sized memory hbuffer)]
  simp only [Chunk.setBuffer, if_neg hbytes]
  congr 3
  exact Chunk.ext rfl hbuffer.symm

theorem readData_rejected (rejected : ¬chunk.Admitted) (stream : InputStream) :
    ∃ message, (readData filename stream chunk.details).1 = .error message := by
  unfold readData
  split_ifs with hmarker hsize
  · exact ⟨_, rfl⟩
  · exact ⟨_, rfl⟩
  · exact absurd ⟨not_not.mp hmarker, UInt32.not_le.mp hsize⟩ rejected

/-- While all the details are there, the call goes on with them. -/
theorem readChunkMono_details (details : ChunkDetails) (rest : List UInt8) :
    (opened filename (details.bytes ++ rest)).readChunkMono =
      ((readData filename (.opened rest) details).1,
        { filename := filename, stream := some (readData filename (.opened rest) details).2 }) := by
  simp only [readChunkMono, opened, InputStream.read_append details.length_bytes]
  simp [InputStream.opened]

theorem readChunkMono_admitted (filename : String) (filled : chunk.Filled) (admitted : chunk.Admitted)
    (rest : List UInt8) :
    (opened filename (chunk.bytes ++ rest)).readChunkMono =
      (.ok (ChunkDetails.byteSize, chunk), opened filename rest) := by
  obtain ⟨memory, hbuffer⟩ := Option.isSome_iff_exists.mp filled.2
  rw [Chunk.bytes, hbuffer, Option.getD_some, List.append_assoc, readChunkMono_details,
    readData_admitted filled.1 hbuffer admitted]
  rfl

theorem readChunkMono_rejected (rejected : ¬chunk.Admitted) (rest : List UInt8) :
    ∃ message, (opened filename (chunk.bytes ++ rest)).readChunkMono.1 = .error message := by
  rw [Chunk.bytes, List.append_assoc, readChunkMono_details]
  exact readData_rejected rejected _

/-- The end of the file was met. -/
def Ended (file : Reading) : Prop := ∃ stream, file.stream = some stream ∧ stream.eof = true

theorem readChunkMono_ended {file : Reading} (ended : file.Ended) :
    file.readChunkMono.1 = .ok (0, .new) ∧ file.readChunkMono.2.Ended := by
  obtain ⟨stream, hstream, heof⟩ := ended
  simp only [readChunkMono, hstream, InputStream.read_eof heof, heof, if_true]
  exact ⟨trivial, _, rfl, rfl⟩

theorem readChunkMono_short (filename : String) {bytes : List UInt8} (hshort : bytes.length < ChunkDetails.byteSize) :
    (opened filename bytes).readChunkMono.1 = .ok (0, .new) ∧
      (opened filename bytes).readChunkMono.2.Ended := by
  simp only [readChunkMono, opened, InputStream.read_short hshort, if_true]
  exact ⟨trivial, _, rfl, rfl⟩

theorem readData_short (admitted : chunk.Admitted) {bytes : List UInt8}
    (hshort : bytes.length < chunk.details.numBytes.toNat) :
    readData filename (.opened bytes) chunk.details =
      (.error ("Incomplete chunk in file:" ++ filename),
        { rest := [], eof := true, fail := true }) := by
  have hsmall : ¬maxChunkSize ≤ chunk.details.numBytes := UInt32.not_le.mpr admitted.2
  rw [readData, if_neg (not_not.mpr admitted.1), if_neg hsmall, InputStream.read_short hshort]

/-- A call on less than a chunk. -/
theorem readChunkMono_cut (admitted : chunk.Admitted) {room : Nat}
    (hroom : room < chunk.bytes.length) :
    let call := (opened filename (chunk.bytes.take room)).readChunkMono
    (call.1 = .ok (0, .new) ∨ ∃ message, call.1 = .error message) ∧ call.2.Ended := by
  intro call
  by_cases hdetails : room < ChunkDetails.byteSize
  · have hshort := readChunkMono_short filename
      (Nat.lt_of_le_of_lt (List.length_take_le room chunk.bytes) hdetails)
    exact ⟨.inl hshort.1, hshort.2⟩
  · have hle := Nat.le_of_not_lt hdetails
    have htake : chunk.bytes.take room =
        chunk.details.bytes ++ (chunk.buffer.getD []).take (room - ChunkDetails.byteSize) := by
      rw [Chunk.bytes, List.take_append, ChunkDetails.length_bytes,
        List.take_of_length_le (by simpa using hle)]
    have hshort : ((chunk.buffer.getD []).take (room - ChunkDetails.byteSize)).length <
        chunk.details.numBytes.toNat := by
      rw [Chunk.bytes, List.length_append, ChunkDetails.length_bytes] at hroom
      cases hbuffer : chunk.buffer with
      | none =>
          rw [hbuffer, Option.getD_none, List.length_nil] at hroom
          omega
      | some memory =>
          rw [hbuffer, Option.getD_some] at hroom
          rw [Option.getD_some, List.length_take, ← chunk.sized memory hbuffer]
          omega
    have hcall : call =
        (.error ("Incomplete chunk in file:" ++ filename),
          { filename := filename, stream := some { rest := [], eof := true, fail := true } }) := by
      simp only [call, htake, readChunkMono_details, readData_short admitted hshort]
    rw [hcall]
    exact ⟨.inr ⟨_, rfl⟩, _, rfl, rfl⟩

theorem afterReads_add (file : Reading) (m n : Nat) :
    file.afterReads (m + n) = (file.afterReads m).afterReads n := by
  induction m generalizing file with
  | zero => rw [Nat.zero_add]; rfl
  | succ m ih => rw [Nat.succ_add, afterReads, ih]; rfl

theorem nthRead_add (file : Reading) (m n : Nat) :
    file.nthRead (m + n) = (file.afterReads m).nthRead n := by
  rw [nthRead, afterReads_add]
  rfl

theorem nthRead_ended {file : Reading} (ended : file.Ended) (n : Nat) :
    file.nthRead n = .ok (0, .new) := by
  induction n generalizing file with
  | zero => exact (readChunkMono_ended ended).1
  | succ n ih => exact ih (readChunkMono_ended ended).2

/-- From a call on that ends the file or throws at its end, there is nothing more. -/
theorem nthRead_short {bytes : List UInt8} (hshort : bytes.length < ChunkDetails.byteSize)
    (n : Nat) : (opened filename bytes).nthRead n = .ok (0, .new) := by
  obtain ⟨hfirst, hended⟩ := readChunkMono_short filename hshort
  cases n with
  | zero => exact hfirst
  | succ n => exact nthRead_ended hended n

/-- Chunks that the reader admits are read one after the other. -/
theorem afterReads_admitted (filename : String) {chunks : List Chunk}
    (readable : ∀ chunk ∈ chunks, chunk.Filled ∧ chunk.Admitted) (rest : List UInt8) :
    (opened filename (fileBytes chunks ++ rest)).afterReads chunks.length = opened filename rest ∧
      ∀ n (h : n < chunks.length), (opened filename (fileBytes chunks ++ rest)).nthRead n =
        .ok (ChunkDetails.byteSize, chunks[n]) := by
  induction chunks with
  | nil =>
      refine ⟨rfl, ?_⟩
      intro n hn
      exact absurd hn (Nat.not_lt_zero n)
  | cons chunk chunks ih =>
      obtain ⟨filled, admitted⟩ := readable chunk List.mem_cons_self
      obtain ⟨hafter, hreads⟩ := ih fun other hother =>
        readable other (List.mem_cons_of_mem _ hother)
      have hfirst := readChunkMono_admitted filename filled admitted
        (fileBytes chunks ++ rest)
      rw [← List.append_assoc, ← fileBytes_cons] at hfirst
      constructor
      · rw [List.length_cons, afterReads, hfirst]
        exact hafter
      · intro n hn
        cases n with
        | zero =>
            rw [nthRead, afterReads, hfirst]
            rfl
        | succ n =>
            rw [nthRead, afterReads, hfirst, List.getElem_cons_succ]
            exact hreads n (Nat.lt_of_succ_lt_succ hn)

end Reading

/-! ### Whole files -/

section

variable {batchSizeKByte : Int} {filename : String} {operations : List Operation} {file : Writing}

/-- The chunks of a closed file are read back, with an exception at the first one that the
reader does not admit, or zeros after the last one. -/
theorem reads_written (run : Steps (Step batchSizeKByte) (.opened filename) operations file)
    (succeeded : file.close.stream.good = true) :
    let reading := Reading.opened filename file.close.stream.bytes
    let admitted := (written operations).takeWhile fun chunk => decide chunk.Admitted
    (∀ n (h : n < admitted.length),
      reading.nthRead n = .ok (ChunkDetails.byteSize, admitted[n])) ∧
      (admitted = written operations → ∀ n, admitted.length ≤ n →
        reading.nthRead n = .ok (0, .new)) ∧
      (admitted ≠ written operations → ∃ message,
        reading.nthRead admitted.length = .error message) := by
  intro reading admitted
  have hreadable : ∀ chunk ∈ admitted, chunk.Filled ∧ chunk.Admitted := by
    intro chunk hchunk
    have hsub := (List.takeWhile_prefix _).subset hchunk
    have hadmitted := List.mem_takeWhile_imp (p := fun other : Chunk => decide other.Admitted) hchunk
    exact ⟨filled_of_mem_written hsub, of_decide_eq_true hadmitted⟩
  have hsplit : written operations = admitted ++
      (written operations).dropWhile fun chunk => decide chunk.Admitted :=
    List.takeWhile_append_dropWhile.symm
  have hfile : reading = .opened filename (fileBytes admitted ++ fileBytes
      ((written operations).dropWhile fun chunk => decide chunk.Admitted)) := by
    rw [← fileBytes_append, ← hsplit, ← bytes_close run succeeded]
  obtain ⟨hafter, hreads⟩ := Reading.afterReads_admitted filename hreadable
    (fileBytes ((written operations).dropWhile fun chunk => decide chunk.Admitted))
  rw [hfile]
  refine ⟨hreads, ?_, ?_⟩
  · intro hall n hn
    have hnone : (written operations).dropWhile (fun chunk => decide chunk.Admitted) = [] := by
      apply (List.append_right_inj admitted).mp
      rw [← hsplit, List.append_nil, hall]
    obtain ⟨k, rfl⟩ := Nat.exists_eq_add_of_le hn
    rw [Reading.nthRead_add, hafter, hnone]
    exact Reading.nthRead_short (by decide) k
  · intro hrejected
    cases hrest : (written operations).dropWhile fun chunk => decide chunk.Admitted with
    | nil => exact absurd (by rw [hsplit, hrest, List.append_nil]) hrejected
    | cons chunk rest =>
        have hhead := List.head_dropWhile_not (fun chunk : Chunk => decide chunk.Admitted)
          (l := written operations) (by rw [hrest]; exact List.cons_ne_nil _ _)
        simp only [hrest, List.head_cons] at hhead
        rw [← Nat.add_zero admitted.length, Reading.nthRead_add, ← hrest, hafter, hrest,
          fileBytes_cons]
        exact Reading.readChunkMono_rejected (of_decide_eq_false hhead) _

theorem reads_written_one_byte :
    let chunk := Chunk.setBuffer { numBytes := 1 } ⟨[7], rfl⟩
    let file := ((Writing.opened "a.mcf").writeChunk 1 (some chunk)).1
    (Reading.opened "a.mcf" file.close.stream.bytes).nthRead 0 = .ok (32, chunk) ∧
      (Reading.opened "a.mcf" file.close.stream.bytes).nthRead 1 = .ok (0, .new) := by
  intro chunk file
  have run : Steps (Step 1) (.opened "a.mcf") [.writeChunk (some chunk)] file :=
    .cons (.writeChunk rfl) (.nil _)
  obtain ⟨hreads, hend, -⟩ := reads_written run rfl
  exact ⟨hreads 0 (by decide), hend rfl 1 (by decide)⟩

/-- A chunk with another marker is written but not read, and one without a buffer is not
written. -/
theorem accepted_not_read :
    let foreign := Chunk.setBuffer { marker := 0, numBytes := 1 } ⟨[7], rfl⟩
    let bare : Chunk := { details := { numBytes := 1 }, buffer := none, sized := by simp }
    (∃ file, Steps (Step 1) (.opened "a.mcf") [.writeChunk (some foreign)] file ∧
      file.close.stream.good = true ∧
      ∃ message, (Reading.opened "a.mcf" file.close.stream.bytes).nthRead 0 = .error message) ∧
    ∃ file, Steps (Step 1) (.opened "a.mcf") [.writeChunk (some bare)] file ∧
      file.close.stream.good = true ∧
      (Reading.opened "a.mcf" file.close.stream.bytes).nthRead 0 = .ok (0, .new) := by
  intro foreign bare
  have writing (chunk : Chunk) (hbytes : chunk.details.numBytes = 1) :
      Steps (Step 1) (.opened "a.mcf") [.writeChunk (some chunk)]
        { Writing.opened "a.mcf" with chunkQueueDataSize := 1, chunkQueue := [some chunk] } := by
    refine .cons (.writeChunk ?_) (.nil _)
    simp only [Writing.writeChunk, Chunk.getNumBytes, hbytes]
    rfl
  constructor
  · refine ⟨_, writing foreign rfl, rfl, ?_⟩
    rw [bytes_close (writing foreign rfl) rfl]
    exact Reading.readChunkMono_rejected (by decide) []
  · refine ⟨_, writing bare rfl, rfl, ?_⟩
    rw [bytes_close (writing bare rfl) rfl]
    exact Reading.nthRead_short (by decide) 0

/-- A closed file that is cut off anywhere gives back some of its first chunks, then the end
of the file or an exception, and nothing more. -/
theorem reads_cut (run : Steps (Step batchSizeKByte) (.opened filename) operations file)
    (succeeded : file.close.stream.good = true)
    (admitted : ∀ chunk ∈ written operations, chunk.Admitted) (cut : Nat) :
    let reading := Reading.opened filename (file.close.stream.bytes.take cut)
    ∃ count ≤ (written operations).length,
      (∀ n (h : n < (written operations).length), n < count →
        reading.nthRead n = .ok (ChunkDetails.byteSize, (written operations)[n])) ∧
      (reading.nthRead count = .ok (0, .new) ∨
        ∃ message, reading.nthRead count = .error message) ∧
      ∀ n, count < n → reading.nthRead n = .ok (0, .new) := by
  intro reading
  obtain ⟨count, hcount, tail, htake, htail⟩ :=
    exists_take_flatten ((written operations).map Chunk.bytes) cut
  rw [List.length_map] at hcount
  have hfile : reading = .opened filename
      (fileBytes ((written operations).take count) ++ tail) := by
    rw [fileBytes, List.map_take, ← htake]
    exact congrArg (fun bytes => Reading.opened filename (bytes.take cut))
      (bytes_close run succeeded)
  have hreadable : ∀ chunk ∈ (written operations).take count, chunk.Filled ∧ chunk.Admitted := by
    intro chunk hchunk
    have hmem := List.mem_of_mem_take hchunk
    exact ⟨filled_of_mem_written hmem, admitted chunk hmem⟩
  obtain ⟨hafter, hreads⟩ := Reading.afterReads_admitted filename hreadable tail
  rw [List.length_take_of_le hcount, ← hfile] at hafter
  rw [← hfile] at hreads
  have hlast : ((Reading.opened filename tail).readChunkMono.1 = .ok (0, .new) ∨
      ∃ message, (Reading.opened filename tail).readChunkMono.1 = .error message) ∧
      (Reading.opened filename tail).readChunkMono.2.Ended := by
    rcases htail with rfl | ⟨part, hpart, room, hroom, rfl⟩
    · have hempty : ([] : List UInt8).length < ChunkDetails.byteSize := by decide
      have hshort := Reading.readChunkMono_short filename hempty
      exact ⟨.inl hshort.1, hshort.2⟩
    · rw [List.getElem?_map] at hpart
      obtain ⟨chunk, hchunk, rfl⟩ := Option.map_eq_some_iff.mp hpart
      exact Reading.readChunkMono_cut (admitted chunk (List.mem_of_getElem? hchunk)) hroom
  refine ⟨count, hcount, ?_, ?_, ?_⟩
  · intro n h hn
    rw [hreads n (by rwa [List.length_take_of_le hcount]), List.getElem_take]
  · rw [← Nat.add_zero count, Reading.nthRead_add, hafter]
    exact hlast.1
  · intro n hn
    obtain ⟨k, rfl⟩ := Nat.exists_eq_add_of_lt hn
    rw [Nat.add_assoc, Reading.nthRead_add, hafter]
    exact Reading.nthRead_ended hlast.2 k

theorem reads_cut_one_byte :
    let chunk := Chunk.setBuffer { numBytes := 1 } ⟨[7], rfl⟩
    let file := ((Writing.opened "a.mcf").writeChunk 1 (some chunk)).1
    ∃ count ≤ 1, ∀ n, count < n →
      (Reading.opened "a.mcf" (file.close.stream.bytes.take 32)).nthRead n = .ok (0, .new) := by
  intro chunk file
  have run : Steps (Step 1) (.opened "a.mcf") [.writeChunk (some chunk)] file :=
    .cons (.writeChunk rfl) (.nil _)
  have hwritten : written [.writeChunk (some chunk)] = [chunk] := rfl
  obtain ⟨count, hcount, -, -, hend⟩ := reads_cut run rfl (by rw [hwritten]; decide) 32
  exact ⟨count, hcount, hend⟩

end

end OrkAudio.MediaChunkFile
