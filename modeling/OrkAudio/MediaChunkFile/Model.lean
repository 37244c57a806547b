import OrkAudio.Lib.FileStream
import OrkAudio.Lib.LittleEndian
import OrkAudio.Lib.Steps
import OrkAudio.Lib.Word

/-! `MediaChunkFile`: capture files, in which chunks stand as they lie in memory. -/

namespace OrkAudio.MediaChunkFile

open Lib

/-- `MEDIA_CHUNK_MARKER`. -/
def chunkMarker : UInt32 := 0x2A2A2A2A

/-- `MAX_CHUNK_SIZE`. -/
def maxChunkSize : UInt32 := 100000

/-- `AudioChunkDetails` with the two bytes that its memory has behind `m_channel`. -/
structure ChunkDetails where
  marker : UInt32 := chunkMarker
  encoding : UInt32 := 0
  numBytes : UInt32 := 0
  timestamp : UInt32 := 0
  arrivalTimestamp : UInt32 := 0
  sequenceNumber : UInt32 := 0
  sampleRate : UInt32 := 8000
  rtpPayloadType : UInt8 := 255
  channel : UInt8 := 0
  padding : UInt8 × UInt8 := (0, 0)
  deriving DecidableEq

namespace ChunkDetails

/-- `sizeof(AudioChunkDetails)`. -/
def byteSize : Nat := 32

def bytes (details : ChunkDetails) : List UInt8 :=
  LittleEndian.word details.marker ++ (LittleEndian.word details.encoding ++
    (LittleEndian.word details.numBytes ++ (LittleEndian.word details.timestamp ++
      (LittleEndian.word details.arrivalTimestamp ++ (LittleEndian.word details.sequenceNumber ++
        (LittleEndian.word details.sampleRate ++
          [details.rtpPayloadType, details.channel, details.padding.1, details.padding.2]))))))

/-- The details whose memory these bytes are. -/
def ofBytes (temp : List UInt8) : ChunkDetails where
  marker := LittleEndian.toWord (temp.take 4)
  encoding := LittleEndian.toWord ((temp.drop 4).take 4)
  numBytes := LittleEndian.toWord ((temp.drop 8).take 4)
  timestamp := LittleEndian.toWord ((temp.drop 12).take 4)
  arrivalTimestamp := LittleEndian.toWord ((temp.drop 16).take 4)
  sequenceNumber := LittleEndian.toWord ((temp.drop 20).take 4)
  sampleRate := LittleEndian.toWord ((temp.drop 24).take 4)
  rtpPayloadType := temp.getD 28 0
  channel := temp.getD 29 0
  padding := (temp.getD 30 0, temp.getD 31 0)

@[simp] theorem length_bytes (details : ChunkDetails) : details.bytes.length = byteSize := by
  simp [bytes, byteSize]

@[simp] theorem ofBytes_bytes (details : ChunkDetails) : ofBytes details.bytes = details := by
  simp [ofBytes, bytes, List.drop_append, LittleEndian.drop_word]

end ChunkDetails

/-- An `AudioChunk`; `buffer` is the memory at `m_pBuffer`, none when the pointer is null. -/
structure Chunk where
  details : ChunkDetails
  buffer : Option (List UInt8)
  sized : ∀ memory, buffer = some memory → memory.length = details.numBytes.toNat

/-- A reference to a chunk, none for NULL. -/
abbrev AudioChunkRef := Option Chunk

namespace Chunk

theorem ext {chunk other : Chunk} (hdetails : chunk.details = other.details)
    (hbuffer : chunk.buffer = other.buffer) : chunk = other := by
  cases chunk
  cases other
  congr

/-- `AudioChunk::AudioChunk()`. -/
def new : Chunk where
  details := {}
  buffer := none
  sized := by simp

/-- `AudioChunk::SetBuffer` on a new chunk. -/
def setBuffer (details : ChunkDetails)
    (memory : { bytes : List UInt8 // bytes.length = details.numBytes.toNat }) : Chunk :=
  if details.numBytes = 0 then new
  else {
    details := details
    buffer := some memory.val
    sized := by
      intro _ heq
      rw [← Option.some.inj heq]
      exact memory.property }

/-- `AudioChunk::GetNumBytes`, an `int`. -/
def getNumBytes (chunk : Chunk) : Int := toInt32 chunk.details.numBytes.toNat

end Chunk

/-- The file while it is written. -/
structure Writing where
  filename : String
  isOpen : Bool
  stream : OutputStream
  chunkQueue : List AudioChunkRef
  chunkQueueDataSize : Nat

namespace Writing

def opened (filename : String) : Writing where
  filename := filename
  isOpen := true
  stream := .opened
  chunkQueue := []
  chunkQueueDataSize := 0

/-- The loop of `FlushToDisk`: what it leaves in the queue, the stream, and whether there was
a write error. -/
def flushChunks : List AudioChunkRef → OutputStream → List AudioChunkRef × OutputStream × Bool
  | [], stream => ([], stream, false)
  | none :: queue, stream => flushChunks queue stream
  | some chunk :: queue, stream =>
      match chunk.buffer with
      | none => flushChunks queue stream
      | some memory =>
          let details := stream.write chunk.details.bytes ChunkDetails.byteSize
          if details.good = false then (queue, details, true)
          else
            let data := details.write memory chunk.getNumBytes
            if data.good = false then (queue, data, true)
            else flushChunks queue data

def flushToDisk (file : Writing) : Writing × Bool :=
  let flushed := flushChunks file.chunkQueue file.stream
  ({ file with
      chunkQueue := flushed.1
      stream := flushed.2.1
      chunkQueueDataSize := 0 },
    flushed.2.2)

def close (file : Writing) : Writing :=
  if file.isOpen then { file.flushToDisk.1 with isOpen := false } else file

/-- `WriteChunk` with `CONFIG.m_captureFileBatchSizeKByte`: the file and the text of the
exception, if one is thrown. -/
def writeChunk (file : Writing) (batchSizeKByte : Int) (chunkRef : AudioChunkRef) :
    Writing × Option String :=
  match chunkRef with
  | none => (file, none)
  | some chunk =>
      if chunk.details.numBytes = 0 then (file, none)
      else
        let queued := { file with
          chunkQueueDataSize :=
            ((file.chunkQueueDataSize + chunk.getNumBytes) % 18446744073709551616).toNat
          chunkQueue := file.chunkQueue ++ [some chunk] }
        if toU32 (batchSizeKByte * 1024) < queued.chunkQueueDataSize then
          if file.isOpen then
            (queued.flushToDisk.1,
              if queued.flushToDisk.2 then some ("Could not write to file:" ++ file.filename)
              else none)
          else (queued, some ("Write attempt on unopened file:" ++ file.filename))
        else (queued, none)

end Writing

/-- The file while it is read. -/
structure Reading where
  filename : String
  stream : Option InputStream

namespace Reading

def opened (filename : String) (bytes : List UInt8) : Reading where
  filename := filename
  stream := some (.opened bytes)

/-- The rest of `ReadChunkMono` after the details were read without error. -/
def readData (filename : String) (stream : InputStream) (details : ChunkDetails) :
    Except String (Nat × Chunk) × InputStream :=
  if details.marker ≠ chunkMarker then (.error ("Invalid marker in file:" ++ filename), stream)
  else if maxChunkSize ≤ details.numBytes then
    (.error ("Chunk too big in file:" ++ filename), stream)
  else
    match stream.read details.numBytes.toNat with
    | (none, stream) => (.error ("Incomplete chunk in file:" ++ filename), stream)
    | (some memory, stream) =>
        (.ok (ChunkDetails.byteSize, Chunk.setBuffer details memory), stream)

/-- `ReadChunkMono`: the result and the chunk, or the text of the exception. -/
def readChunkMono (file : Reading) : Except String (Nat × Chunk) × Reading :=
  match file.stream with
  | none => (.error ("Read attempt on unopened file:" ++ file.filename), file)
  | some stream =>
      match stream.read ChunkDetails.byteSize with
      | (temp, stream) =>
          if stream.eof then (.ok (0, .new), { file with stream := some stream })
          else
            match temp with
            | none => (.ok (ChunkDetails.byteSize, .new), { file with stream := some stream })
            | some temp =>
                let data := readData file.filename stream (.ofBytes temp.val)
                (data.1, { file with stream := some data.2 })

/-- The file after a number of calls of `ReadChunkMono`. -/
def afterReads (file : Reading) : Nat → Reading
  | 0 => file
  | n + 1 => afterReads file.readChunkMono.2 n

/-- What a call returns, the first one counted as 0. -/
def nthRead (file : Reading) (n : Nat) : Except String (Nat × Chunk) :=
  (file.afterReads n).readChunkMono.1

end Reading

/-! ### Runs of the writer -/

inductive Operation
  | writeChunk (chunkRef : AudioChunkRef)
  | flushToDisk

/-- A step in which `WriteChunk` does not throw. -/
inductive Step (batchSizeKByte : Int) : Writing → Operation → Writing → Prop
  | writeChunk {file file' : Writing} {chunkRef : AudioChunkRef}
      (accepted : file.writeChunk batchSizeKByte chunkRef = (file', none)) :
      Step batchSizeKByte file (.writeChunk chunkRef) file'
  | flushToDisk {file : Writing} : Step batchSizeKByte file .flushToDisk file.flushToDisk.1

/-- The chunks that have a buffer. -/
def stored (chunkRefs : List AudioChunkRef) : List Chunk :=
  chunkRefs.filterMap fun chunkRef => chunkRef.filter fun chunk => chunk.buffer.isSome

/-- The chunks that are to be found in the file: those with bytes and a buffer. -/
def written (operations : List Operation) : List Chunk :=
  stored (operations.filterMap fun
    | .writeChunk chunkRef =>
        some (chunkRef.filter fun chunk => decide (chunk.details.numBytes ≠ 0))
    | .flushToDisk => none)

/-- The reader's own conditions on a chunk. -/
def Chunk.Admitted (chunk : Chunk) : Prop :=
  chunk.details.marker = chunkMarker ∧ chunk.details.numBytes < maxChunkSize

instance : DecidablePred Chunk.Admitted := fun _ => inferInstanceAs (Decidable (_ ∧ _))

end OrkAudio.MediaChunkFile
