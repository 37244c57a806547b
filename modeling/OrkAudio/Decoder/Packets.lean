import OrkAudio.Decoder.Continuous

/-! Streams of bytes that are decoded packet by packet.

The decoders of G.711, G.722 and G.726 go from byte to byte and keep the state of their codec
from one packet to the next, so that it does not matter where a stream is cut into packets. -/

namespace OrkAudio

open Lib

/-- The chunk's own bytes. -/
def AudioChunk.payload (chunk : AudioChunk) : List UInt8 :=
  (List.range chunk.details.numBytes.toNat).map chunk.byteAt

namespace Decoder

variable {σ : Type}

/-! ### Byte by byte -/

/-- What a codec makes of a stream, and the state that it is left in. -/
def decodeStream (perByte : σ → UInt8 → List Int16 × σ) (state : σ) :
    List UInt8 → List Int16 × σ
  | [] => ([], state)
  | byte :: rest =>
      let decoded := perByte state byte
      let others := decodeStream perByte decoded.2 rest
      (decoded.1 ++ others.1, others.2)

theorem length_decodeStream {perByte : σ → UInt8 → List Int16 × σ} {expansion : Nat}
    (hexpansion : ∀ state byte, (perByte state byte).1.length = expansion) (state : σ)
    (bytes : List UInt8) :
    (decodeStream perByte state bytes).1.length = bytes.length * expansion := by
  induction bytes generalizing state with
  | nil => simp [decodeStream]
  | cons byte rest ih =>
      dsimp only [decodeStream]
      rw [List.length_append, hexpansion, ih, List.length_cons, Nat.succ_mul, Nat.add_comm]

/-- The bytes of a chunk from one on. -/
def bytesFrom (chunk : AudioChunk) (first count : Nat) : List UInt8 :=
  (List.range count).map fun i => chunk.byteAt (first + i)

theorem payload_eq (chunk : AudioChunk) :
    chunk.payload = bytesFrom chunk 0 chunk.details.numBytes.toNat := by
  unfold AudioChunk.payload bytesFrom
  apply List.map_congr_left
  intro i _
  rw [Nat.zero_add]

section

variable (codecs : Codecs σ)

/-- Give a filter one chunk after the other and take out what it makes of each. -/
def feed (kind : FilterKind) (f : Filter σ) : List AudioChunk → Option (List Int16 × Filter σ)
  | [] => some ([], f)
  | chunk :: rest =>
      match plainChunkIn codecs kind f (some chunk) with
      | .returned f =>
          (feed kind f rest).map fun (more, last) =>
            ((f.output.map fun out => out.chunk.samples).getD [] ++ more, last)
      | _ => none

/-- A packet that the filter decodes within its buffers. -/
structure Packet (kind : FilterKind) (chunk : AudioChunk) : Prop where
  decodable : Decodable (payloadTypeOf kind) chunk
  datagram : chunk.details.numBytes.toNat ≤ 65535
  fits : Fits kind chunk chunk.details.numBytes.toNat

variable {codecs} {kind : FilterKind} {chunk : AudioChunk}

end

end Decoder

end OrkAudio
