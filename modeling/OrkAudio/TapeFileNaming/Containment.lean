import OrkAudio.TapeFileNaming.Collision

/-! Whether the final name of a recording stays below the output path. -/

namespace OrkAudio.TapeFileNaming

open Lib hiding Bytes
open Serializer

/-- The components of a path. -/
def components (path : Bytes) : List Bytes := path.splitOn (tchar '/')

def parent : Bytes := text ".."

def Contained (path : Bytes) : Prop := parent ∉ components path

section

variable (cfg : Config) (host : Host) (tape : AudioTape)

variable {cfg host tape}

end

/-! A remote party as a directory. -/

section

end

end OrkAudio.TapeFileNaming
