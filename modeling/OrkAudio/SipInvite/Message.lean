import OrkAudio.SipInvite.FieldSearch

/-! The INVITE messages with an SDP body that has an audio section. -/

namespace OrkAudio.SipInvite

open Lib

/-- A line with this text, without the bytes that would end it. -/
def Line.ofText (text : String) : Line where
  val := (ascii text).filter fun c => c != 0x0D && c != 0x0A
  property := by
    intro c hc
    simpa using (List.mem_filter.mp hc).2

/-- What stands in the line behind a text that it begins with. -/
def Line.behind (line : Line) (length : Nat) : Line :=
  ⟨line.val.drop length, fun c hc => line.property c (List.mem_of_mem_drop hc)⟩

theorem Line.eq_append {toFind : Bytes} {line : Line} (hline : toFind <+: line.val) :
    line.val = toFind ++ (line.behind toFind.length).val := by
  rcases hline with ⟨rest, hrest⟩
  show line.val = toFind ++ line.val.drop toFind.length
  rw [← hrest, List.drop_left]

def isMedia (line : Line) : Bool := (ascii "m=").isPrefixOf line.val

/-- A media section: its `m=` line and the lines up to the next section. -/
structure Section where
  media : Line
  lines : List Line
  media_media : isMedia media = true
  lines_other : ∀ line ∈ lines, isMedia line = false

namespace Section

def isAudio (s : Section) : Bool := (ascii "m=audio ").isPrefixOf s.media.val
def isVideo (s : Section) : Bool := (ascii "m=video ").isPrefixOf s.media.val
def all (s : Section) : List Line := s.media :: s.lines

end Section

def sectionLines (sections : List Section) : List Line := sections.flatMap Section.all

/-- An INVITE with an SDP body that has an audio section: the header up to the empty line, the
lines of the session, and the sections before, at and behind the first one for audio. -/
structure Message where
  header : List Line
  session : List Line
  front : List Section
  audio : Section
  back : List Section
  session_other : ∀ line ∈ session, isMedia line = false
  front_other : ∀ s ∈ front, s.isAudio = false
  audio_audio : audio.isAudio = true

namespace Message

variable (m : Message)

/-- What comes before the first audio section. -/
def before : List Line := m.header ++ m.session ++ sectionLines m.front

def lines : List Line := m.before ++ (m.audio.all ++ sectionLines m.back)

def bytes : Bytes := bytesOf m.lines

end Message

end OrkAudio.SipInvite
