import OrkAudio.SipInvite.Message

/-! The part of an INVITE in which `TrySipInvite` looks for the attributes of the audio stream.

A hold is an attribute there that stops the sender from receiving. -/

namespace OrkAudio.SipInvite

open Lib

/-! ### The code -/

/-- `<` between pointers, of which the null pointer is the smallest. -/
def pointerLt : Option Nat → Option Nat → Bool
  | none, some _ => true
  | some first, some second => decide (first < second)
  | _, none => false

/-- `audioSdpStart` and `audioSdpEnd`. -/
def audioSdp (udpPayload : Bytes) (sipEnd : Nat) : Nat × Nat :=
  let audioStart := memFindAfter (ascii "m=audio") udpPayload 0 sipEnd
  let videoStart := memFindAfter (ascii "m=video") udpPayload 0 sipEnd
  (if pointerLt videoStart audioStart then audioStart.getD 0 else 0,
    if pointerLt audioStart videoStart then videoStart.getD 0 else sipEnd)

/-- `m_attrSendonly`. -/
def attrSendonly (udpPayload : Bytes) (sipEnd : Nat) : Bool :=
  let region := audioSdp udpPayload sipEnd
  (memFindAfter (ascii "a=sendonly") udpPayload region.1 region.2).isSome ||
    (memFindAfter (ascii "a=inactive") udpPayload region.1 region.2).isSome

/-! ### The messages -/

namespace Message

variable (m : Message)

/-- The message without its video sections. -/
def withoutVideo : Message where
  header := m.header
  session := m.session
  front := m.front.filter fun s => !s.isVideo
  audio := m.audio
  back := m.back.filter fun s => !s.isVideo
  session_other := m.session_other
  front_other := fun s hs => m.front_other s (List.mem_of_mem_filter hs)
  audio_audio := m.audio_audio

end Message

/-- The media are named by the `m=` lines alone: no line before the audio section has the text
that names audio, and only the video sections have the one that names video. -/
structure PlainMessage extends Message where
  audio_named : ∀ line ∈ toMessage.before, hasText (ascii "m=audio") line = false
  video_named : ∀ line ∈ toMessage.withoutVideo.lines, hasText (ascii "m=video") line = false

/-! ### The attributes -/

def holds (line : Line) : Bool :=
  hasText (ascii "a=sendonly") line || hasText (ascii "a=inactive") line

namespace Section

def holds (s : Section) : Bool := s.all.any SipInvite.holds

end Section

/-- Where the video sections of a message change nothing. Behind a video section that comes
before the audio one, the session's attributes are left out, and the video sections' count; before
one that comes behind, the session's attributes count, and the further sections' do not. -/
structure Undisturbed (m : Message) : Prop where
  inFront : (∃ s ∈ m.front, s.isVideo = true) → (∃ s ∈ m.back, s.isVideo = true ∧ s.holds = true) →
    ∃ s ∈ m.audio :: m.back, s.isVideo = false ∧ s.holds = true
  behind : (∀ s ∈ m.front, s.isVideo = false) → (∃ s ∈ m.back, s.isVideo = true) →
    (∃ s ∈ m.audio :: m.back.takeWhile fun s => !s.isVideo, s.holds = true) ∨
      ((∃ line ∈ m.before, holds line = true) ↔
        ∃ s ∈ m.back.dropWhile fun s => !s.isVideo, s.isVideo = false ∧ s.holds = true)

/-! ### The regions -/

section

variable {toFind : Bytes}

theorem inline_audio : Inline (ascii "m=audio") := ⟨by decide, by decide +kernel⟩
theorem inline_video : Inline (ascii "m=video") := ⟨by decide, by decide +kernel⟩
theorem inline_sendonly : Inline (ascii "a=sendonly") := ⟨by decide, by decide +kernel⟩
theorem inline_inactive : Inline (ascii "a=inactive") := ⟨by decide, by decide +kernel⟩

theorem any_holds (lines : List Line) : lines.any holds =
    (lines.any (hasText (ascii "a=sendonly")) || lines.any (hasText (ascii "a=inactive"))) := by
  induction lines with
  | nil => rfl
  | cons line lines ih =>
      rw [List.any_cons, List.any_cons, List.any_cons, ih, holds]
      ac_rfl

/-- An attribute does not begin within the text that names the media. -/
theorem holds_behind {line : Line} (hline : ascii "m=audio" <+: line.val) :
    holds (line.behind (ascii "m=audio").length) = holds line := by
  rw [holds, holds, hasText, hasText, hasText, hasText, Line.eq_append hline]
  rfl

theorem audioSdp_behind {payload : Bytes} {sipEnd audioStart : Nat}
    (haudio : memFindAfter (ascii "m=audio") payload 0 sipEnd = some audioStart)
    (hvideo : ∀ videoStart, memFindAfter (ascii "m=video") payload 0 sipEnd = some videoStart →
      videoStart < audioStart) : audioSdp payload sipEnd = (audioStart, sipEnd) := by
  rw [audioSdp, haudio]
  cases hfound : memFindAfter (ascii "m=video") payload 0 sipEnd with
  | none => rfl
  | some videoStart =>
      have horder := hvideo videoStart hfound
      simp [pointerLt, horder, Nat.lt_asymm horder]

theorem audioSdp_upTo {payload : Bytes} {sipEnd audioStart videoStart : Nat}
    (haudio : memFindAfter (ascii "m=audio") payload 0 sipEnd = some audioStart)
    (hvideo : memFindAfter (ascii "m=video") payload 0 sipEnd = some videoStart)
    (horder : audioStart < videoStart) : audioSdp payload sipEnd = (0, videoStart) := by
  simp [audioSdp, haudio, hvideo, pointerLt, horder, Nat.lt_asymm horder]

/-- The region behind the text that names the audio section. -/
theorem attrSendonly_behind {payload : Bytes} {sipEnd : Nat} {before after : List Line}
    {line : Line} (behind : Bytes) (hline : ascii "m=audio" <+: line.val)
    (hpayload : payload = bytesOf (before ++ line :: after) ++ behind)
    (hend : sipEnd = (bytesOf (before ++ line :: after)).length)
    (hregion : audioSdp payload sipEnd =
      ((bytesOf before).length + (ascii "m=audio").length, sipEnd)) :
    attrSendonly payload sipEnd = (line :: after).any holds := by
  have hbytes : bytesOf (before ++ line :: after) = bytesOf before ++ ascii "m=audio" ++
      bytesOf (line.behind (ascii "m=audio").length :: after) := by
    rw [bytesOf_append, bytesOf_cons, bytesOf_cons, Line.eq_append hline]
    simp only [List.append_assoc]
  have hstart : (bytesOf before).length + (ascii "m=audio").length =
      (bytesOf before ++ ascii "m=audio").length := List.length_append.symm
  rw [attrSendonly, hregion]
  dsimp only
  rw [hstart, hend, hpayload, hbytes, memFindAfter_behind inline_sendonly,
    memFindAfter_behind inline_inactive, Option.isSome_map, Option.isSome_map,
    placeInLines_isSome inline_sendonly, placeInLines_isSome inline_inactive, ← any_holds,
    List.any_cons, List.any_cons, holds_behind hline]

/-- The region up to the text that names a video section. -/
theorem attrSendonly_upTo {payload : Bytes} {sipEnd : Nat} {before after : List Line}
    {line : Line} (behind : Bytes) (hline : ascii "m=video" <+: line.val)
    (hpayload : payload = bytesOf (before ++ line :: after) ++ behind)
    (hregion : audioSdp payload sipEnd =
      (0, (bytesOf before).length + (ascii "m=video").length)) :
    attrSendonly payload sipEnd = before.any holds := by
  have hbytes : payload = bytesOf before ++ (ascii "m=video" ++
      (bytesOf (line.behind (ascii "m=video").length :: after) ++ behind)) := by
    rw [hpayload, bytesOf_append, bytesOf_cons, bytesOf_cons, Line.eq_append hline]
    simp only [List.append_assoc]
  rw [attrSendonly, hregion]
  dsimp only
  rw [hbytes, memFindAfter_upTo inline_sendonly before (by decide +kernel),
    memFindAfter_upTo inline_inactive before (by decide +kernel), any_holds]

/-! ### The messages' regions -/

theorem any_sectionLines (sections : List Section) :
    (sectionLines sections).any holds = sections.any Section.holds := by
  rw [sectionLines, List.any_flatMap]
  rfl

theorem prefix_of_isVideo {s : Section} (hvideo : s.isVideo = true) :
    ascii "m=video" <+: s.media.val := by
  have hfull : ascii "m=video " <+: s.media.val := List.isPrefixOf_iff_prefix.mp hvideo
  exact (List.prefix_append (ascii "m=video") [0x20]).trans hfull

theorem prefix_of_isAudio {s : Section} (haudio : s.isAudio = true) :
    ascii "m=audio" <+: s.media.val := by
  have hfull : ascii "m=audio " <+: s.media.val := List.isPrefixOf_iff_prefix.mp haudio
  exact (List.prefix_append (ascii "m=audio") [0x20]).trans hfull

/-- The sections up to the first one for video. -/
theorem exists_firstVideo {sections : List Section}
    (hvideo : ∃ s ∈ sections, s.isVideo = true) : ∃ video rest, video.isVideo = true ∧
      sections.dropWhile (fun s => !s.isVideo) = video :: rest ∧
      sections = sections.takeWhile (fun s => !s.isVideo) ++ video :: rest := by
  have hsplit := @List.takeWhile_append_dropWhile _ (fun s : Section => !s.isVideo) sections
  cases hdrop : sections.dropWhile fun s => !s.isVideo with
  | nil =>
      rcases hvideo with ⟨s, hs, hvideo⟩
      have hother := List.dropWhile_eq_nil_iff.mp hdrop s hs
      rw [hvideo] at hother
      cases hother
  | cons video rest =>
      have hother := List.head?_dropWhile_not (fun s : Section => !s.isVideo) sections
      rw [hdrop, List.head?_cons] at hother
      refine ⟨video, rest, ?_, rfl, ?_⟩
      · simpa using hother
      · rw [← hdrop, hsplit]

namespace Message

variable (m : Message)

theorem mem_withoutVideo {line : Line} : line ∈ m.withoutVideo.lines ↔
    (line ∈ m.header ∨ line ∈ m.session ∨ ∃ s ∈ m.front, s.isVideo = false ∧ line ∈ s.all) ∨
      line ∈ m.audio.all ∨ ∃ s ∈ m.back, s.isVideo = false ∧ line ∈ s.all := by
  simp only [lines, before, withoutVideo, sectionLines, List.mem_append, List.mem_flatMap,
    List.mem_filter, Bool.not_eq_true', and_assoc, or_assoc]

theorem withoutVideo_lines : m.withoutVideo.lines =
    m.header ++ m.session ++ sectionLines (m.front.filter fun s => !s.isVideo) ++
      (m.audio.all ++ sectionLines (m.back.filter fun s => !s.isVideo)) := rfl

theorem lines_eq : m.lines =
    m.before ++ m.audio.media :: (m.audio.lines ++ sectionLines m.back) := rfl

end Message

namespace PlainMessage

variable (m : PlainMessage) (behind : Bytes)

theorem audioStart_eq : memFindAfter (ascii "m=audio") (m.bytes ++ behind) 0 m.bytes.length =
    some ((bytesOf m.before).length + (ascii "m=audio").length) :=
  memFindAfter_named inline_audio m.before _ behind m.audio_named (prefix_of_isAudio m.audio_audio)

/-- The lines of the message up to the first video section, and the rest. -/
structure FirstVideo (upTo : List Line) (video : Line) (rest : List Line) : Prop where
  lines_eq : m.lines = upTo ++ video :: rest
  unnamed : ∀ line ∈ upTo, hasText (ascii "m=video") line = false
  video : ascii "m=video" <+: video.val

variable {m}

theorem FirstVideo.videoStart_eq {upTo rest : List Line} {video : Line}
    (first : m.FirstVideo upTo video rest) :
    memFindAfter (ascii "m=video") (m.bytes ++ behind) 0 m.bytes.length =
      some ((bytesOf upTo).length + (ascii "m=video").length) := by
  rw [Message.bytes, first.lines_eq]
  exact memFindAfter_named inline_video upTo rest behind first.unnamed first.video

theorem length_bytesOf_lt (lines rest : List Line) (line : Line) :
    (bytesOf lines).length < (bytesOf (lines ++ line :: rest)).length := by
  rw [bytesOf_append, bytesOf_cons, List.length_append, List.length_append, List.length_append,
    show crlf.length = 2 from rfl]
  omega

theorem sectionLines_append (sections more : List Section) :
    sectionLines (sections ++ more) = sectionLines sections ++ sectionLines more :=
  List.flatMap_append

theorem sectionLines_cons (s : Section) (sections : List Section) :
    sectionLines (s :: sections) = s.media :: (s.lines ++ sectionLines sections) := rfl

/-- A line of the sections before the first video section. -/
theorem mem_takeWhile_lines {sections : List Section} {line : Line}
    (hline : line ∈ sectionLines (sections.takeWhile fun s => !s.isVideo)) :
    ∃ s ∈ sections, s.isVideo = false ∧ line ∈ s.all := by
  rcases List.mem_flatMap.mp hline with ⟨s, hs, hline⟩
  have hother := List.mem_takeWhile_imp hs
  exact ⟨s, (List.takeWhile_sublist _).subset hs, by simpa using hother, hline⟩

/-- A first video section before the audio one. -/
theorem firstVideo_inFront (hvideo : ∃ s ∈ m.front, s.isVideo = true) :
    ∃ upTo video rest behind, m.FirstVideo upTo video (behind ++ rest) ∧
      m.before = upTo ++ video :: behind := by
  rcases exists_firstVideo hvideo with ⟨video, rest, hvideo, -, hfront⟩
  have hbefore : m.before = m.header ++ m.session ++
      sectionLines (m.front.takeWhile fun s => !s.isVideo) ++
        video.media :: (video.lines ++ sectionLines rest) := by
    rw [Message.before, List.append_assoc _ _ (_ :: _), ← sectionLines_cons,
      ← sectionLines_append, ← hfront]
  refine ⟨_, video.media, m.audio.all ++ sectionLines m.back, _, ⟨?_, ?_, prefix_of_isVideo hvideo⟩,
    hbefore⟩
  · rw [Message.lines, hbefore, List.append_assoc, List.cons_append]
  · intro line hline
    apply m.video_named
    apply m.mem_withoutVideo.mpr
    rcases List.mem_append.mp hline with hhead | hfront
    · rcases List.mem_append.mp hhead with hheader | hsession
      · exact .inl (.inl hheader)
      · exact .inl (.inr (.inl hsession))
    · exact .inl (.inr (.inr (mem_takeWhile_lines hfront)))

/-- What comes before a video section behind the audio one. -/
def upToVideo (m : Message) : List Line :=
  m.before ++ sectionLines (m.audio :: m.back.takeWhile fun s => !s.isVideo)

/-- A first video section behind the audio one. -/
theorem firstVideo_inBack (hfront : ∀ s ∈ m.front, s.isVideo = false)
    (hvideo : ∃ s ∈ m.back, s.isVideo = true) :
    ∃ video rest, m.FirstVideo (upToVideo m.toMessage) video rest := by
  rcases exists_firstVideo hvideo with ⟨video, rest, hvideo, -, hback⟩
  refine ⟨video.media, video.lines ++ sectionLines rest, ?_, ?_, prefix_of_isVideo hvideo⟩
  · rw [Message.lines, upToVideo, List.append_assoc, ← sectionLines_cons, sectionLines_cons m.audio,
      List.cons_append, List.append_assoc, ← sectionLines_append, ← hback]
    rfl
  · intro line hline
    apply m.video_named
    apply m.mem_withoutVideo.mpr
    rcases List.mem_append.mp hline with hbefore | hafter
    · rcases List.mem_append.mp hbefore with hhead | hsections
      · rcases List.mem_append.mp hhead with hheader | hsession
        · exact .inl (.inl hheader)
        · exact .inl (.inr (.inl hsession))
      · rcases List.mem_flatMap.mp hsections with ⟨s, hs, hline⟩
        exact .inl (.inr (.inr ⟨s, hs, hfront s hs, hline⟩))
    · rw [sectionLines, List.flatMap_cons] at hafter
      rcases List.mem_append.mp hafter with haudio | hafter
      · exact .inr (.inl haudio)
      · exact .inr (.inr (mem_takeWhile_lines hafter))

/-! ### The verdict -/

theorem any_behind : (m.audio.media :: (m.audio.lines ++ sectionLines m.back)).any holds =
    (m.audio :: m.back).any Section.holds := by
  rw [← sectionLines_cons, any_sectionLines]

/-- Behind a video section only the audio section and what follows it count. -/
theorem attrSendonly_inFront (hvideo : ∃ s ∈ m.front, s.isVideo = true) :
    attrSendonly (m.bytes ++ behind) m.bytes.length = (m.audio :: m.back).any Section.holds := by
  rcases firstVideo_inFront hvideo with ⟨upTo, video, rest, between, first, hbefore⟩
  have horder : (bytesOf upTo).length < (bytesOf m.before).length := by
    rw [hbefore]
    exact length_bytesOf_lt _ _ _
  have hregion : audioSdp (m.bytes ++ behind) m.bytes.length =
      ((bytesOf m.before).length + (ascii "m=audio").length, m.bytes.length) := by
    apply audioSdp_behind (m.audioStart_eq behind)
    intro videoStart hfound
    rw [first.videoStart_eq, Option.some.injEq] at hfound
    rw [← hfound]
    exact Nat.add_lt_add_right horder 7
  exact (attrSendonly_behind behind (prefix_of_isAudio m.audio_audio) rfl rfl hregion).trans any_behind

theorem filter_of_noVideo {sections : List Section}
    (hother : ∀ s ∈ sections, s.isVideo = false) :
    (sections.filter fun s => !s.isVideo) = sections := by
  apply List.filter_eq_self.mpr
  intro s hs
  rw [hother s hs, Bool.not_false]

/-- Without a video section they are all that counts too. -/
theorem attrSendonly_noVideo (hfront : ∀ s ∈ m.front, s.isVideo = false)
    (hback : ∀ s ∈ m.back, s.isVideo = false) :
    attrSendonly (m.bytes ++ behind) m.bytes.length = (m.audio :: m.back).any Section.holds := by
  have hnone : memFindAfter (ascii "m=video") (m.bytes ++ behind) 0 m.bytes.length = none := by
    apply memFindAfter_missing inline_video behind
    intro line hline
    apply m.video_named
    rw [Message.withoutVideo_lines, filter_of_noVideo hfront, filter_of_noVideo hback]
    exact hline
  have hregion : audioSdp (m.bytes ++ behind) m.bytes.length =
      ((bytesOf m.before).length + (ascii "m=audio").length, m.bytes.length) := by
    apply audioSdp_behind (m.audioStart_eq behind)
    intro videoStart hfound
    rw [hnone] at hfound
    cases hfound
  exact (attrSendonly_behind behind (prefix_of_isAudio m.audio_audio) rfl rfl hregion).trans any_behind

/-- Before a video section everything else counts. -/
theorem attrSendonly_inBack (hfront : ∀ s ∈ m.front, s.isVideo = false)
    (hvideo : ∃ s ∈ m.back, s.isVideo = true) :
    attrSendonly (m.bytes ++ behind) m.bytes.length =
      (m.before.any holds ||
        (m.audio :: m.back.takeWhile fun s => !s.isVideo).any Section.holds) := by
  rcases firstVideo_inBack hfront hvideo with ⟨video, rest, first⟩
  have horder : (bytesOf m.before).length < (bytesOf (upToVideo m.toMessage)).length :=
    length_bytesOf_lt _ _ _
  have hregion : audioSdp (m.bytes ++ behind) m.bytes.length =
      (0, (bytesOf (upToVideo m.toMessage)).length + (ascii "m=video").length) :=
    audioSdp_upTo (m.audioStart_eq behind) (first.videoStart_eq behind)
      (Nat.add_lt_add_right horder 7)
  have hbytes : m.bytes = bytesOf (upToVideo m.toMessage ++ video :: rest) :=
    congrArg bytesOf first.lines_eq
  rw [attrSendonly_upTo behind first.video (by rw [hbytes]) hregion, upToVideo, List.any_append,
    any_sectionLines]

theorem not_isVideo_of_mem_filter {s : Section} {sections : List Section}
    (hs : s ∈ sections.filter fun s => !s.isVideo) : s.isVideo = false := by
  simpa using (List.mem_filter.mp hs).2

/-- The message without its video sections names its media as plainly. -/
def withoutVideo (m : PlainMessage) : PlainMessage where
  toMessage := m.toMessage.withoutVideo
  audio_named := by
    intro line hline
    apply m.audio_named
    rcases List.mem_append.mp hline with hhead | hfront
    · exact List.mem_append_left _ hhead
    · rcases List.mem_flatMap.mp hfront with ⟨s, hs, hline⟩
      exact List.mem_append_right _ (List.mem_flatMap.mpr ⟨s, List.mem_of_mem_filter hs, hline⟩)
  video_named := by
    intro line hline
    apply m.video_named
    rw [Message.withoutVideo_lines,
      @filter_of_noVideo m.toMessage.withoutVideo.front fun s hs => not_isVideo_of_mem_filter hs,
      @filter_of_noVideo m.toMessage.withoutVideo.back fun s hs => not_isVideo_of_mem_filter hs]
      at hline
    exact hline

/-- A message without its video sections: the audio section and what follows it counts. -/
theorem attrSendonly_withoutVideo (m : PlainMessage) (behind : Bytes) :
    attrSendonly (m.withoutVideo.bytes ++ behind) m.withoutVideo.bytes.length = true ↔
      m.audio.holds = true ∨ ∃ s ∈ m.back, s.isVideo = false ∧ s.holds = true := by
  rw [attrSendonly_noVideo behind (fun s hs => not_isVideo_of_mem_filter hs)
    (fun s hs => not_isVideo_of_mem_filter hs), List.any_cons, Bool.or_eq_true, List.any_eq_true]
  simp only [withoutVideo, Message.withoutVideo, List.mem_filter, Bool.not_eq_true', and_assoc]

theorem isVideo_audio (m : Message) : m.audio.isVideo = false := by
  have haudio := prefix_of_isAudio m.audio_audio
  apply Bool.eq_false_iff.mpr
  intro hvideo
  have hlength : (ascii "m=audio").length ≤ (ascii "m=video").length := by decide +kernel
  have hsame := List.prefix_of_prefix_length_le haudio (prefix_of_isVideo hvideo) hlength
  exact absurd hsame (by decide +kernel)

/-- Whether a section other than a video one, from the audio section on, has an attribute. -/
def Held (m : Message) : Prop := ∃ s ∈ m.audio :: m.back, s.isVideo = false ∧ s.holds = true

theorem attrSendonly_withoutVideo_eq (m : PlainMessage) (behind : Bytes) :
    attrSendonly (m.withoutVideo.bytes ++ behind) m.withoutVideo.bytes.length = true ↔
      Held m.toMessage := by
  rw [attrSendonly_withoutVideo, Held, List.exists_mem_cons_iff, isVideo_audio]
  simp only [true_and]

theorem held_inFront_iff (m : Message) (hfront : ∃ s ∈ m.front, s.isVideo = true) :
    ((∃ s ∈ m.audio :: m.back, s.holds = true) ↔ Held m) ↔ Undisturbed m := by
  constructor
  · intro hverdict
    constructor
    · intro _ hvideo
      rcases hvideo with ⟨s, hs, -, hholds⟩
      exact hverdict.mp ⟨s, List.mem_cons_of_mem _ hs, hholds⟩
    · intro hother
      rcases hfront with ⟨s, hs, hvideo⟩
      rw [hother s hs] at hvideo
      cases hvideo
  · intro hundisturbed
    constructor
    · intro hany
      rcases hany with ⟨s, hs, hholds⟩
      cases hvideo : s.isVideo with
      | false => exact ⟨s, hs, hvideo, hholds⟩
      | true =>
          rcases List.mem_cons.mp hs with rfl | hback
          · rw [isVideo_audio] at hvideo
            cases hvideo
          · exact hundisturbed.inFront hfront ⟨s, hback, hvideo, hholds⟩
    · intro hheld
      rcases hheld with ⟨s, hs, -, hholds⟩
      exact ⟨s, hs, hholds⟩

theorem held_noVideo_iff (m : Message) (hfront : ∀ s ∈ m.front, s.isVideo = false)
    (hback : ∀ s ∈ m.back, s.isVideo = false) :
    ((∃ s ∈ m.audio :: m.back, s.holds = true) ↔ Held m) ↔ Undisturbed m := by
  apply iff_of_true
  · constructor
    · intro hany
      rcases hany with ⟨s, hs, hholds⟩
      rcases List.mem_cons.mp hs with rfl | hlater
      · exact ⟨m.audio, hs, isVideo_audio m, hholds⟩
      · exact ⟨s, hs, hback s hlater, hholds⟩
    · intro hheld
      rcases hheld with ⟨s, hs, -, hholds⟩
      exact ⟨s, hs, hholds⟩
  · constructor
    · intro hvideo
      rcases hvideo with ⟨s, hs, hvideo⟩
      rw [hfront s hs] at hvideo
      cases hvideo
    · intro _ hvideo
      rcases hvideo with ⟨s, hs, hvideo⟩
      rw [hback s hs] at hvideo
      cases hvideo

/-- The sections before the first video one and those from it on. -/
theorem held_split (m : Message) : Held m ↔
    (∃ s ∈ m.audio :: m.back.takeWhile fun s => !s.isVideo, s.holds = true) ∨
      ∃ s ∈ m.back.dropWhile fun s => !s.isVideo, s.isVideo = false ∧ s.holds = true := by
  have hsplit := @List.takeWhile_append_dropWhile _ (fun s : Section => !s.isVideo) m.back
  constructor
  · intro hheld
    rcases hheld with ⟨s, hs, hother, hholds⟩
    rcases List.mem_cons.mp hs with rfl | hback
    · exact .inl ⟨_, List.mem_cons_self, hholds⟩
    · rw [← hsplit] at hback
      rcases List.mem_append.mp hback with hbefore | hfrom
      · exact .inl ⟨s, List.mem_cons_of_mem _ hbefore, hholds⟩
      · exact .inr ⟨s, hfrom, hother, hholds⟩
  · intro hparts
    rcases hparts with ⟨s, hs, hholds⟩ | ⟨s, hs, hother, hholds⟩
    · rcases List.mem_cons.mp hs with rfl | hbefore
      · exact ⟨_, List.mem_cons_self, isVideo_audio m, hholds⟩
      · have hother := List.mem_takeWhile_imp hbefore
        have hback := (List.takeWhile_sublist _).subset hbefore
        exact ⟨s, List.mem_cons_of_mem _ hback, by simpa using hother, hholds⟩
    · have hback := (List.dropWhile_sublist _).subset hs
      exact ⟨s, List.mem_cons_of_mem _ hback, hother, hholds⟩

theorem or_iff_or {p q r : Prop} : (p ∨ q ↔ q ∨ r) ↔ q ∨ (p ↔ r) := by
  by_cases hq : q <;> simp [hq]

theorem held_inBack_iff (m : Message) (hfront : ∀ s ∈ m.front, s.isVideo = false)
    (hvideo : ∃ s ∈ m.back, s.isVideo = true) :
    ((∃ line ∈ m.before, SipInvite.holds line = true) ∨
        (∃ s ∈ m.audio :: m.back.takeWhile fun s => !s.isVideo, s.holds = true) ↔ Held m) ↔
      Undisturbed m := by
  rw [held_split, or_iff_or]
  constructor
  · intro hverdict
    constructor
    · intro hother
      rcases hother with ⟨s, hs, hother⟩
      rw [hfront s hs] at hother
      cases hother
    · intro _ _
      exact hverdict
  · intro hundisturbed
    exact hundisturbed.behind hfront hvideo

/-- The verdict on a message is that on the same message without its video sections exactly where
the message is undisturbed. -/
theorem attrSendonly_withoutVideo_iff (m : PlainMessage) (behind other : Bytes) :
    attrSendonly (m.bytes ++ behind) m.bytes.length =
        attrSendonly (m.withoutVideo.bytes ++ other) m.withoutVideo.bytes.length ↔
      Undisturbed m.toMessage := by
  rw [Bool.eq_iff_iff, attrSendonly_withoutVideo_eq]
  by_cases hfront : ∃ s ∈ m.front, s.isVideo = true
  · rw [attrSendonly_inFront behind hfront, List.any_eq_true]
    exact held_inFront_iff m.toMessage hfront
  · have hother : ∀ s ∈ m.front, s.isVideo = false :=
      fun s hs => Bool.eq_false_iff.mpr fun hvideo => hfront ⟨s, hs, hvideo⟩
    by_cases hback : ∃ s ∈ m.back, s.isVideo = true
    · rw [attrSendonly_inBack behind hother hback, Bool.or_eq_true, List.any_eq_true,
        List.any_eq_true]
      exact held_inBack_iff m.toMessage hother hback
    · have hrest : ∀ s ∈ m.back, s.isVideo = false :=
        fun s hs => Bool.eq_false_iff.mpr fun hvideo => hback ⟨s, hs, hvideo⟩
      rw [attrSendonly_noVideo behind hother hrest, List.any_eq_true]
      exact held_noVideo_iff m.toMessage hother hrest

end PlainMessage

section

private def videoMedia : Section where
  media := Line.ofText "m=video 4002 RTP/AVP 31"
  lines := []
  media_media := by decide +kernel
  lines_other := fun line hline => absurd hline List.not_mem_nil

private def audioMedia : Section where
  media := Line.ofText "m=audio 4000 RTP/AVP 0"
  lines := []
  media_media := by decide +kernel
  lines_other := fun line hline => absurd hline List.not_mem_nil

/-- A call that is put on hold by an attribute of the session. -/
private def sessionHold (back : List Section) : Message where
  header := [Line.ofText "INVITE sip:200@10.0.0.2 SIP/2.0",
    Line.ofText "Call-ID: 7@10.0.0.1", Line.ofText ""]
  session := [Line.ofText "v=0", Line.ofText "c=IN IP4 10.0.0.1",
    Line.ofText "a=sendonly"]
  front := []
  audio := audioMedia
  back := back
  session_other := by decide +kernel
  front_other := fun s hs => absurd hs List.not_mem_nil
  audio_audio := by decide +kernel

private def sessionHoldPlain : PlainMessage where
  toMessage := sessionHold [videoMedia]
  audio_named := by decide +kernel
  video_named := by decide +kernel

/-- The session's attribute counts with a video section and does not without. -/
theorem attrSendonly_addVideo : ¬ ∀ (m : PlainMessage) (behind other : Bytes),
    attrSendonly (m.bytes ++ behind) m.bytes.length =
      attrSendonly (m.withoutVideo.bytes ++ other) m.withoutVideo.bytes.length := by
  intro hall
  have hwith : attrSendonly (sessionHoldPlain.bytes ++ []) sessionHoldPlain.bytes.length = true := by
    rw [PlainMessage.attrSendonly_inBack [] (fun s hs => absurd hs List.not_mem_nil)
      ⟨videoMedia, List.mem_cons_self, by decide +kernel⟩]
    decide +kernel
  have hwithout := (hall sessionHoldPlain [] []).symm.trans hwith
  rcases (sessionHoldPlain.attrSendonly_withoutVideo []).mp hwithout with haudio | ⟨s, hs, hother, -⟩
  · exact absurd haudio (by decide +kernel)
  · cases List.mem_singleton.mp hs
    exact absurd hother (by decide +kernel)

end

end

end OrkAudio.SipInvite
