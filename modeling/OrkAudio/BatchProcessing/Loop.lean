import OrkAudio.BatchProcessing.Passes

/-! What holds of the loop over the file after any number of chunks: nothing was mixed, or both
mixers were handed all that the decoders made of the chunks so far. -/

namespace OrkAudio.BatchProcessing

open Lib Batch RtpMixer

variable {σ : Type} {codecs : Decoder.Codecs σ}

/-- What the loop makes of a chunk by the session it is in. -/
theorem Decoding.iterate_cases {s : Decoding σ} {input : Input} {stage : Stage σ}
    (hstage : s.iterate codecs input = some stage) :
    (∃ s', stage = .next s' ∧ (s.voIpSession = true → s'.voIpSession = true)) ∨
    (stage = .plain s ∧ s.voIpSession = false) ∨
    ∃ s' working tmpChunk, stage = .decoded s' working tmpChunk ∧ s'.voIpSession = true := by
  have hdecode {s : Decoding σ} {working : Bool} {chunk : AudioChunk} (hvoIp : s.voIpSession = true)
      (hdecoded : s.decode codecs working chunk = some stage) :
      ∃ s' working tmpChunk, stage = .decoded s' working tmpChunk ∧ s'.voIpSession = true := by
    rw [decode] at hdecoded
    split at hdecoded
    · cases hdecoded
    · split at hdecoded
      · cases hdecoded
        exact ⟨_, _, _, rfl, hvoIp⟩
      · cases hdecoded
  rw [iterate] at hstage
  split at hstage
  · cases hstage
    exact .inl ⟨_, rfl, id⟩
  · dsimp only at hstage
    split_ifs at hstage with hbounds hvoIp hmissing hsession
    · cases hstage
      exact .inl ⟨_, rfl, id⟩
    · cases hstage
      exact .inl ⟨_, rfl, fun _ => rfl⟩
    · exact .inr (.inr (hdecode rfl hstage))
    · exact .inr (.inr (hdecode hsession hstage))
    · cases hstage
      exact .inr (.inl ⟨rfl, eq_false_of_ne_true hsession⟩)

variable (cfg : Config)

/-- No codec has worked yet, and no file has got a frame. -/
structure Unmixed (s : State σ) : Prop where
  rtpMixer : s.rtpMixer = none
  rtpMixerSecondary : s.rtpMixerSecondary = none
  tmpChunk : s.tmpChunk = none
  frames : fileFrames cfg.stereoRecording s.outFile = []
  framesSecondary : fileFrames true s.outFileSecondary = []
  count : s.numSamplesOut = 0

/-- The main mixer was handed the outputs of the decoders after the gain, the secondary one
the outputs themselves. -/
structure Mixed (s : State σ) (fed : List (Option AudioChunk)) (m : RtpMixer) : Prop where
  rtpMixer : s.rtpMixer = some m
  firstChunk : s.firstChunk = false
  voIpSession : s.decoding.voIpSession = true
  main : ∃ handed, fed.mapM (audioGain cfg) = some handed ∧
    Passed cfg.tapeNumChannels cfg.stereoRecording (State.mixer cfg) handed m
      (fileFrames cfg.stereoRecording s.outFile)
  count : s.numSamplesOut = (fileFrames cfg.stereoRecording s.outFile).length
  mainOnly : cfg.secondary = false → s.rtpMixerSecondary = none
  secondary : cfg.secondary = true → ∃ m₂, s.rtpMixerSecondary = some m₂ ∧
    Passed cfg.tapeNumChannels true (State.mixerSecondary cfg) fed m₂
      (fileFrames true s.outFileSecondary)

/-- The outputs of the decoders so far went through the mixers. -/
def Fed (s : State σ) (fed : List (Option AudioChunk)) : Prop :=
  (fed = [] ∧ Unmixed cfg s) ∨ ∃ m, Mixed cfg s fed m

variable {cfg} {s s' : State σ} {fed : List (Option AudioChunk)}

theorem Unmixed.start (decoding : Decoding σ) : Unmixed cfg { decoding := decoding } :=
  ⟨rfl, rfl, rfl, rfl, rfl, rfl⟩

theorem Unmixed.withDecoding (unmixed : Unmixed cfg s) (decoding : Decoding σ) :
    Unmixed cfg { s with decoding := decoding } :=
  ⟨unmixed.rtpMixer, unmixed.rtpMixerSecondary, unmixed.tmpChunk, unmixed.frames,
    unmixed.framesSecondary, unmixed.count⟩

theorem Mixed.withDecoding {m : RtpMixer} (mixed : Mixed cfg s fed m) {decoding : Decoding σ}
    (hvoIp : decoding.voIpSession = true) : Mixed cfg { s with decoding := decoding } fed m :=
  ⟨mixed.rtpMixer, mixed.firstChunk, hvoIp, mixed.main, mixed.count, mixed.mainOnly,
    mixed.secondary⟩

/-- The first working codec of a session creates the mixers. -/
theorem Unmixed.openFiles (unmixed : Unmixed cfg s) (hvoIp : s.decoding.voIpSession = true)
    (hopen : s.openFiles cfg = some s') :
    Mixed cfg s' [] (State.mixer cfg) ∧ s'.decoding = s.decoding := by
  rw [State.openFiles, if_pos hvoIp] at hopen
  cases hopen
  refine ⟨⟨rfl, rfl, hvoIp, ⟨[], rfl, .nothing⟩, unmixed.count, ?_, ?_⟩, rfl⟩
  · intro hmain
    simp only [hmain]
    exact unmixed.rtpMixerSecondary
  · intro hsecondary
    simp only [hsecondary, if_true]
    exact ⟨_, rfl, .nothing⟩

/-- A chunk outside a session opens the main file and leaves it empty. -/
theorem Unmixed.plain (unmixed : Unmixed cfg s) (hplain : s.decoding.voIpSession = false)
    (hstep : (do
      let s ← s.openFiles cfg
      let tmpChunk ← audioGain cfg s.tmpChunk
      s.output tmpChunk) = some s') :
    Unmixed cfg s' ∧ s'.decoding = s.decoding := by
  obtain ⟨opened, hopen, hrest⟩ := Option.bind_eq_some_iff.mp hstep
  obtain ⟨tmpChunk, hgain, hout⟩ := Option.bind_eq_some_iff.mp hrest
  rw [State.openFiles, if_neg (by simp [hplain])] at hopen
  split_ifs at hopen
  cases hopen
  rw [show audioGain cfg s.tmpChunk = some none by rw [unmixed.tmpChunk]; rfl] at hgain
  cases hgain
  cases hout
  exact ⟨⟨unmixed.rtpMixer, unmixed.rtpMixerSecondary, rfl, rfl, unmixed.framesSecondary,
    unmixed.count⟩, rfl⟩

theorem mapM_concat {α β : Type} {f : α → Option β} {xs : List α} {ys : List β} {x : α} {y : β}
    (hfront : xs.mapM f = some ys) (hlast : f x = some y) :
    (xs ++ [x]).mapM f = some (ys ++ [y]) := by
  rw [List.mapM_append, hfront]
  simp [hlast]

theorem toOption_eq_some {ε α : Type} {x : Except ε α} {a : α} (hx : x.toOption = some a) :
    x = .ok a := by
  cases x with
  | error e => cases hx
  | ok b =>
      cases hx
      rfl

/-- Both mixers and both files take the output of a decoder. -/
theorem Mixed.mix {m : RtpMixer} (mixed : Mixed cfg s fed m) {tmpChunk : Option AudioChunk}
    {between : State σ} (hmix : s.mix cfg tmpChunk = some between)
    (hsecondary : between.mixSecondary cfg tmpChunk = some s') :
    (∃ m', Mixed cfg s' (fed ++ [tmpChunk]) m') ∧ s'.decoding = s.decoding := by
  obtain ⟨handed, hgain, hrest⟩ := Option.bind_eq_some_iff.mp hmix
  obtain ⟨_, hm, hmixed⟩ := Option.bind_eq_some_iff.mp hrest
  cases hm.symm.trans mixed.rtpMixer
  obtain ⟨m', hin, hout⟩ := Option.bind_eq_some_iff.mp hmixed
  obtain ⟨took, hmixer, -⟩ := output_took cfg.stereoRecording hout
  obtain ⟨all, hall, passed⟩ := mixed.main
  have hmain := passed.pass (toOption_eq_some hin)
  have hcount : between.numSamplesOut =
      (fileFrames cfg.stereoRecording between.outFile).length := by
    rw [took.count, took.frames, List.length_append, ← mixed.count]
  rw [State.mixSecondary] at hsecondary
  split at hsecondary
  · rename_i hnone
    cases hsecondary
    refine ⟨⟨_, hmixer, ?_, ?_, ⟨_, mapM_concat hall hgain, ?_⟩, hcount, fun _ => hnone, ?_⟩,
      took.decoding⟩
    · exact took.firstChunk.trans mixed.firstChunk
    · rw [took.decoding]
      exact mixed.voIpSession
    · rw [took.frames]
      exact hmain
    · intro hconfigured
      obtain ⟨m₂, hsome, -⟩ := mixed.secondary hconfigured
      rw [took.rtpMixerSecondary, hsome] at hnone
      cases hnone
  · rename_i m₂ hm₂
    obtain ⟨m₂', hin₂, hrest₂⟩ := Option.bind_eq_some_iff.mp hsecondary
    obtain ⟨outFileSecondary, hwrite, hresult⟩ := Option.bind_eq_some_iff.mp hrest₂
    cases hresult
    refine ⟨⟨_, hmixer, ?_, ?_, ⟨_, mapM_concat hall hgain, ?_⟩, hcount, ?_, ?_⟩, took.decoding⟩
    · exact took.firstChunk.trans mixed.firstChunk
    · simp only [took.decoding]
      exact mixed.voIpSession
    · simp only [took.frames]
      exact hmain
    · intro hmainOnly
      rw [took.rtpMixerSecondary, mixed.mainOnly hmainOnly] at hm₂
      cases hm₂
    · intro hconfigured
      obtain ⟨m₁, hsome, passed₂⟩ := mixed.secondary hconfigured
      rw [took.rtpMixerSecondary, hsome] at hm₂
      cases hm₂
      refine ⟨_, rfl, ?_⟩
      rw [writeChunk_frames true hwrite, took.outFileSecondary]
      exact passed₂.pass (toOption_eq_some hin₂)

/-- One iteration of the loop hands the mixers what the decoder made of the chunk. -/
theorem Fed.step (hfed : Fed cfg s fed) {input : Input}
    (hstep : s.iterate cfg codecs input = some s') :
    ∃ stage, s.decoding.iterate codecs input = some stage ∧ s'.decoding = stage.decoding ∧
      Fed cfg s' (fed ++ stage.outputs) := by
  obtain ⟨stage, hstage, hrest⟩ := Option.bind_eq_some_iff.mp hstep
  refine ⟨stage, hstage, ?_⟩
  rcases Decoding.iterate_cases hstage with ⟨decoding, rfl, hkept⟩ | ⟨rfl, hplain⟩ |
    ⟨decoding, working, tmpChunk, rfl, hvoIp⟩
  · cases hrest
    refine ⟨rfl, ?_⟩
    simp only [Stage.outputs, List.append_nil]
    rcases hfed with ⟨rfl, unmixed⟩ | ⟨m, mixed⟩
    · exact .inl ⟨rfl, unmixed.withDecoding decoding⟩
    · exact .inr ⟨m, mixed.withDecoding (hkept mixed.voIpSession)⟩
  · simp only [Stage.outputs, List.append_nil]
    rcases hfed with ⟨rfl, unmixed⟩ | ⟨m, mixed⟩
    · obtain ⟨unmixed', hsame⟩ := unmixed.plain hplain hrest
      exact ⟨hsame, .inl ⟨rfl, unmixed'⟩⟩
    · rw [mixed.voIpSession] at hplain
      cases hplain
  · obtain ⟨opened, hopen, hmixes⟩ := Option.bind_eq_some_iff.mp hrest
    obtain ⟨between, hmix, hsecondary⟩ := Option.bind_eq_some_iff.mp hmixes
    have hmixed : ∃ m, Mixed cfg opened fed m ∧ opened.decoding = decoding := by
      rcases hfed with ⟨rfl, unmixed⟩ | ⟨m, mixed⟩
      · have unmixed' := unmixed.withDecoding decoding
        rw [State.openFirst] at hopen
        split_ifs at hopen
        · obtain ⟨mixed, hsame⟩ := unmixed'.openFiles hvoIp hopen
          exact ⟨_, mixed, hsame⟩
        · -- without the mixer there is nothing to hand the chunk to
          cases hopen
          obtain ⟨handed, -, hnone⟩ := Option.bind_eq_some_iff.mp hmix
          rw [unmixed'.rtpMixer] at hnone
          cases hnone
      · have mixed' := mixed.withDecoding hvoIp
        rw [State.openFirst, if_neg (by simp [mixed.firstChunk])] at hopen
        cases hopen
        exact ⟨m, mixed', rfl⟩
    obtain ⟨m, mixed, hsame⟩ := hmixed
    obtain ⟨mixed', hsame'⟩ := mixed.mix hmix hsecondary
    exact ⟨hsame'.trans hsame, .inr mixed'⟩

/-- The whole loop hands the mixers all that the decoders make of the file. -/
theorem Fed.run (hfed : Fed cfg s fed) {inputs : List Input}
    (hrun : inputs.foldlM (State.iterate cfg codecs) s = some s') :
    ∃ decoded, decodedChunks codecs s.decoding inputs = some decoded ∧
      Fed cfg s' (fed ++ decoded) := by
  induction inputs generalizing s fed with
  | nil =>
      cases hrun
      exact ⟨[], rfl, by rwa [List.append_nil]⟩
  | cons input inputs ih =>
      rw [List.foldlM_cons] at hrun
      obtain ⟨next, hstep, hrest⟩ := Option.bind_eq_some_iff.mp hrun
      obtain ⟨stage, hstage, hdecoding, hfed'⟩ := hfed.step hstep
      obtain ⟨decoded, hdecoded, hfed''⟩ := ih hfed' hrest
      refine ⟨stage.outputs ++ decoded, ?_, by rwa [← List.append_assoc]⟩
      rw [decodedChunks, hstage]
      simp [← hdecoding, hdecoded]

end OrkAudio.BatchProcessing
