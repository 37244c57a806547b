import OrkAudio.VoIp.Stopped

/-! The session that a capture is stopped for, and the one that takes its place.

The new session is entered at the latest address of the old one, and under its call-id. -/

namespace OrkAudio.VoIp

open Lib

namespace VoIpSessions

section

variable {cfg : Config} {env : Env} {st : VoIpSessions} {r : Nat}

/-! ### Entering -/

theorem byIpAndPort_insertByIpAndPort (a : Nat) :
    (st.insertByIpAndPort a r).byIpAndPort = st.byIpAndPort.insertNew a r := by
  cases hfind : st.byIpAndPort.find? a with
  | some old => rw [insertByIpAndPort_of_taken hfind, OrderedMap.insertNew_of_taken hfind]
  | none => rw [insertByIpAndPort_of_free hfind]

theorem byCallId_insertByIpAndPort (a : Nat) :
    (st.insertByIpAndPort a r).byCallId = st.byCallId := by
  cases hfind : st.byIpAndPort.find? a with
  | some old => rw [insertByIpAndPort_of_taken hfind]
  | none => rw [insertByIpAndPort_of_free hfind]

theorem session_insertByIpAndPort (a : Nat) : (st.insertByIpAndPort a r).session = st.session := by
  cases hfind : st.byIpAndPort.find? a with
  | some old => rw [insertByIpAndPort_of_taken hfind]
  | none => rw [insertByIpAndPort_of_free hfind]

theorem byCallId_insertByCallId : (st.insertByCallId r).byCallId =
    st.byCallId.insertNew (st.session r).callId r := by
  cases hfind : st.byCallId.find? (st.session r).callId with
  | some old => rw [insertByCallId_of_taken hfind, OrderedMap.insertNew_of_taken hfind]
  | none => rw [insertByCallId_of_free hfind]

theorem byIpAndPort_insertByCallId : (st.insertByCallId r).byIpAndPort = st.byIpAndPort := by
  cases hfind : st.byCallId.find? (st.session r).callId with
  | some old => rw [insertByCallId_of_taken hfind]
  | none => rw [insertByCallId_of_free hfind]

/-! ### The session in the place of another -/

variable (cfg env st r) in
/-- The store in which the session is stopped and its replacement not yet entered. -/
def withReplacement : VoIpSessions :=
  (st.create cfg env (copyMetadataToNewSession (st.session r))).stop cfg env r

theorem replaceCaptured_eq : st.replaceCaptured cfg env r =
    ((st.withReplacement cfg env r).insertByIpAndPort
      ((st.withReplacement cfg env r).session st.next).ipAndPort st.next).insertByCallId
        st.next := rfl

section

variable (hlt : r < st.next)

include hlt

theorem session_withReplacement : (st.withReplacement cfg env r).session st.next =
    copyMetadataToNewSession (st.session r)
      (VoIpSession.new cfg env (alphaText (alphaCounterNext st.alphaCounter))) :=
  (session_stop_of_ne _ _ _ hlt.ne').trans (session_setSession_self _)

theorem session_create_old (init : VoIpSession → VoIpSession) :
    (st.create cfg env init).session r = st.session r :=
  session_setSession_of_ne _ hlt.ne

theorem byIpAndPort_withReplacement : (st.withReplacement cfg env r).byIpAndPort =
    (st.session r).mediaAddresses.foldl (eraseOwn r) st.byIpAndPort := by
  unfold withReplacement
  rw [byIpAndPort_stop, session_create_old hlt]
  rfl

theorem mem_byCallId_withReplacement {entry : String × Nat} :
    entry ∈ (st.withReplacement cfg env r).byCallId.entries ↔ entry ∈ st.byCallId.entries ∧
      ((st.session r).callId = "" ∨ entry.1 ≠ (st.session r).callId) := by
  unfold withReplacement
  rw [mem_byCallId_stop, session_create_old hlt]
  rfl

theorem byIpAndPort_replaceCaptured : (st.replaceCaptured cfg env r).byIpAndPort =
    (st.withReplacement cfg env r).byIpAndPort.insertNew (st.session r).ipAndPort st.next := by
  have hcopied : ((st.withReplacement cfg env r).session st.next).ipAndPort =
      (st.session r).ipAndPort := by
    rw [session_withReplacement hlt]
    rfl
  rw [replaceCaptured_eq, hcopied, byIpAndPort_insertByCallId, byIpAndPort_insertByIpAndPort]

theorem byCallId_replaceCaptured : (st.replaceCaptured cfg env r).byCallId =
    (st.withReplacement cfg env r).byCallId.insertNew (st.session r).callId st.next := by
  have hcopied : ((st.withReplacement cfg env r).session st.next).callId =
      (st.session r).callId := by
    rw [session_withReplacement hlt]
    rfl
  rw [replaceCaptured_eq, byCallId_insertByCallId, byCallId_insertByIpAndPort,
    session_insertByIpAndPort, hcopied]

end

/-! ### What is routed to it -/

section

variable {scope : Scope} {a : Nat} (sound : Sound cfg scope st)

include sound

theorem not_registered_next : ¬st.Registered st.next :=
  fun registered => absurd (sound.fresh st.next registered) (lt_irrefl st.next)

/-- An address of the session is free when the session is stopped. -/
theorem free_withReplacement (hmapped : st.byIpAndPort.find? a = some r) :
    (st.withReplacement cfg env r).byIpAndPort.find? a = none := by
  have hlt : r < st.next := sound.fresh r (registered_of_byIpAndPort hmapped)
  rw [OrderedMap.find?_eq_none]
  intro entry hmem hkey
  rw [byIpAndPort_withReplacement hlt, mem_foldl_eraseOwn] at hmem
  have hsame : entry = (a, r) := by
    have hfind : st.byIpAndPort.find? a = some entry.2 := by
      rw [OrderedMap.find?_eq_some, ← hkey]
      exact hmem.1
    rw [hmapped] at hfind
    rw [← hkey, Option.some.inj hfind]
  have haddress := sound.address a r (OrderedMap.find?_eq_some.mp hmapped)
  rcases hmem.2 a haddress with hzero | hne
  · exact (sound.addressed r).port a haddress (by rw [hzero])
  · exact hne hsame

/-- An address that led to the session leads to its replacement where it is the latest. -/
theorem find?_byIpAndPort_replaceCaptured (hmapped : st.byIpAndPort.find? a = some r) :
    (st.replaceCaptured cfg env r).byIpAndPort.find? a = some st.next ↔
      a = (st.session r).ipAndPort := by
  have hlt : r < st.next := sound.fresh r (registered_of_byIpAndPort hmapped)
  have hnew : ∀ b, (b, st.next) ∉ (st.withReplacement cfg env r).byIpAndPort.entries := by
    intro b hmem
    rw [byIpAndPort_withReplacement hlt, mem_foldl_eraseOwn] at hmem
    exact not_registered_next sound (Or.inl ⟨b, hmem.1⟩)
  rw [byIpAndPort_replaceCaptured hlt, OrderedMap.find?_insertNew_new hnew, and_iff_left_iff_imp]
  intro hlatest
  rw [← hlatest]
  exact free_withReplacement sound hmapped

/-- The call-id of a session leads to its replacement where it is not empty. -/
theorem find?_byCallId_replaceCaptured
    (hmapped : st.byCallId.find? (st.session r).callId = some r) :
    (st.replaceCaptured cfg env r).byCallId.find? (st.session r).callId = some st.next ↔
      (st.session r).callId ≠ "" := by
  have hlt : r < st.next := sound.fresh r (registered_of_byCallId hmapped)
  have hnew : ∀ k, (k, st.next) ∉ (st.withReplacement cfg env r).byCallId.entries := by
    intro k hmem
    rw [mem_byCallId_withReplacement hlt] at hmem
    exact not_registered_next sound (Or.inr ⟨k, hmem.1⟩)
  rw [byCallId_replaceCaptured hlt, OrderedMap.find?_insertNew_new hnew,
    and_iff_right rfl, OrderedMap.find?_eq_none]
  constructor
  · intro hfree hempty
    have hkept : ((st.session r).callId, r) ∈ (st.withReplacement cfg env r).byCallId.entries := by
      rw [mem_byCallId_withReplacement hlt]
      exact ⟨OrderedMap.find?_eq_some.mp hmapped, Or.inl hempty⟩
    exact hfree _ hkept rfl
  · intro hne entry hmem hkey
    rw [mem_byCallId_withReplacement hlt] at hmem
    rcases hmem.2 with hempty | hother
    · exact hne hempty
    · exact hother hkey

end

/-- A stopped capture leaves the rest of the call to the session in its place where the latest
address of the call is the only one, and where the call is not one without a call-id that a
stopped capture has been registered for before. -/
theorem stopCapture_keeps_iff (env : Env) {request : CaptureRequest} (reachable : Reachable cfg st)
    (hfind : st.findCaptured (fun s => request.isFor s) = some r) :
    ((∀ a, st.byIpAndPort.find? a = some r →
        ((Operation.stopCapture request).run cfg env st).byIpAndPort.find? a = some st.next) ∧
      (st.byCallId.find? (st.session r).callId = some r →
        ((Operation.stopCapture request).run cfg env st).byCallId.find? (st.session r).callId =
          some st.next)) ↔
    (∀ a, st.byIpAndPort.find? a = some r → a = (st.session r).ipAndPort) ∧
      (st.byCallId.find? (st.session r).callId = some r → (st.session r).callId ≠ "") := by
  have hrun : (Operation.stopCapture request).run cfg env st = st.replaceCaptured cfg env r := by
    dsimp only [Operation.run]
    rw [stopCaptureOf, hfind]
  rw [hrun]
  apply and_congr
  · apply forall_congr'
    intro a
    exact imp_congr_right fun hmapped => find?_byIpAndPort_replaceCaptured reachable.sound hmapped
  · exact imp_congr_right fun hmapped => find?_byCallId_replaceCaptured reachable.sound hmapped

section

/-! A call that is heard in both directions, with the second of its addresses tracked. -/

private def heardLabels : List (Env × Operation) :=
  [({ usec := 0 }, .rtp { sourceIp := 10, destIp := 30, sourcePort := 4000, destPort := 5000 }),
    ({ usec := 0 }, .rtp
      { sourceIp := 30, destIp := 11, sourcePort := 5000, destPort := 4001, seqNum := 1 })]

/-- With single mappings the second address is the only one. -/
theorem stopCapture_keeps_single :
    let cfg : Config :=
      { mediaAddressUseSecondRtpAddress := true, rtpAllowMultipleMappings := false }
    let st := runAll cfg (empty cfg { usec := 0 } 0) heardLabels
    ((Operation.stopCapture (.party "30.0.0.0")).run cfg { usec := 0 } st).byIpAndPort.find?
      724897 = some 1 := by
  intro cfg st
  have reachable : Reachable cfg st := reachable_runAll { usec := 0 } 0 heardLabels
  have hfind : st.findCaptured (fun s => (CaptureRequest.party "30.0.0.0").isFor s) = some 0 := by
    decide +kernel
  have hlatest : ∀ a, st.byIpAndPort.find? a = some 0 → a = (st.session 0).ipAndPort := by
    intro a hmapped
    exact (reachable.sound.addressed 0).single rfl a
      (reachable.sound.address a 0 (OrderedMap.find?_eq_some.mp hmapped))
  have hunkeyed : st.byCallId.find? (st.session 0).callId = some 0 →
      (st.session 0).callId ≠ "" := by
    intro hmapped
    exact absurd hmapped (by decide +kernel)
  have hkeeps := (stopCapture_keeps_iff { usec := 0 } reachable hfind).mpr ⟨hlatest, hunkeyed⟩
  have hmapped : st.byIpAndPort.find? 724897 = some 0 := by decide +kernel
  have hnext : st.next = 1 := by decide +kernel
  exact (hkeeps.1 724897 hmapped).trans (congrArg some hnext)

/-- With multiple mappings the first address leads nowhere after the capture is stopped. -/
theorem stopCapture_loses_address : ¬ ∀ (cfg : Config) (env : Env) (st : VoIpSessions)
    (request : CaptureRequest) (r : Nat), Reachable cfg st →
    st.findCaptured (fun s => request.isFor s) = some r →
    (∀ a, st.byIpAndPort.find? a = some r →
        ((Operation.stopCapture request).run cfg env st).byIpAndPort.find? a = some st.next) ∧
      (st.byCallId.find? (st.session r).callId = some r →
        ((Operation.stopCapture request).run cfg env st).byCallId.find? (st.session r).callId =
          some st.next) := by
  intro hall
  let cfg : Config := { mediaAddressUseSecondRtpAddress := true }
  let st := runAll cfg (empty cfg { usec := 0 } 0) heardLabels
  have reachable : Reachable cfg st := reachable_runAll { usec := 0 } 0 heardLabels
  have hfind : st.findCaptured (fun s => (CaptureRequest.party "30.0.0.0").isFor s) = some 0 := by
    decide +kernel
  have hmapped : st.byIpAndPort.find? 1971080 = some 0 := by decide +kernel
  have hkeeps := hall cfg { usec := 0 } st (.party "30.0.0.0") 0 reachable hfind
  exact absurd (hkeeps.1 1971080 hmapped) (by decide +kernel)

end

end

end VoIpSessions

end OrkAudio.VoIp
