import OrkAudio.Lib.ByteSearch
import OrkAudio.Serializer.Refusal
import OrkAudio.Serializer.Text
import OrkAudio.VoIp.Capture

/-! The URLs that are read from TCP payloads, and what they share with the URLs of commands. -/

namespace OrkAudio.VoIp

open Lib hiding Bytes
open Serializer

/-- The characters of a text, one for each byte. -/
def textOf (bytes : Bytes) : String := String.ofList (bytes.map fun c => Char.ofNat c.val)

namespace VoIpSessions

section

variable (cfg : Config) (env : Env)

/-- `VoIpSessions::UrlExtraction`, an error where `GetAt` throws: the pairs up to there are
kept. -/
def urlExtraction (st : VoIpSessions) (endpointIp : InAddr) (input : Bytes) :
    Except VoIpSessions VoIpSessions :=
  let save (pairs : List (Bytes × Bytes)) : VoIpSessions :=
    st.saveExtractedUrl cfg env endpointIp
      (pairs.map fun pair => (textOf pair.1, textOf pair.2))
  match Url.format.readPairs (.between .empty) [] (trimBytes input) with
  | .ok pairs => .ok (save pairs)
  | .error pairs => .error (save pairs)

variable (st : VoIpSessions) (endpointIp : InAddr)

theorem urlExtraction_error_iff (input : Bytes) :
    (∃ left, urlExtraction cfg env st endpointIp input = .error left) ↔
      Url.CutsEscape (trimBytes input) := by
  have hempty : Url.format.unescape [] ≠ none := by decide
  have hread := @KeyValueFormat.readPairs_error_iff Url.format (trimBytes input)
    (.between .empty) [] .empty
  rw [← Url.refusesValue_iff, ← KeyValueFormat.read_eq_none_iff hempty]
  refine Iff.trans ?_ hread
  unfold urlExtraction
  dsimp only
  split
  · rename_i pairs hpairs
    rw [hpairs]
    constructor
    · intro hthrown
      rcases hthrown with ⟨left, heq⟩
      cases heq
    · intro hthrown
      rcases hthrown with ⟨before, heq⟩
      cases heq
  · rename_i pairs hpairs
    exact ⟨fun _ => ⟨pairs, hpairs⟩, fun _ => ⟨_, rfl⟩⟩

/-- Both readers of URLs leave the caller nothing else to catch than a `CStdString`, exactly where
no value ends in the middle of an escape. -/
theorem unescaping_caught_iff (define : OrderedMap Bytes Bytes → Option Bytes) (input : Bytes) :
    (Url.deSerializeObject define input ≠ .outOfRange ↔ ¬ Url.CutsEscape (trimBytes input)) ∧
      ((∃ next, urlExtraction cfg env st endpointIp input = .ok next) ↔
        ¬ Url.CutsEscape (trimBytes input)) := by
  refine ⟨not_congr (Url.deSerializeObject_outOfRange_iff define input), ?_⟩
  rw [← urlExtraction_error_iff cfg env st endpointIp]
  cases urlExtraction cfg env st endpointIp input with
  | error left =>
      constructor
      · intro hcompletes
        rcases hcompletes with ⟨next, heq⟩
        cases heq
      · intro hcaught
        exact absurd ⟨left, rfl⟩ hcaught
  | ok next =>
      constructor
      · intro _ hthrown
        rcases hthrown with ⟨left, heq⟩
        cases heq
      · intro _
        exact ⟨next, rfl⟩

end

/-- A command with a percent sign at its end. -/
theorem unescaping_outOfRange : ¬ ∀ (cfg : Config) (env : Env) (st : VoIpSessions)
    (endpointIp : InAddr) (define : OrderedMap Bytes Bytes → Option Bytes) (input : Bytes),
    Url.deSerializeObject define input ≠ .outOfRange ∧
      ∃ next, urlExtraction cfg env st endpointIp input = .ok next := by
  intro hall
  have hcaught := (hall {} { usec := 0 } (empty {} { usec := 0 } 0) 0 (fun _ => none)
    (text "type=ping&x=%")).1
  exact hcaught (by decide +kernel)

end VoIpSessions

end OrkAudio.VoIp
