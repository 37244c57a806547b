import OrkAudio.SipInvite.StoredValues

/-! The values of the configured keys against the lines of the headers. -/

namespace OrkAudio.SipInvite

open Lib

/-! ### Headers and keys -/

/-- A configured key `header.key`. -/
structure HeaderKey where
  header : Bytes
  key : Bytes
  header_name : HeaderName header
  key_nonempty : key ≠ []

namespace HeaderKey

def text (k : HeaderKey) : Bytes := k.header ++ 0x2E :: k.key

end HeaderKey

/-- Nothing is stored for an empty value. -/
def entry (value : Bytes) : Option Bytes := if value = [] then none else some value

/-! ### What the code takes -/

section

variable {payload behind memory : Bytes} {payloadSize : Nat} {known first : FieldPositions}
  {k : HeaderKey}

/-! ### The form of a key -/

/-- The places of the fields, whether they are known or still searched. -/
def SamePlaces (memory : Bytes) (payloadSize : Nat) (known first : FieldPositions) : Prop :=
  ∀ field : Field,
    retrieveFieldPosition memory payloadSize (known field) (field.name ++ ascii ":") =
      retrieveFieldPosition memory payloadSize (first field) (field.name ++ ascii ":")

theorem retrieveFieldPosition_again (memory : Bytes) (payloadSize : Nat) (known : Option Nat)
    (fieldName : Bytes) :
    retrieveFieldPosition memory payloadSize
        (retrieveFieldPosition memory payloadSize known fieldName) fieldName =
      retrieveFieldPosition memory payloadSize known fieldName := by
  rw [retrieveFieldPosition, retrieveFieldPosition]
  cases known with
  | some place => rfl
  | none =>
      rw [Option.none_or]
      exact Option.or_self

/-- A place that has been searched is the same when it is known. -/
theorem SamePlaces.update (hsame : SamePlaces memory payloadSize known first) (field : Field) :
    SamePlaces memory payloadSize
      (Function.update known field
        (retrieveFieldPosition memory payloadSize (known field) (field.name ++ ascii ":"))) first := by
  intro other
  by_cases heq : other = field
  · subst heq
    rw [Function.update_self, retrieveFieldPosition_again]
    exact hsame other
  · rw [Function.update_of_ne heq]
    exact hsame other

end

section

end

end OrkAudio.SipInvite
