import OrkAudio.Iax2.Session

/-! One side of one call during a trunk frame.

The frames that reach the side come once through one packet object, which the call keeps a
reference to, and once each through an object of its own. `sideRun` follows both as long as
they take the same frames. The conditions say when that is so. -/

namespace OrkAudio.Iax2

open Lib VoIp

variable (rewrite : Bool) (side : Iax2Session.Side)

/-- Whether a frame is handed out, given the timestamp that the side kept. -/
def takes (last : Option UInt32) (timestamp : UInt32) : Bool :=
  rewrite || decide (last ≠ some timestamp)

/-- The timestamp that a frame has once it is handed out. -/
def retainedTimestamp (last : Option UInt32) (timestamp : UInt32) : UInt32 :=
  match last with
  | some last => if rewrite then Iax2Session.rewrittenTimestamp side last timestamp else timestamp
  | none => timestamp

/-- A frame through the one object. Once the side keeps a reference to it, the object is
compared with itself. -/
def takesShared (owned : Bool) (last : Option UInt32) (info : Iax2PacketInfo) : Bool :=
  rewrite || (!owned && decide (last ≠ some info.timestamp))

/-- A frame through an object of its own, as a mini frame. -/
def takesSeparate (last : Option UInt32) (info : Iax2PacketInfo) : Bool :=
  decide (info.payload ≠ []) && takes rewrite last info.timestamp

/-- What the side keeps of separate frames. -/
def keepSeparate (last : Option UInt32) (info : Iax2PacketInfo) : Option UInt32 :=
  if takesSeparate rewrite last info then
    some (retainedTimestamp rewrite side last info.timestamp)
  else last

/-- Whether the side keeps a reference to the one object, and the timestamp that it keeps of
separate frames; none once the two do not take the same frames. -/
def sideRun : Bool → Option UInt32 → List Iax2PacketInfo → Option (Bool × Option UInt32)
  | owned, last, [] => some (owned, last)
  | owned, last, info :: infos =>
      if takesShared rewrite owned last info = takesSeparate rewrite last info then
        sideRun (owned || takesShared rewrite owned last info)
          (keepSeparate rewrite side last info) infos
      else none

theorem sideRun_append (owned : Bool) (last : Option UInt32) (front back : List Iax2PacketInfo) :
    sideRun rewrite side owned last (front ++ back) =
      (sideRun rewrite side owned last front).bind fun result =>
        sideRun rewrite side result.1 result.2 back := by
  induction front generalizing owned last with
  | nil => rfl
  | cons info front ih =>
      simp only [List.cons_append, sideRun]
      split_ifs
      · exact ih _ _
      · rfl

/-! ### When both take the same frames -/

/-- A frame that repeats the timestamp the side kept from before. -/
def repeats (last : Option UInt32) (info : Iax2PacketInfo) : Bool := decide (last = some info.timestamp)

/-- Without rewriting: after the frames that repeat the timestamp from before, the next one
has a payload, and every one with a payload has the timestamp that the object ends with. -/
def KeepsStep (last : Option UInt32) (final : UInt32) (infos : List Iax2PacketInfo) : Prop :=
  (∀ info ∈ (infos.dropWhile (repeats last)).head?, info.payload ≠ []) ∧
    ∀ info ∈ infos.dropWhile (repeats last), info.payload ≠ [] → info.timestamp = final

/-- With rewriting: every frame has a payload, and the timestamp of the last one, each being
rewritten from the one before, is the one that the object ends with. -/
def KeepsStepRewriting (last : Option UInt32) (final : UInt32) (infos : List Iax2PacketInfo) :
    Prop :=
  (∀ info ∈ infos, info.payload ≠ []) ∧
    (infos ≠ [] →
      infos.foldl (fun last info => some (retainedTimestamp true side last info.timestamp)) last =
        some final)

/-- The two end alike. -/
def EndsAlike (final : UInt32) (result : Option (Bool × Option UInt32)) : Prop :=
  ∃ owned last, result = some (owned, last) ∧ (owned = true → last = some final)

/-- While the side keeps the object, separate frames must repeat what it kept. -/
theorem sideRun_owned (last final : UInt32) (infos : List Iax2PacketInfo) :
    EndsAlike final (sideRun false side true (some last) infos) ↔
      last = final ∧ ∀ info ∈ infos, info.payload ≠ [] → info.timestamp = final := by
  induction infos with
  | nil =>
      constructor
      · rintro ⟨owned, kept, hrun, hfinal⟩
        cases hrun
        exact ⟨Option.some.inj (hfinal rfl), by simp⟩
      · rintro ⟨rfl, -⟩
        exact ⟨true, some last, rfl, fun _ => rfl⟩
  | cons info infos ih =>
      have hshared : takesShared false true (some last) info = false := rfl
      rw [sideRun, hshared]
      by_cases hseparate : takesSeparate false (some last) info = true
      · have hne : ¬ (info.payload ≠ [] → info.timestamp = last) := by
          intro hsame
          simp only [takesSeparate, takes, Bool.and_eq_true, decide_eq_true_eq, Bool.false_or,
            ne_eq, Option.some.injEq] at hseparate
          exact hseparate.2 (hsame hseparate.1).symm
        rw [hseparate, if_neg (by decide)]
        constructor
        · rintro ⟨owned, kept, hrun, -⟩
          cases hrun
        · rintro ⟨rfl, hall⟩
          exact absurd (hall info List.mem_cons_self) hne
      · have hsame : info.payload ≠ [] → info.timestamp = last := by
          intro hpayload
          simp only [takesSeparate, takes, Bool.and_eq_true, decide_eq_true_eq, Bool.false_or,
            ne_eq, Option.some.injEq, not_and, not_not] at hseparate
          exact (hseparate hpayload).symm
        rw [Bool.not_eq_true] at hseparate
        rw [if_pos hseparate.symm, keepSeparate, hseparate]
        simp only [Bool.or_false, Bool.false_eq_true, if_false]
        rw [ih, List.forall_mem_cons]
        constructor
        · rintro ⟨rfl, hall⟩
          exact ⟨rfl, hsame, hall⟩
        · rintro ⟨rfl, -, hall⟩
          exact ⟨rfl, hall⟩

theorem endsAlike_iff_keepsStep (last : Option UInt32) (final : UInt32)
    (infos : List Iax2PacketInfo) :
    EndsAlike final (sideRun false side false last infos) ↔ KeepsStep last final infos := by
  induction infos with
  | nil =>
      constructor
      · intro _
        exact ⟨by simp, by simp⟩
      · intro _
        exact ⟨false, last, rfl, by simp⟩
  | cons info infos ih =>
      rw [sideRun]
      by_cases hrepeats : repeats last info = true
      · have hlast : last = some info.timestamp := of_decide_eq_true hrepeats
        have hshared : takesShared false false last info = false := by
          simp [takesShared, hlast]
        have hseparate : takesSeparate false last info = false := by
          simp [takesSeparate, takes, hlast]
        rw [hshared, hseparate, if_pos rfl, keepSeparate, hseparate]
        simp only [Bool.or_false, Bool.false_eq_true, if_false]
        rw [ih, KeepsStep, KeepsStep, List.dropWhile_cons_of_pos hrepeats]
      · have hlast : last ≠ some info.timestamp := fun hlast => hrepeats (decide_eq_true hlast)
        have hshared : takesShared false false last info = true := by
          simp [takesShared, hlast]
        have htakes : takes false last info.timestamp = true := by
          simp [takes, hlast]
        have hretained : retainedTimestamp false side last info.timestamp = info.timestamp := by
          cases last <;> rfl
        rw [KeepsStep, List.dropWhile_cons_of_neg hrepeats, hshared]
        by_cases hpayload : info.payload = []
        · have hseparate : takesSeparate false last info = false := by
            simp [takesSeparate, hpayload]
          rw [hseparate, if_neg (by decide)]
          constructor
          · rintro ⟨owned, kept, hrun, -⟩
            cases hrun
          · rintro ⟨hhead, -⟩
            exact absurd hpayload (hhead info rfl)
        · have hseparate : takesSeparate false last info = true := by
            simp [takesSeparate, hpayload, htakes]
          rw [hseparate, if_pos rfl, keepSeparate, hseparate, if_pos rfl, hretained, Bool.or_true,
            sideRun_owned, List.forall_mem_cons]
          constructor
          · rintro ⟨rfl, hall⟩
            refine ⟨?_, fun _ => rfl, hall⟩
            intro first hfirst
            cases hfirst
            exact hpayload
          · rintro ⟨-, hfirst, hall⟩
            exact ⟨hfirst hpayload, hall⟩

/-- With rewriting the side keeps the object from its first frame on. -/
theorem sideRun_rewriting (owned : Bool) (last : Option UInt32) (infos : List Iax2PacketInfo) :
    sideRun true side owned last infos =
      if ∀ info ∈ infos, info.payload ≠ [] then
        some (owned || !infos.isEmpty,
          infos.foldl (fun last info => some (retainedTimestamp true side last info.timestamp)) last)
      else none := by
  induction infos generalizing owned last with
  | nil => simp [sideRun]
  | cons info infos ih =>
      have hshared : takesShared true owned last info = true := rfl
      have hseparate : takesSeparate true last info = decide (info.payload ≠ []) := by
        simp [takesSeparate, takes]
      rw [sideRun, hshared, keepSeparate, hseparate]
      by_cases hpayload : info.payload = []
      · simp [hpayload]
      · rw [if_pos (by simp [hpayload]), ih]
        simp [hpayload]

theorem endsAlike_iff_keepsStepRewriting (last : Option UInt32) (final : UInt32)
    (infos : List Iax2PacketInfo) :
    EndsAlike final (sideRun true side false last infos) ↔
      KeepsStepRewriting side last final infos := by
  rw [sideRun_rewriting, KeepsStepRewriting]
  split_ifs with hpayloads
  · constructor
    · rintro ⟨owned, kept, hrun, hfinal⟩
      simp only [Bool.false_or, Option.some.injEq, Prod.mk.injEq] at hrun
      refine ⟨hpayloads, ?_⟩
      intro hne
      rw [hrun.2]
      apply hfinal
      rw [← hrun.1]
      simp [hne]
    · rintro ⟨-, hfinal⟩
      refine ⟨_, _, rfl, ?_⟩
      intro howned
      apply hfinal
      simpa using howned
  · constructor
    · rintro ⟨owned, kept, hrun, -⟩
      cases hrun
    · rintro ⟨hall, -⟩
      exact absurd hall hpayloads

end OrkAudio.Iax2
