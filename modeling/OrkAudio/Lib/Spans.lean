import Mathlib

/-! Spans of time that take over from one another. Each is open until it is told when to stop;
they divide the time among them exactly when each stops where its successor starts, and then
the only one that covers a moment is the latest one started. -/

namespace OrkAudio.Lib

/-- From `start` on and before `stop`; without a stop it lasts for ever. -/
structure Span (α : Type*) where
  start : α
  stop : Option α

variable {α μ : Type*} [LinearOrder α]

def Span.Covers (span : Span α) (a : α) : Prop :=
  span.start ≤ a ∧ ∀ b ∈ span.stop, a < b

def Span.Apart (span other : Span α) : Prop :=
  ∀ a, ¬(span.Covers a ∧ other.Covers a)

/-- The spans start one after the other, none stops before its successor starts and the last
one does not stop. -/
inductive Successive (span : μ → Span α) : List μ → Prop
  | nil : Successive span []
  | last {x : μ} (hstop : (span x).stop = none) : Successive span [x]
  | cons {x y : μ} {rest : List μ} (hstart : (span x).start ≤ (span y).start)
      (hstop : ∀ b ∈ (span x).stop, (span y).start ≤ b) (hrest : Successive span (y :: rest)) :
      Successive span (x :: y :: rest)

/-- Each span stops where its successor starts. -/
def Meets (span : μ → Span α) : List μ → Prop
  | [] => True
  | [_] => True
  | x :: y :: rest => (span x).stop = some (span y).start ∧ Meets span (y :: rest)

/-- The last of those that have started. -/
def latest (span : μ → Span α) (xs : List μ) (a : α) : Option μ :=
  (xs.filter fun x => decide ((span x).start ≤ a)).getLast?

section

variable {span : μ → Span α}

theorem Successive.start_le {x : μ} {xs : List μ} (successive : Successive span (x :: xs)) :
    ∀ y ∈ x :: xs, (span x).start ≤ (span y).start := by
  induction xs generalizing x with
  | nil =>
      intro y hy
      rw [List.mem_singleton.mp hy]
  | cons z rest ih =>
      cases successive with
      | cons hstart _ hrest =>
          intro y hy
          rcases List.mem_cons.mp hy with rfl | hy
          · exact le_rfl
          · exact hstart.trans (ih hrest y hy)

/-- From the first start on every moment is covered. -/
theorem Successive.exists_covers {x : μ} {xs : List μ} (successive : Successive span (x :: xs))
    {a : α} (ha : (span x).start ≤ a) : ∃ y ∈ x :: xs, (span y).Covers a := by
  induction xs generalizing x with
  | nil =>
      cases successive with
      | last hstop =>
          refine ⟨x, List.mem_singleton_self x, ha, ?_⟩
          simp [hstop]
  | cons z rest ih =>
      cases successive with
      | cons _ hstop hrest =>
          by_cases hbefore : ∀ b ∈ (span x).stop, a < b
          · exact ⟨x, List.mem_cons_self, ha, hbefore⟩
          · push Not at hbefore
            rcases hbefore with ⟨b, hb, hba⟩
            rcases ih hrest ((hstop b hb).trans hba) with ⟨y, hy, hcovers⟩
            exact ⟨y, List.mem_cons_of_mem x hy, hcovers⟩

theorem Successive.meets_of_apart {xs : List μ} (successive : Successive span xs)
    (hapart : xs.Pairwise fun x y => (span x).Apart (span y)) : Meets span xs := by
  induction successive with
  | nil => trivial
  | last _ => trivial
  | @cons x y rest hstart hstop hrest ih =>
      rw [List.pairwise_cons] at hapart
      refine ⟨?_, ih hapart.2⟩
      -- one of the later spans covers the start of the next one, so this one may not
      obtain ⟨z, hz, hcovers⟩ := hrest.exists_covers le_rfl
      have hnot : ¬(span x).Covers (span y).start := by
        intro hx
        exact hapart.1 z hz _ ⟨hx, hcovers⟩
      cases hend : (span x).stop with
      | none => exact absurd ⟨hstart, by simp [hend]⟩ hnot
      | some b =>
          have hle := hstop b hend
          have hge : b ≤ (span y).start := by
            by_contra hlt
            apply hnot
            refine ⟨hstart, ?_⟩
            intro c hc
            rw [hend] at hc
            rw [← Option.some.inj hc]
            exact not_le.mp hlt
          rw [le_antisymm hge hle]

/-- Before the first start none has started. -/
theorem Successive.started_eq_nil {x : μ} {xs : List μ} (successive : Successive span (x :: xs))
    {a : α} (ha : a < (span x).start) :
    ((x :: xs).filter fun y => decide ((span y).start ≤ a)) = [] := by
  apply List.filter_eq_nil_iff.mpr
  intro y hy
  have hle := successive.start_le y hy
  simpa using ha.trans_le hle

theorem latest_cons_of_started {x y : μ} {rest : List μ} {a : α} (ha : (span y).start ≤ a) :
    latest span (x :: y :: rest) a = latest span (y :: rest) a := by
  unfold latest
  by_cases hx : (span x).start ≤ a <;> simp [hx, ha]

/-- Where each stops at its successor's start, the latest one alone covers a moment. -/
theorem Successive.covers_iff_latest {xs : List μ} (successive : Successive span xs)
    (hmeets : Meets span xs) (a : α) (x : μ) :
    x ∈ xs ∧ (span x).Covers a ↔ latest span xs a = some x := by
  induction successive with
  | nil => simp [latest]
  | @last y hstop =>
      by_cases ha : (span y).start ≤ a
      · have hlatest : latest span [y] a = some y := by simp [latest, ha]
        rw [hlatest, Option.some_inj, List.mem_singleton]
        constructor
        · intro h
          exact h.1.symm
        · intro h
          subst h
          exact ⟨rfl, ha, by simp [hstop]⟩
      · have hlatest : latest span [y] a = none := by simp [latest, ha]
        rw [hlatest, List.mem_singleton]
        simp only [reduceCtorEq, iff_false, not_and]
        intro heq hcovers
        exact ha (heq ▸ hcovers.1)
  | @cons y z rest hstart hstop hrest ih =>
      have hnext := ih hmeets.2
      have hend := hmeets.1
      by_cases hz : (span z).start ≤ a
      · -- the first span has stopped
        rw [latest_cons_of_started hz, ← hnext]
        constructor
        · intro h
          rcases List.mem_cons.mp h.1 with rfl | hx
          · exact absurd (h.2.2 _ hend) (not_lt.mpr hz)
          · exact ⟨hx, h.2⟩
        · intro h
          exact ⟨List.mem_cons_of_mem y h.1, h.2⟩
      · -- only the first span may have started
        have hfilter := hrest.started_eq_nil (not_le.mp hz)
        have hcovers : (span y).Covers a ↔ (span y).start ≤ a := by
          constructor
          · intro h
            exact h.1
          · intro h
            refine ⟨h, ?_⟩
            intro b hb
            rw [hend] at hb
            rw [← Option.some.inj hb]
            exact not_le.mp hz
        have hlatest : latest span (y :: z :: rest) a =
            if (span y).start ≤ a then some y else none := by
          unfold latest
          rw [List.filter_cons, hfilter]
          split_ifs with h <;> simp_all
        rw [hlatest]
        constructor
        · intro h
          rcases List.mem_cons.mp h.1 with rfl | hx
          · rw [if_pos h.2.1]
          · exact absurd ((hrest.start_le x hx).trans h.2.1) hz
        · intro h
          split_ifs at h with hy
          obtain rfl := Option.some.inj h
          exact ⟨List.mem_cons_self, hcovers.mpr hy⟩

theorem Successive.apart_of_meets {xs : List μ} (successive : Successive span xs)
    (hmeets : Meets span xs) : xs.Pairwise fun x y => (span x).Apart (span y) := by
  induction successive with
  | nil => exact List.Pairwise.nil
  | last _ => exact List.pairwise_singleton _ _
  | @cons x y rest hstart hstop hrest ih =>
      apply List.pairwise_cons.mpr
      refine ⟨?_, ih hmeets.2⟩
      intro z hz a hboth
      have hbefore : a < (span y).start := hboth.1.2 _ hmeets.1
      exact absurd ((hrest.start_le z hz).trans hboth.2.1) (not_le.mpr hbefore)

/-- Successive spans keep apart exactly when each stops where its successor starts. -/
theorem Successive.apart_iff_meets {xs : List μ} (successive : Successive span xs) :
    (xs.Pairwise fun x y => (span x).Apart (span y)) ↔ Meets span xs :=
  ⟨successive.meets_of_apart, successive.apart_of_meets⟩

end

end OrkAudio.Lib
