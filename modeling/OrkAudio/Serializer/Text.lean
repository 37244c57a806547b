import OrkAudio.Serializer.KeyValue

/-! `CStdString` as bytes. -/

namespace OrkAudio.Serializer

def text (s : String) : Bytes := s.toList.map tchar

/-- `ToLower`. -/
def toLower (t : Bytes) : Bytes :=
  t.map fun c => if tchar 'A' ≤ c ∧ c ≤ tchar 'Z' then c + 32 else c

/-- `c_str()`, as a reader of C strings sees it. -/
def cStr (t : Bytes) : Bytes := t.takeWhile (· ≠ 0)

/-- `CompareNoCase(..) == 0`. -/
def sameNoCase (a b : Bytes) : Bool := decide (toLower (cStr a) = toLower (cStr b))

theorem cStr_eq_self {t : Bytes} (hnul : 0 ∉ t) : cStr t = t := by
  rw [cStr, List.takeWhile_eq_self_iff]
  intro c hc
  have hne : c ≠ 0 := fun heq => hnul (heq ▸ hc)
  simpa using hne

theorem cStr_append {t rest : Bytes} (hnul : 0 ∉ t) : cStr (t ++ rest) = t ++ cStr rest := by
  induction t with
  | nil => rfl
  | cons c t ih =>
      have hc : c ≠ 0 := fun heq => hnul (heq ▸ List.mem_cons_self)
      have ht : 0 ∉ t := fun h => hnul (List.mem_cons_of_mem _ h)
      simp only [cStr, List.cons_append, List.takeWhile_cons, hc, ne_eq, not_false_eq_true,
        decide_true, if_true] at ih ⊢
      rw [ih ht]

theorem cStr_append_of_nul {t : Bytes} (hnul : 0 ∈ t) (rest : Bytes) : cStr (t ++ rest) = cStr t := by
  induction t with
  | nil => cases hnul
  | cons c t ih =>
      by_cases hc : c = 0
      · simp [cStr, hc]
      · have ht : 0 ∈ t := by
          rcases List.mem_cons.mp hnul with heq | ht
          · exact absurd heq.symm hc
          · exact ht
        simp only [cStr, List.cons_append, List.takeWhile_cons, hc, ne_eq, not_false_eq_true,
          decide_true, if_true] at ih ⊢
        rw [ih ht]

end OrkAudio.Serializer
