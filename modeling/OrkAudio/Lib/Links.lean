import Mathlib.Data.List.Induction
import Mathlib.Data.List.Nodup
import Mathlib.Logic.Function.Basic

/-! Lists that are held by pointers, each item pointing to the one behind it.

An item has one pointer, so that a list in which an item comes twice cannot be held: the
walk along the pointers does not end. -/

namespace OrkAudio.Lib

variable {α : Type*}

structure Links (α : Type*) where
  first : Option α
  next : α → Option α

namespace Links

/-- The list that is read from an item on. -/
def Reads (next : α → Option α) : Option α → List α → Prop
  | here, [] => here = none
  | here, item :: rest => here = some item ∧ Reads next (next item) rest

variable {next : α → Option α} {here : Option α} {item : α} {items : List α}

theorem reads_unique {other : List α} (reads : Reads next here items)
    (reads' : Reads next here other) : items = other := by
  induction items generalizing here other with
  | nil =>
      obtain rfl : here = none := reads
      cases other with
      | nil => rfl
      | cons item rest => cases reads'.1
  | cons item rest ih =>
      obtain ⟨rfl, hrest⟩ := reads
      cases other with
      | nil => cases reads'
      | cons item' rest' =>
          obtain ⟨hsame, hrest'⟩ := reads'
          obtain rfl := Option.some.inj hsame
          rw [ih hrest hrest']

/-- What is behind an item is read from its pointer, wherever the reading began. -/
theorem Reads.behind {front back : List α} (reads : Reads next here (front ++ item :: back)) :
    Reads next (next item) back := by
  induction front generalizing here with
  | nil => exact reads.2
  | cons head front ih => exact ih reads.2

theorem Reads.nodup (reads : Reads next here items) : items.Nodup := by
  induction items generalizing here with
  | nil => exact List.nodup_nil
  | cons item rest ih =>
      apply List.nodup_cons.mpr
      refine ⟨?_, ih reads.2⟩
      intro hagain
      obtain ⟨front, back, rfl⟩ := List.append_of_mem hagain
      have hback : Reads next (next item) back := reads.2.behind
      have hlength := congrArg List.length (reads_unique reads.2 hback)
      rw [List.length_append, List.length_cons] at hlength
      omega

theorem Reads.congr {next' : α → Option α} (reads : Reads next here items)
    (same : ∀ item ∈ items, next' item = next item) : Reads next' here items := by
  induction items generalizing here with
  | nil => exact reads
  | cons item rest ih =>
      refine ⟨reads.1, ?_⟩
      rw [same item List.mem_cons_self]
      exact ih reads.2 fun item' hmem => same item' (List.mem_cons_of_mem _ hmem)

/-! ### Building the links of a list -/

variable [DecidableEq α]

def empty : Links α where
  first := none
  next := fun _ => none

/-- The last item, if there is one, is made to point to the new one. -/
def add (links : Links α) (last : Option α) (item : α) : Links α where
  first := links.first.or (some item)
  next := match last with
    | some last => Function.update links.next last (some item)
    | none => links.next

/-- One more item, and the item that is now the last. -/
def extend (links : Links α × Option α) (item : α) : Links α × Option α :=
  (links.1.add links.2 item, some item)

def ofList (items : List α) : Links α := (items.foldl extend (empty, none)).1

theorem snd_foldl_extend (items : List α) :
    (items.foldl extend ((empty, none) : Links α × Option α)).2 = items.getLast? := by
  induction items using List.reverseRecOn with
  | nil => rfl
  | append_singleton items item _ =>
      rw [List.foldl_append, List.getLast?_append]
      rfl

theorem ofList_append_singleton (items : List α) (item : α) :
    ofList (items ++ [item]) = (ofList items).add items.getLast? item := by
  unfold ofList
  rw [List.foldl_append, ← snd_foldl_extend items]
  rfl

/-- The item behind the last one of a list that is read. -/
theorem Reads.snoc {front : List α} {last : α} (reads : Reads next here (front ++ [last]))
    (hnew : item ∉ front ++ [last]) (hfree : next item = none) :
    Reads (Function.update next last (some item)) here (front ++ [last] ++ [item]) := by
  induction front generalizing here with
  | nil =>
      have hne : item ≠ last := fun heq => hnew (by simp [heq])
      refine ⟨reads.1, ?_, ?_⟩
      · rw [Function.update_self]
      · rw [Function.update_of_ne hne]
        exact hfree
  | cons head front ih =>
      have hnodup := reads.nodup
      have hne : head ≠ last := by
        rintro rfl
        exact (List.nodup_cons.mp hnodup).1 (List.mem_append_right _ List.mem_cons_self)
      refine ⟨reads.1, ?_⟩
      rw [Function.update_of_ne hne]
      exact ih reads.2 fun hmem => hnew (List.mem_cons_of_mem _ hmem)

/-- A pointer of a list leads to an item of it. -/
theorem next_ofList_of_notMem (hnot : item ∉ items) : (ofList items).next item = none := by
  induction items using List.reverseRecOn with
  | nil => rfl
  | append_singleton items last ih =>
      rw [List.mem_append, not_or] at hnot
      rw [ofList_append_singleton]
      unfold add
      cases hlast : items.getLast? with
      | none => exact ih hnot.1
      | some previous =>
          have hne : item ≠ previous := by
            rintro rfl
            exact hnot.1 (List.mem_of_getLast? hlast)
          dsimp only
          rw [Function.update_of_ne hne]
          exact ih hnot.1

theorem first_ofList (items : List α) : (ofList items).first = items.head? := by
  induction items using List.reverseRecOn with
  | nil => rfl
  | append_singleton items item ih =>
      rw [ofList_append_singleton]
      change (ofList items).first.or (some item) = _
      rw [ih]
      cases items <;> rfl

/-- The links of a list hold it when no item comes twice. -/
theorem reads_ofList (hnodup : items.Nodup) :
    Reads (ofList items).next (ofList items).first items := by
  induction items using List.reverseRecOn with
  | nil => rfl
  | append_singleton items item ih =>
      have hnew : item ∉ items := by
        intro hmem
        exact List.disjoint_of_nodup_append hnodup hmem List.mem_cons_self
      have reads := ih (List.Nodup.of_append_left hnodup)
      have hfree := @next_ofList_of_notMem _ item items _ hnew
      rw [ofList_append_singleton]
      rcases List.eq_nil_or_concat items with rfl | ⟨front, last, rfl⟩
      · exact ⟨rfl, hfree⟩
      · rw [List.concat_eq_append] at reads hfree hnew ⊢
        rw [List.getLast?_concat]
        have hfirst : ((ofList (front ++ [last])).add (some last) item).first =
            (ofList (front ++ [last])).first := by
          unfold add
          rw [first_ofList]
          cases front <;> rfl
        rw [hfirst]
        exact reads.snoc hnew hfree

/-- The links of a list hold it exactly when no item comes twice. -/
theorem reads_ofList_iff :
    Reads (ofList items).next (ofList items).first items ↔ items.Nodup :=
  ⟨Reads.nodup, reads_ofList⟩

end Links

end OrkAudio.Lib
