import OrkAudio.Lib.Lru
import OrkAudio.Lib.OrderedMap
import OrkAudio.Lib.Steps

/-! `OrekaLruMap`: a list of keys in the order of their insertion beside a map of the values.

An entry of the map has an iterator into the list. A list node is given a number of its own,
which is what an iterator holds. -/

namespace OrkAudio.LruMap

open Lib

structure Node (κ : Type*) where
  id : Nat
  key : κ
  ts : Nat

structure OrekaLruMap (κ V : Type*) [LinearOrder κ] where
  size : Nat
  list : List (Node κ)
  map : OrderedMap κ (V × Nat)
  nextId : Nat

namespace OrekaLruMap

variable {κ V : Type*} [LinearOrder κ]

def new (size : Nat) : OrekaLruMap κ V where
  size := size
  list := []
  map := .empty
  nextId := 0

def count (m : OrekaLruMap κ V) : Nat := m.map.entries.length

/-- `GetValue`. -/
def getValue (m : OrekaLruMap κ V) (key : κ) : Option V := (m.map.find? key).map Prod.fst

/-- `GetOldestPair`: the key and the entry that its iterator designates. -/
def getOldestPair (m : OrekaLruMap κ V) : Option (κ × V) :=
  m.list.head?.bind fun node => (m.map.find? node.key).map fun entry => (node.key, entry.1)

def getNewestPair (m : OrekaLruMap κ V) : Option (κ × V) :=
  m.list.getLast?.bind fun node => (m.map.find? node.key).map fun entry => (node.key, entry.1)

/-- The eviction at the start of `InsertPair`, and `RemoveOldest`. -/
def evict (m : OrekaLruMap κ V) : OrekaLruMap κ V :=
  match m.list with
  | [] => m
  | node :: list => { m with map := m.map.erase node.key, list := list }

/-- Erase the node of a key and its entry, when there is one. -/
def drop (m : OrekaLruMap κ V) (key : κ) : OrekaLruMap κ V :=
  match m.map.find? key with
  | some entry =>
      { m with
        list := m.list.filter fun node => decide (node.id ≠ entry.2)
        map := m.map.erase key }
  | none => m

/-- Put a node at the end of the list and its entry into the map. -/
def push (m : OrekaLruMap κ V) (key : κ) (val : V) (now : Nat) : OrekaLruMap κ V :=
  { m with
    list := m.list ++ [{ id := m.nextId, key := key, ts := now }]
    map := m.map.insertNew key (val, m.nextId)
    nextId := m.nextId + 1 }

/-- `InsertPair`. The eviction comes before it is checked whether the key is there. -/
def insertPair (m : OrekaLruMap κ V) (key : κ) (val : V) (now : Nat) : OrekaLruMap κ V :=
  let m := if m.size ≤ m.count then m.evict else m
  (m.drop key).push key val now

def removeOldest (m : OrekaLruMap κ V) : OrekaLruMap κ V := m.evict

def remove (m : OrekaLruMap κ V) (key : κ) : OrekaLruMap κ V := m.drop key

def clear (m : OrekaLruMap κ V) : OrekaLruMap κ V := { m with list := [], map := .empty }

def setSize (m : OrekaLruMap κ V) (size : Nat) : OrekaLruMap κ V :=
  if m.size ≤ size then { m with size := size } else m

end OrekaLruMap

/-- A call of one of the operations; `now` is the time at which a pair is inserted. -/
inductive Operation (κ V : Type*)
  | insertPair (key : κ) (val : V) (now : Nat)
  | remove (key : κ)
  | removeOldest
  | clear
  | setSize (size : Nat)

section

variable {κ V : Type*} [LinearOrder κ]

namespace OrekaLruMap

def perform (m : OrekaLruMap κ V) : Operation κ V → OrekaLruMap κ V
  | .insertPair key val now => m.insertPair key val now
  | .remove key => m.remove key
  | .removeOldest => m.removeOldest
  | .clear => m.clear
  | .setSize size => m.setSize size

def Step (m : OrekaLruMap κ V) (op : Operation κ V) (m' : OrekaLruMap κ V) : Prop :=
  m' = m.perform op

end OrekaLruMap

/-- The same operation on the reference map, whose values have the time beside them. -/
def performRef (ref : Lru κ (V × Nat)) : Operation κ V → Lru κ (V × Nat)
  | .insertPair key val now => ref.insert key (val, now)
  | .remove key => ref.remove key
  | .removeOldest => ref.removeOldest
  | .clear => ref.clear
  | .setSize size => ref.setSize size

namespace OrekaLruMap

/-! ### The list and the map agree -/

/-- The two containers refer to each other. -/
structure Linked (m : OrekaLruMap κ V) : Prop where
  pos : 0 < m.size
  bounded : m.count ≤ m.size
  fresh : ∀ node ∈ m.list, node.id < m.nextId
  ids : (m.list.map Node.id).Nodup
  keys : (m.list.map Node.key).Nodup
  /-- The iterator of an entry designates the node of its key. -/
  node : ∀ key entry, m.map.find? key = some entry →
    ∃ node ∈ m.list, node.id = entry.2 ∧ node.key = key
  entry : ∀ node ∈ m.list, ∃ val, m.map.find? node.key = some (val, node.id)

namespace Linked

variable {m : OrekaLruMap κ V}

/-- A key has an entry when the list has it and only then. -/
theorem find?_isSome (linked : m.Linked) {key : κ} :
    (∃ entry, m.map.find? key = some entry) ↔ key ∈ m.list.map Node.key := by
  constructor
  · rintro ⟨entry, hentry⟩
    obtain ⟨node, hnode, -, hkey⟩ := linked.node key entry hentry
    exact hkey ▸ List.mem_map_of_mem hnode
  · intro hmem
    obtain ⟨node, hnode, hkey⟩ := List.mem_map.mp hmem
    obtain ⟨val, hval⟩ := linked.entry node hnode
    exact ⟨_, hkey ▸ hval⟩

/-- The keys of the map are those of the list. -/
theorem keys_perm (linked : m.Linked) :
    (m.map.entries.map Prod.fst).Perm (m.list.map Node.key) := by
  have hmap : (m.map.entries.map Prod.fst).Nodup := by
    rw [List.Nodup, List.pairwise_map]
    exact m.map.sorted.imp fun hlt => hlt.ne
  apply (List.perm_ext_iff_of_nodup hmap linked.keys).mpr
  intro key
  rw [← linked.find?_isSome, List.mem_map]
  constructor
  · rintro ⟨entry, hentry, rfl⟩
    exact ⟨entry.2, OrderedMap.find?_eq_some.mpr hentry⟩
  · rintro ⟨entry, hentry⟩
    exact ⟨(key, entry), OrderedMap.find?_eq_some.mp hentry, rfl⟩

theorem count_eq (linked : m.Linked) : m.count = m.list.length := by
  have hlength := linked.keys_perm.length_eq
  rwa [List.length_map, List.length_map] at hlength

end Linked

theorem linked_new {size : Nat} (pos : 0 < size) : (new size : OrekaLruMap κ V).Linked where
  pos := pos
  bounded := Nat.zero_le size
  fresh := by simp [new]
  ids := List.nodup_nil
  keys := List.nodup_nil
  node := by simp [new]
  entry := by simp [new]

/-- What the map holds, in the order of the list. -/
def contents (m : OrekaLruMap κ V) : List (κ × (V × Nat)) :=
  m.list.filterMap fun node =>
    (m.map.find? node.key).map fun entry => (node.key, (entry.1, node.ts))

theorem contents_keys {m : OrekaLruMap κ V} (linked : m.Linked) :
    m.contents.map Prod.fst = m.list.map Node.key := by
  rw [contents, List.map_filterMap, ← List.filterMap_eq_map]
  apply List.filterMap_congr
  intro node hnode
  obtain ⟨val, hval⟩ := linked.entry node hnode
  simp [hval]

theorem length_contents {m : OrekaLruMap κ V} (linked : m.Linked) :
    m.contents.length = m.count := by
  rw [linked.count_eq, ← List.length_map Node.key, ← contents_keys linked, List.length_map]

theorem mem_keys {m : OrekaLruMap κ V} (linked : m.Linked) {key : κ} :
    key ∈ m.contents.map Prod.fst ↔ m.map.find? key ≠ none := by
  rw [contents_keys linked, ← linked.find?_isSome, Option.ne_none_iff_exists']

/-- The oldest pair is the first one of the contents. -/
theorem getOldestPair_eq {m : OrekaLruMap κ V} (linked : m.Linked) :
    m.getOldestPair = m.contents.head?.map fun entry => (entry.1, entry.2.1) := by
  cases hlist : m.list with
  | nil => simp [getOldestPair, contents, hlist]
  | cons node rest =>
      obtain ⟨val, hval⟩ := linked.entry node (by simp [hlist])
      simp [getOldestPair, contents, hlist, hval]

/-- The newest pair is the last one of the contents. -/
theorem getNewestPair_eq {m : OrekaLruMap κ V} (linked : m.Linked) :
    m.getNewestPair = m.contents.getLast?.map fun entry => (entry.1, entry.2.1) := by
  rcases List.eq_nil_or_concat m.list with hlist | ⟨front, node, hlist⟩
  · simp [getNewestPair, contents, hlist]
  · obtain ⟨val, hval⟩ := linked.entry node (by simp [hlist])
    simp [getNewestPair, contents, hlist, hval]

/-! ### What an operation does -/

section drop

variable {m : OrekaLruMap κ V} {key : κ}

@[simp] theorem drop_size : (m.drop key).size = m.size := by
  unfold drop
  split <;> rfl

@[simp] theorem drop_nextId : (m.drop key).nextId = m.nextId := by
  unfold drop
  split <;> rfl

@[simp] theorem drop_map : (m.drop key).map = m.map.erase key := by
  unfold drop
  split
  · rfl
  · rename_i hnone
    apply OrderedMap.ext_entries
    intro entry
    rw [OrderedMap.mem_erase, iff_self_and]
    exact OrderedMap.find?_eq_none.mp hnone entry

/-- The iterator of an entry designates the only node of its key. -/
theorem id_eq_iff (linked : m.Linked) {entry : V × Nat} (hentry : m.map.find? key = some entry)
    {node : Node κ} (hnode : node ∈ m.list) : node.id = entry.2 ↔ node.key = key := by
  obtain ⟨own, hown, hid, hkey⟩ := linked.node key entry hentry
  constructor
  · intro heq
    have hsame := List.inj_on_of_nodup_map linked.ids hnode hown (heq.trans hid.symm)
    rw [hsame, hkey]
  · intro heq
    have hsame := List.inj_on_of_nodup_map linked.keys hnode hown (heq.trans hkey.symm)
    rw [hsame, hid]

theorem drop_list (linked : m.Linked) :
    (m.drop key).list = m.list.filter fun node => decide (node.key ≠ key) := by
  unfold drop
  split
  · rename_i entry hentry
    apply List.filter_congr
    intro node hnode
    exact decide_eq_decide.mpr (not_congr (id_eq_iff linked hentry hnode))
  · rename_i hnone
    symm
    apply List.filter_eq_self.mpr
    intro node hnode
    apply decide_eq_true
    intro heq
    have hmem : node.key ∈ m.list.map Node.key := List.mem_map_of_mem hnode
    obtain ⟨entry, hentry⟩ := linked.find?_isSome.mpr hmem
    rw [heq, hnone] at hentry
    cases hentry

theorem Linked.drop (linked : m.Linked) : (m.drop key).Linked where
  pos := by
    rw [drop_size]
    exact linked.pos
  bounded := by
    rw [drop_size, count, drop_map]
    exact Nat.le_trans List.filter_sublist.length_le linked.bounded
  fresh := by
    rw [drop_list linked, drop_nextId]
    intro node hnode
    exact linked.fresh node (List.mem_filter.mp hnode).1
  ids := by
    rw [drop_list linked]
    exact (List.filter_sublist.map Node.id).nodup linked.ids
  keys := by
    rw [drop_list linked]
    exact (List.filter_sublist.map Node.key).nodup linked.keys
  node := by
    rw [drop_list linked, drop_map]
    intro other entry hentry
    have hne : other ≠ key := by
      rintro rfl
      simp at hentry
    rw [OrderedMap.find?_erase_of_ne hne] at hentry
    obtain ⟨node, hnode, hid, hkey⟩ := linked.node other entry hentry
    exact ⟨node, List.mem_filter.mpr ⟨hnode, by simp [hkey, hne]⟩, hid, hkey⟩
  entry := by
    rw [drop_list linked, drop_map]
    intro node hnode
    obtain ⟨hmem, hne⟩ := List.mem_filter.mp hnode
    rw [OrderedMap.find?_erase_of_ne (of_decide_eq_true hne)]
    exact linked.entry node hmem

theorem contents_drop (linked : m.Linked) :
    (m.drop key).contents = Lru.without key m.contents := by
  rw [contents, contents, Lru.without, drop_list linked, drop_map, List.filterMap_filter,
    List.filter_filterMap]
  apply List.filterMap_congr
  intro node hnode
  obtain ⟨val, hval⟩ := linked.entry node hnode
  by_cases hkey : node.key = key
  · rw [hkey] at hval
    simp [hkey, hval, Option.filter]
  · simp [hkey, OrderedMap.find?_erase_of_ne hkey, hval, Option.filter]

end drop

/-- To evict is to drop the first key of the list. -/
theorem evict_eq_drop {m : OrekaLruMap κ V} (linked : m.Linked) {node : Node κ}
    {rest : List (Node κ)} (hlist : m.list = node :: rest) : m.evict = m.drop node.key := by
  obtain ⟨val, hval⟩ := linked.entry node (by simp [hlist])
  have hids := linked.ids
  rw [hlist, List.map_cons, List.nodup_cons] at hids
  have hrest : rest.filter (fun other => decide (other.id ≠ node.id)) = rest := by
    apply List.filter_eq_self.mpr
    intro other hother
    apply decide_eq_true
    intro heq
    exact hids.1 (heq ▸ List.mem_map_of_mem hother)
  simp only [evict, hlist, drop, hval, List.filter_cons, ne_eq, not_true, decide_false,
    Bool.false_eq_true, if_false]
  rw [hrest]

theorem evict_of_nil {m : OrekaLruMap κ V} (hlist : m.list = []) : m.evict = m := by
  rw [evict, hlist]

theorem Linked.evict {m : OrekaLruMap κ V} (linked : m.Linked) : m.evict.Linked := by
  cases hlist : m.list with
  | nil => rwa [evict_of_nil hlist]
  | cons node rest =>
      rw [evict_eq_drop linked hlist]
      exact linked.drop

theorem contents_evict {m : OrekaLruMap κ V} (linked : m.Linked) :
    m.evict.contents = m.contents.tail := by
  cases hlist : m.list with
  | nil => simp [evict_of_nil hlist, contents, hlist]
  | cons node rest =>
      rw [evict_eq_drop linked hlist, contents_drop linked]
      have hkeys := contents_keys linked
      rw [hlist, List.map_cons] at hkeys
      obtain ⟨entry, others, hcontents, hkey, -⟩ := List.map_eq_cons_iff.mp hkeys
      rw [hcontents, ← hkey, List.tail_cons]
      apply Lru.without_head
      rw [← hcontents, contents_keys linked]
      exact linked.keys

section push

variable {m : OrekaLruMap κ V} {key : κ} {val : V} {now : Nat}

theorem Linked.push (linked : m.Linked) (hroom : m.count < m.size)
    (habsent : m.map.find? key = none) : (m.push key val now).Linked where
  pos := linked.pos
  bounded := by
    have hlength : (m.map.insertNew key (val, m.nextId)).entries.length = m.count + 1 :=
      (OrderedMap.insertNew_perm habsent).length_eq
    exact Nat.le_trans (Nat.le_of_eq hlength) hroom
  fresh := by
    intro node hnode
    rcases List.mem_append.mp hnode with hnode | hnode
    · exact Nat.lt_succ_of_lt (linked.fresh node hnode)
    · rw [List.mem_singleton.mp hnode]
      exact Nat.lt_succ_self m.nextId
  ids := by
    rw [OrekaLruMap.push, List.map_append, List.nodup_append]
    refine ⟨linked.ids, by simp, ?_⟩
    intro id hid last hlast
    obtain ⟨node, hnode, rfl⟩ := List.mem_map.mp hid
    simp only [List.map_cons, List.map_nil, List.mem_singleton] at hlast
    rw [hlast]
    exact (linked.fresh node hnode).ne
  keys := by
    rw [OrekaLruMap.push, List.map_append, List.nodup_append]
    refine ⟨linked.keys, by simp, ?_⟩
    intro other hother last hlast heq
    simp only [List.map_cons, List.map_nil, List.mem_singleton] at hlast
    obtain ⟨entry, hentry⟩ := linked.find?_isSome.mpr hother
    rw [heq, hlast, habsent] at hentry
    cases hentry
  node := by
    intro other entry hentry
    by_cases hkey : other = key
    · subst hkey
      rw [OrekaLruMap.push, OrderedMap.find?_insertNew_self habsent] at hentry
      obtain rfl := Option.some.inj hentry
      exact ⟨_, List.mem_append_right _ List.mem_cons_self, rfl, rfl⟩
    · rw [OrekaLruMap.push, OrderedMap.find?_insertNew_of_ne hkey] at hentry
      obtain ⟨node, hnode, hid⟩ := linked.node other entry hentry
      exact ⟨node, List.mem_append_left _ hnode, hid⟩
  entry := by
    intro node hnode
    rcases List.mem_append.mp hnode with hnode | hnode
    · obtain ⟨own, hown⟩ := linked.entry node hnode
      have hne : node.key ≠ key := by
        intro heq
        rw [heq, habsent] at hown
        cases hown
      exact ⟨own, by rwa [OrekaLruMap.push, OrderedMap.find?_insertNew_of_ne hne]⟩
    · rw [List.mem_singleton.mp hnode]
      exact ⟨val, OrderedMap.find?_insertNew_self habsent⟩

theorem contents_push (linked : m.Linked) (habsent : m.map.find? key = none) :
    (m.push key val now).contents = m.contents ++ [(key, (val, now))] := by
  have hself : (m.map.insertNew key (val, m.nextId)).find? key = some (val, m.nextId) :=
    OrderedMap.find?_insertNew_self habsent
  rw [contents, push, List.filterMap_append, List.filterMap_cons_some (by simp [hself]; rfl)]
  congr 1
  apply List.filterMap_congr
  intro node hnode
  have hne : node.key ≠ key := by
    intro heq
    obtain ⟨own, hown⟩ := linked.entry node hnode
    rw [heq, habsent] at hown
    cases hown
  rw [OrderedMap.find?_insertNew_of_ne hne]

end push

theorem evict_size (m : OrekaLruMap κ V) : m.evict.size = m.size := by
  unfold evict
  split <;> rfl

/-- The state in which `InsertPair` looks for the key. -/
theorem Linked.makeRoom {m : OrekaLruMap κ V} (linked : m.Linked) :
    (if m.size ≤ m.count then m.evict else m).Linked := by
  split_ifs
  · exact linked.evict
  · exact linked

theorem count_makeRoom {m : OrekaLruMap κ V} (linked : m.Linked) :
    (if m.size ≤ m.count then m.evict else m).count < m.size := by
  have hpos := linked.pos
  have hbound := linked.bounded
  split_ifs with hfull
  · rw [← length_contents linked.evict, contents_evict linked, List.length_tail,
      length_contents linked]
    omega
  · exact Nat.lt_of_not_le hfull

theorem insertPair_size (m : OrekaLruMap κ V) (key : κ) (val : V) (now : Nat) :
    (m.insertPair key val now).size = m.size := by
  rw [insertPair, push, drop_size]
  split_ifs
  · exact m.evict_size
  · rfl

theorem count_drop_le (m : OrekaLruMap κ V) (key : κ) : (m.drop key).count ≤ m.count := by
  rw [count, drop_map]
  exact List.filter_sublist.length_le

theorem Linked.insertPair {m : OrekaLruMap κ V} (linked : m.Linked) (key : κ) (val : V)
    (now : Nat) : (m.insertPair key val now).Linked := by
  apply Linked.push linked.makeRoom.drop
  · apply Nat.lt_of_le_of_lt (count_drop_le _ key)
    apply Nat.lt_of_lt_of_eq (count_makeRoom linked)
    rw [drop_size]
    split_ifs
    · exact m.evict_size.symm
    · rfl
  · rw [drop_map, OrderedMap.find?_erase_self]

/-- After `InsertPair` the pair is the newest one, behind what is left of the others. -/
theorem contents_insertPair {m : OrekaLruMap κ V} (linked : m.Linked) (key : κ) (val : V)
    (now : Nat) : (m.insertPair key val now).contents =
      Lru.without key (if m.size ≤ m.count then m.contents.tail else m.contents) ++
        [(key, (val, now))] := by
  rw [insertPair, contents_push linked.makeRoom.drop
    (by rw [drop_map, OrderedMap.find?_erase_self]), contents_drop linked.makeRoom]
  congr 2
  split_ifs
  · exact contents_evict linked
  · rfl

theorem Linked.clear {m : OrekaLruMap κ V} (linked : m.Linked) : m.clear.Linked where
  pos := linked.pos
  bounded := Nat.zero_le m.size
  fresh := by simp [OrekaLruMap.clear]
  ids := List.nodup_nil
  keys := List.nodup_nil
  node := by simp [OrekaLruMap.clear]
  entry := by simp [OrekaLruMap.clear]

theorem setSize_eq (m : OrekaLruMap κ V) (size : Nat) :
    m.setSize size = { m with size := max m.size size } := by
  unfold setSize
  split_ifs with hsize
  · rw [Nat.max_eq_right hsize]
  · rw [Nat.max_eq_left (Nat.le_of_not_le hsize)]

theorem Linked.setSize {m : OrekaLruMap κ V} (linked : m.Linked) (size : Nat) :
    (m.setSize size).Linked := by
  rw [setSize_eq]
  have hle : m.size ≤ max m.size size := Nat.le_max_left _ _
  exact { linked with
    pos := Nat.lt_of_lt_of_le linked.pos hle
    bounded := Nat.le_trans linked.bounded hle }

theorem Linked.step {m m' : OrekaLruMap κ V} {op : Operation κ V} (linked : m.Linked)
    (taken : m.Step op m') : m'.Linked := by
  rw [taken]
  cases op with
  | insertPair key val now => exact linked.insertPair key val now
  | remove key => exact linked.drop
  | removeOldest => exact linked.evict
  | clear => exact linked.clear
  | setSize size => exact linked.setSize size

/-! ### Runs -/

/-- No `InsertPair` on a full map of a key that is there and not the oldest one. -/
def Spares (m : OrekaLruMap κ V) : Operation κ V → Prop
  | .insertPair key _ _ =>
      m.size ≤ m.count → m.map.find? key ≠ none → m.list.head?.map Node.key = some key
  | _ => True

/-- The map is the reference map, as to the pairs and the limit. -/
def Represents (m : OrekaLruMap κ V) (ref : Lru κ (V × Nat)) : Prop :=
  m.contents = ref.entries ∧ m.size = ref.size

theorem head_contents {m : OrekaLruMap κ V} (linked : m.Linked) :
    m.contents.head?.map Prod.fst = m.list.head?.map Node.key := by
  rw [← List.head?_map, contents_keys linked, List.head?_map]

theorem Represents.insertPair {m : OrekaLruMap κ V} {ref : Lru κ (V × Nat)} (linked : m.Linked)
    (same : m.Represents ref) {key : κ} {val : V} {now : Nat}
    (spares : m.Spares (.insertPair key val now)) :
    (m.insertPair key val now).Represents (ref.insert key (val, now)) := by
  obtain ⟨hentries, hsize⟩ := same
  refine ⟨?_, (insertPair_size m key val now).trans hsize⟩
  have hcount : ref.entries.length = m.count := by
    rw [← hentries, length_contents linked]
  rw [contents_insertPair linked, Lru.insert, hentries]
  congr 1
  by_cases hkey : key ∈ ref.keys
  · rw [Lru.room, if_pos hkey]
    split_ifs with hfull
    · -- the pair that is evicted is the one of the key
      have hmem : key ∈ m.contents.map Prod.fst := by
        rw [hentries]
        exact hkey
      have hpresent := (mem_keys linked).mp hmem
      have hhead := spares hfull hpresent
      rw [← head_contents linked, hentries] at hhead
      cases href : ref.entries with
      | nil => simp [href] at hhead
      | cons entry rest =>
          obtain rfl : entry.1 = key := by simpa [href] using hhead
          have hdistinct := ref.distinct
          rw [href] at hdistinct
          rw [Lru.without_head hdistinct, List.tail_cons]
          rw [List.map_cons, List.nodup_cons] at hdistinct
          exact Lru.without_of_notMem hdistinct.1
    · rfl
  · have hroom : ref.room key =
        if m.size ≤ m.count then ref.entries.tail else ref.entries := by
      rw [Lru.room, if_neg hkey, hcount, ← hsize]
      split_ifs <;> first | rfl | omega
    rw [← hroom]
    exact Lru.without_of_notMem (ref.key_notMem_room key)

theorem Represents.step {m m' : OrekaLruMap κ V} {op : Operation κ V} {ref : Lru κ (V × Nat)}
    (linked : m.Linked) (same : m.Represents ref) (taken : Guarded Spares Step m op m') :
    m'.Represents (performRef ref op) := by
  obtain ⟨spares, rfl⟩ := taken
  cases op with
  | insertPair key val now => exact same.insertPair linked spares
  | remove key =>
      refine ⟨?_, drop_size.trans same.2⟩
      exact (contents_drop linked).trans (congrArg (Lru.without key) same.1)
  | removeOldest =>
      refine ⟨?_, m.evict_size.trans same.2⟩
      exact (contents_evict linked).trans (congrArg List.tail same.1)
  | clear => exact ⟨rfl, same.2⟩
  | setSize size =>
      simp only [perform, performRef, setSize_eq]
      exact ⟨same.1, congrArg (max · size) same.2⟩

theorem Represents.steps {m m' : OrekaLruMap κ V} {ops : List (Operation κ V)}
    {ref : Lru κ (V × Nat)} (run : Steps (Guarded Spares Step) m ops m') (linked : m.Linked)
    (same : m.Represents ref) : m'.Represents (ops.foldl performRef ref) := by
  induction run generalizing ref with
  | nil => exact same
  | cons first _ ih => exact ih (linked.step first.2) (same.step linked first)

/-- In every run the two containers refer to each other and the limit is kept; while no
full map is given a key anew that is not its oldest one, the pairs are those of the
reference map. -/
theorem refines_lru (size : Nat) (pos : 0 < size) (ops : List (Operation κ V))
    (m : OrekaLruMap κ V) :
    (Steps Step (new size) ops m →
      (m.map.entries.map Prod.fst).Perm (m.list.map Node.key) ∧ (m.list.map Node.key).Nodup ∧
        (∀ key entry, m.map.find? key = some entry →
          ∃ node ∈ m.list, node.id = entry.2 ∧ node.key = key) ∧
        m.count ≤ m.size) ∧
      (Steps (Guarded Spares Step) (new size) ops m →
        m.contents = (ops.foldl performRef (Lru.empty size pos)).entries ∧
          m.size = (ops.foldl performRef (Lru.empty size pos : Lru κ (V × Nat))).size) := by
  have hnew : (new size : OrekaLruMap κ V).Linked := linked_new pos
  constructor
  · intro run
    have linked : m.Linked :=
      run.invariant (fun _ _ _ (before : Linked _) taken => before.step taken) hnew
    exact ⟨linked.keys_perm, linked.keys, linked.node, linked.bounded⟩
  · intro run
    exact Represents.steps run hnew ⟨rfl, rfl⟩

theorem refines_lru_refreshed :
    let m := (((new 2 : OrekaLruMap Nat Bool).insertPair 1 true 0).insertPair 2 true 0).insertPair
      1 false 1
    m.count ≤ m.size ∧ m.contents = [(2, (true, 0)), (1, (false, 1))] := by
  intro m
  have claims := refines_lru 2 (by decide)
    [.insertPair 1 true 0, .insertPair 2 true 0, .insertPair 1 false 1] m
  refine ⟨(claims.1 (.cons rfl (.cons rfl (.cons rfl (.nil _))))).2.2.2, ?_⟩
  apply (claims.2 (.cons ⟨?_, rfl⟩ (.cons ⟨?_, rfl⟩ (.cons ⟨?_, rfl⟩ (.nil _))))).1.trans
  · rfl
  · intro hfull
    exact absurd hfull (by decide)
  · intro hfull
    exact absurd hfull (by decide)
  · intro _ _
    decide

/-- A pair that is inserted twice into a map of two pairs costs the other one its place. -/
theorem insertPair_evicts_other :
    ∃ ops : List (Operation Nat Bool), ∃ m : OrekaLruMap Nat Bool,
      Steps Step (new 2) ops m ∧ m.contents = [(2, (false, 0))] ∧
        (ops.foldl performRef (Lru.empty 2 (by decide))).entries =
          [(1, (true, 0)), (2, (false, 0))] := by
  refine ⟨[.insertPair 1 true 0, .insertPair 2 true 0, .insertPair 2 false 0], _,
    .cons rfl (.cons rfl (.cons rfl (.nil _))), ?_, ?_⟩
  · decide
  · decide

end OrekaLruMap

end

end OrkAudio.LruMap
