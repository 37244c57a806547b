import Mathlib.Data.List.Basic
import Mathlib.Data.List.Induction
import OrkAudio.Lib.Fallible
import OrkAudio.Lib.Reads

/-! The information elements of an IAX2 frame.

They are parsed where they stand in the staging buffer. A text ends at the type of the element
behind it, which is overwritten, and the last one at a byte that is written behind the block. -/

namespace OrkAudio.Iax2

open Lib

/-- `MAX_IES_LENGTH`, the size of the staging buffer. -/
def maxIesLength : Nat := 1024

/-- A pointer is the number of a byte of the staging buffer. -/
structure Ies where
  caller : Option Nat := none
  callee : Option Nat := none
  format : Nat := 0
  username : Option Nat := none
  authmethods : Nat := 0
  challenge : Option Nat := none
  callingName : Option Nat := none
  deriving DecidableEq

inductive Fault
  | outside
  | endless
  deriving DecidableEq

def readByte (buffer : List UInt8) (place : Nat) : Except Fault UInt8 :=
  match buffer[place]? with
  | some byte => .ok byte
  | none => .error .outside

/-- `ntohl(get_unaligned_uint32(..))`. -/
def readWord (buffer : List UInt8) (place : Nat) : Except Fault Nat :=
  match word? buffer place with
  | some word => .ok word
  | none => .error .outside

def writeByte (buffer : List UInt8) (place : Nat) (byte : UInt8) : Except Fault (List UInt8) :=
  if place < buffer.length then .ok (buffer.set place byte) else .error .outside

/-- What an element sets: a text by where it stands, a number only with its full length. -/
def setElement (ies : Ies) (buffer : List UInt8) (data ie len : Nat) : Except Fault Ies :=
  if ie = 4 then .ok { ies with callingName := some (data + 2) }
  else if ie = 1 then .ok { ies with callee := some (data + 2) }
  else if ie = 2 then .ok { ies with caller := some (data + 2) }
  else if ie = 9 then
    if len = 4 then (readWord buffer (data + 2)).map fun word => { ies with format := word }
    else .ok { ies with format := 0 }
  else if ie = 6 then .ok { ies with username := some (data + 2) }
  else if ie = 14 then
    if len = 4 then (readWord buffer (data + 2)).map fun word => { ies with authmethods := word }
    else .ok { ies with authmethods := 0 }
  else if ie = 15 then .ok { ies with challenge := some (data + 2) }
  else .ok ies

/-- What `parse_iax2_ies` returns and leaves. -/
structure Parsed where
  code : Int
  ies : Ies
  buffer : List UInt8
  deriving DecidableEq

/-- The loop of `parse_iax2_ies`. -/
def parseIesFrom : Nat → Ies → List UInt8 → Nat → Nat → Except Fault Parsed
  | 0, _, _, _, _ => .error .endless
  | fuel + 1, ies, buffer, data, datalen =>
      if 2 ≤ datalen then do
        let ie ← readByte buffer data
        let len ← readByte buffer (data + 1)
        if datalen - 2 < len.toNat then return { code := -1, ies := ies, buffer := buffer }
        let ies ← setElement ies buffer data ie.toNat len.toNat
        let buffer ← writeByte buffer data 0
        parseIesFrom fuel ies buffer (data + (len.toNat + 2)) (datalen - (len.toNat + 2))
      else do
        let buffer ← writeByte buffer data 0
        -- a byte that is left belongs to no element
        return { code := if datalen = 0 then 0 else -1, ies := ies, buffer := buffer }

/-- `parse_iax2_ies` on the first `datalen` bytes of the buffer. -/
def parseIax2Ies (buffer : List UInt8) (datalen : Nat) : Except Fault Parsed :=
  parseIesFrom (datalen + 1) {} buffer 0 datalen

/-! ### The elements of a block -/

structure Element where
  kind : UInt8
  content : List UInt8
  short : content.length < 256

namespace Element

def encode (e : Element) : List UInt8 := e.kind :: UInt8.ofNat e.content.length :: e.content

/-- The element as the parser leaves it. -/
def blank (e : Element) : List UInt8 := 0 :: UInt8.ofNat e.content.length :: e.content

def text (e : Element) : List UInt8 := e.content.takeWhile fun byte => byte != 0

def number (e : Element) : Nat := if e.content.length = 4 then wordAt e.content 0 else 0

theorem length_encode (e : Element) : e.encode.length = e.content.length + 2 := rfl

theorem length_blank (e : Element) : e.blank.length = e.content.length + 2 := rfl

end Element

/-- The block is a concatenation of elements. -/
def IsBlock (block : List UInt8) : Prop :=
  ∃ elements : List Element, elements.flatMap Element.encode = block

/-- The texts that elements hold. -/
inductive TextField
  | callingName | callee | caller | username | challenge

namespace TextField

def kind : TextField → UInt8
  | callingName => 4
  | callee => 1
  | caller => 2
  | username => 6
  | challenge => 15

def pointer (ies : Ies) : TextField → Option Nat
  | callingName => ies.callingName
  | callee => ies.callee
  | caller => ies.caller
  | username => ies.username
  | challenge => ies.challenge

end TextField

/-- The last element of a kind. -/
def lastOfKind (elements : List Element) (kind : UInt8) : Option Element :=
  (elements.filter fun e => e.kind = kind).getLast?

/-- The text at a pointer, when it ends in the buffer. -/
def cString? (buffer : List UInt8) (place : Nat) : Option (List UInt8) :=
  if 0 ∈ buffer.drop place then some ((buffer.drop place).takeWhile fun byte => byte != 0)
  else none

/-! ### One element -/

/-- What an element at a place sets. -/
def Ies.take (ies : Ies) (data : Nat) (e : Element) : Ies :=
  if e.kind = 4 then { ies with callingName := some (data + 2) }
  else if e.kind = 1 then { ies with callee := some (data + 2) }
  else if e.kind = 2 then { ies with caller := some (data + 2) }
  else if e.kind = 9 then { ies with format := e.number }
  else if e.kind = 6 then { ies with username := some (data + 2) }
  else if e.kind = 14 then { ies with authmethods := e.number }
  else if e.kind = 15 then { ies with challenge := some (data + 2) }
  else ies

/-- What elements from a place on set. -/
def Ies.takeAll : Ies → Nat → List Element → Ies
  | ies, _, [] => ies
  | ies, data, e :: rest => (ies.take data e).takeAll (data + (e.content.length + 2)) rest

section

variable {buffer front block rest : List UInt8} {ies : Ies} {data fuel : Nat} {e : Element}

theorem readByte_of_getElem? {byte : UInt8} (hbyte : buffer[data]? = some byte) :
    readByte buffer data = .ok byte := by
  rw [readByte, hbyte]

theorem writeByte_of_lt {byte : UInt8} (hlt : data < buffer.length) :
    writeByte buffer data byte = .ok (buffer.set data byte) := if_pos hlt

theorem writeByte_of_le {byte : UInt8} (hle : buffer.length ≤ data) :
    writeByte buffer data byte = .error .outside := if_neg (Nat.not_lt.mpr hle)

theorem length_toNat (e : Element) : (UInt8.ofNat e.content.length).toNat = e.content.length :=
  UInt8.toNat_ofNat_of_lt' e.short

theorem kind_eq_iff (n : Nat) (hn : n < 256) : e.kind.toNat = n ↔ e.kind = UInt8.ofNat n := by
  rw [← UInt8.toNat_inj, UInt8.toNat_ofNat_of_lt' hn]

theorem readWord_content (hlength : e.content.length = 4)
    (hcontent : ∀ i < e.content.length, buffer[data + 2 + i]? = e.content[i]?) :
    readWord buffer (data + 2) = .ok (wordAt e.content 0) := by
  have hbyte (i : Nat) (hi : i < 4) : byte? buffer (data + 2 + i) = some (byteAt e.content i) := by
    have hlt : i < e.content.length := hlength.symm ▸ hi
    rw [← byte?_eq hlt, byte?, hcontent i hlt]
    rfl
  have hhigh : half? buffer (data + 2) = some (halfAt e.content 0) := by
    rw [half?, hbyte 0 (by decide), hbyte 1 (by decide)]
    rfl
  have hlow : half? buffer (data + 2 + 2) = some (halfAt e.content 2) := by
    rw [half?, hbyte 2 (by decide), hbyte 3 (by decide)]
    rfl
  rw [readWord, word?, hhigh, hlow]
  rfl

/-- What the parser sets is what the element says, where its content stands in the buffer. -/
theorem setElement_eq (hcontent : ∀ i < e.content.length, buffer[data + 2 + i]? = e.content[i]?) :
    setElement ies buffer data e.kind.toNat e.content.length = .ok (ies.take data e) := by
  have hkind (n : Nat) (hn : n < 256) : (e.kind.toNat = n) = (e.kind = UInt8.ofNat n) :=
    propext (kind_eq_iff n hn)
  simp only [setElement, hkind 4 (by decide), hkind 1 (by decide), hkind 2 (by decide),
    hkind 9 (by decide), hkind 6 (by decide), hkind 14 (by decide), hkind 15 (by decide)]
  have hnumber (f : Nat → Ies) : (if e.content.length = 4 then
      (readWord buffer (data + 2)).map f else .ok (f 0)) = .ok (f e.number) := by
    unfold Element.number
    split
    · rename_i hlength
      rw [readWord_content hlength hcontent]
      rfl
    · rfl
  rw [hnumber fun word => { ies with format := word },
    hnumber fun word => { ies with authmethods := word }]
  unfold Ies.take
  simp only [apply_ite Except.ok]
  rfl

/-! ### The loop -/

theorem length_blank_append : (front ++ e.blank).length = front.length + (e.content.length + 2) := by
  rw [List.length_append, Element.length_blank]

/-- The parser goes over one element. -/
theorem parseIesFrom_element : parseIesFrom (fuel + 1) ies (front ++ (e.encode ++ block) ++ rest)
      front.length (e.encode ++ block).length =
    parseIesFrom fuel (ies.take front.length e) ((front ++ e.blank) ++ block ++ rest)
      (front ++ e.blank).length block.length := by
  let buffer := front ++ (e.encode ++ block) ++ rest
  have hbuffer : buffer = front ++ (e.kind :: UInt8.ofNat e.content.length :: e.content ++
      (block ++ rest)) := by
    simp [buffer, Element.encode]
  have hkind : buffer[front.length]? = some e.kind := by
    rw [hbuffer, List.getElem?_append_right (Nat.le_refl _), Nat.sub_self]
    rfl
  have hlength : buffer[front.length + 1]? = some (UInt8.ofNat e.content.length) := by
    have hplace : front.length + 1 - front.length = 1 := Nat.add_sub_cancel_left ..
    rw [hbuffer, List.getElem?_append_right (Nat.le_add_right _ _), hplace]
    rfl
  have hcontent : ∀ i < e.content.length,
      buffer[front.length + 2 + i]? = e.content[i]? := by
    intro i hi
    have hplace : front.length + 2 + i - front.length = i + 2 := by omega
    rw [hbuffer, List.getElem?_append_right (by omega), hplace]
    exact @List.getElem?_append_left _ e.content (block ++ rest) i hi
  have hset : buffer.set front.length 0 = (front ++ e.blank) ++ block ++ rest := by
    rw [hbuffer, List.set_append_right _ _ (Nat.le_refl _), Nat.sub_self]
    simp [Element.blank]
  have hlt : front.length < buffer.length := by
    rw [hbuffer, List.length_append]
    exact Nat.lt_add_of_pos_right (Nat.succ_pos _)
  have hdatalen : (e.encode ++ block).length = e.content.length + 2 + block.length := by
    rw [List.length_append, Element.length_encode]
  have hroom : ¬(e.content.length + 2 + block.length - 2 < e.content.length) := by omega
  have hleft : e.content.length + 2 + block.length - (e.content.length + 2) = block.length :=
    Nat.add_sub_cancel_left ..
  rw [parseIesFrom, hdatalen, if_pos (by omega)]
  change (readByte buffer front.length >>= fun ie => readByte buffer (front.length + 1) >>= _) = _
  rw [readByte_of_getElem? hkind, readByte_of_getElem? hlength]
  change (if e.content.length + 2 + block.length - 2 < _ then _ else _) = _
  rw [length_toNat, if_neg hroom]
  change (setElement ies buffer _ _ _ >>= fun ies => writeByte buffer _ _ >>= _) = _
  rw [setElement_eq hcontent, writeByte_of_lt hlt, hset]
  change parseIesFrom _ _ _ _ _ = _
  rw [hleft, length_blank_append]

/-- The parser goes over all elements of a block and ends the last text behind it. -/
theorem parseIesFrom_elements {elements : List Element}
    (hfuel : (elements.flatMap Element.encode).length < fuel) :
    parseIesFrom fuel ies (front ++ elements.flatMap Element.encode ++ rest) front.length
      (elements.flatMap Element.encode).length =
    (writeByte (front ++ elements.flatMap Element.blank ++ rest)
      (front ++ elements.flatMap Element.blank).length 0).map fun buffer =>
        { code := 0, ies := ies.takeAll front.length elements, buffer := buffer } := by
  induction elements generalizing fuel ies front with
  | nil =>
      obtain ⟨fuel, rfl⟩ := Nat.exists_eq_add_one_of_ne_zero (Nat.ne_of_gt hfuel)
      simp only [List.flatMap_nil, List.append_nil, List.length_nil]
      rw [parseIesFrom, if_neg (by decide)]
      rfl
  | cons e elements ih =>
      obtain ⟨fuel, rfl⟩ := Nat.exists_eq_add_one_of_ne_zero
        (Nat.ne_of_gt (Nat.zero_lt_of_lt hfuel))
      rw [List.flatMap_cons, List.length_append, Element.length_encode] at hfuel
      rw [List.flatMap_cons, List.flatMap_cons, parseIesFrom_element, ih (by omega),
        length_blank_append, List.append_assoc front]
      rfl

/-- The first element of a block and what follows it can be told from the bytes. -/
theorem encode_append_inj {first : Element} {tail : List UInt8}
    (heq : first.encode ++ tail = e.encode ++ block) : first = e ∧ tail = block := by
  have hparts : first.kind = e.kind ∧
      UInt8.ofNat first.content.length = UInt8.ofNat e.content.length ∧
      first.content ++ tail = e.content ++ block := by
    simpa [Element.encode] using heq
  obtain ⟨hkind, hlength, hcontent⟩ := hparts
  have hsame : first.content.length = e.content.length := by
    rw [← length_toNat first, ← length_toNat e, hlength]
  obtain ⟨hcontent, htail⟩ := List.append_inj hcontent hsame
  refine ⟨?_, htail⟩
  cases first
  cases e
  congr

theorem elements_unique {elements others : List Element}
    (heq : elements.flatMap Element.encode = others.flatMap Element.encode) :
    elements = others := by
  induction elements generalizing others with
  | nil =>
      cases others with
      | nil => rfl
      | cons e others => cases heq
  | cons first elements ih =>
      cases others with
      | nil => cases heq
      | cons e others =>
          rw [List.flatMap_cons, List.flatMap_cons] at heq
          obtain ⟨hfirst, hrest⟩ := encode_append_inj heq
          rw [hfirst, ih hrest]

theorem isBlock_append : IsBlock (e.encode ++ block) ↔ IsBlock block := by
  constructor
  · rintro ⟨elements, helements⟩
    cases elements with
    | nil => cases helements
    | cons first elements =>
        rw [List.flatMap_cons] at helements
        exact ⟨elements, (encode_append_inj helements).2⟩
  · rintro ⟨elements, rfl⟩
    exact ⟨e :: elements, rfl⟩

/-- A block that is no concatenation of elements is refused, and every access is within the
buffer. -/
theorem parseIesFrom_of_not_block (hfuel : block.length < fuel) (hnot : ¬IsBlock block) :
    ∃ ies' buffer, parseIesFrom fuel ies (front ++ block ++ rest) front.length block.length =
      .ok { code := -1, ies := ies', buffer := buffer } := by
  induction fuel generalizing ies front block with
  | zero => exact absurd hfuel (Nat.not_lt_zero _)
  | succ fuel ih =>
      cases block with
      | nil => exact absurd ⟨[], rfl⟩ hnot
      | cons kind tail =>
          cases tail with
          | nil =>
              have hlt : front.length < (front ++ [kind] ++ rest).length := by
                simp only [List.length_append, List.length_singleton]
                omega
              rw [parseIesFrom, if_neg (by simp), writeByte_of_lt hlt]
              exact ⟨_, _, rfl⟩
          | cons length tail =>
              by_cases hfits : length.toNat ≤ tail.length
              · let e : Element :=
                  { kind := kind
                    content := tail.take length.toNat
                    short := by
                      rw [List.length_take_of_le hfits]
                      exact length.toNat_lt }
                have hencode : kind :: length :: tail = e.encode ++ tail.drop length.toNat := by
                  have hlength : UInt8.ofNat (tail.take length.toNat).length = length := by
                    rw [List.length_take_of_le hfits, UInt8.ofNat_toNat]
                  have htail := (List.take_append_drop length.toNat tail).symm
                  change _ = kind :: UInt8.ofNat (tail.take length.toNat).length ::
                    (tail.take length.toNat ++ tail.drop length.toNat)
                  rw [hlength, ← htail]
                rw [hencode] at hfuel hnot ⊢
                rw [List.length_append, Element.length_encode] at hfuel
                rw [parseIesFrom_element]
                exact ih (by omega) fun hblock => hnot (isBlock_append.mpr hblock)
              · have hkind : (front ++ (kind :: length :: tail) ++ rest)[front.length]? =
                    some kind := by
                  rw [List.append_assoc, List.getElem?_append_right (Nat.le_refl _), Nat.sub_self]
                  rfl
                have hlength : (front ++ (kind :: length :: tail) ++ rest)[front.length + 1]? =
                    some length := by
                  have hplace : front.length + 1 - front.length = 1 := Nat.add_sub_cancel_left ..
                  rw [List.append_assoc, List.getElem?_append_right (Nat.le_add_right _ _), hplace]
                  rfl
                have hpast : (kind :: length :: tail).length - 2 < length.toNat :=
                  Nat.lt_of_not_le hfits
                have htwo : 2 ≤ (kind :: length :: tail).length := Nat.le_add_left 2 _
                rw [parseIesFrom, if_pos htwo, readByte_of_getElem? hkind,
                  readByte_of_getElem? hlength]
                change ∃ ies' buffer, (if _ < length.toNat then _ else _) = _
                rw [if_pos hpast]
                exact ⟨_, _, rfl⟩

/-! ### The fields -/

theorem takeAll_concat (ies : Ies) (data : Nat) (elements : List Element) (e : Element) :
    ies.takeAll data (elements ++ [e]) = (ies.takeAll data elements).take
      (data + (elements.flatMap Element.blank).length) e := by
  induction elements generalizing ies data with
  | nil => rfl
  | cons first elements ih =>
      rw [List.cons_append, Ies.takeAll, ih, Ies.takeAll, List.flatMap_cons, List.length_append,
        Element.length_blank, Nat.add_assoc]

theorem lastOfKind_concat (elements : List Element) (e : Element) (kind : UInt8) :
    lastOfKind (elements ++ [e]) kind =
      if e.kind = kind then some e else lastOfKind elements kind := by
  unfold lastOfKind
  rw [List.filter_append]
  by_cases hkind : e.kind = kind
  · have hone : [e].filter (fun e => decide (e.kind = kind)) = [e] := by simp [hkind]
    rw [if_pos hkind, hone, List.getLast?_concat]
  · have hnone : [e].filter (fun e => decide (e.kind = kind)) = [] := by simp [hkind]
    rw [if_neg hkind, hnone, List.append_nil]

theorem pointer_take (ies : Ies) (data : Nat) (e : Element) (field : TextField) :
    field.pointer (ies.take data e) =
      if e.kind = field.kind then some (data + 2) else field.pointer ies := by
  unfold Ies.take
  cases field <;> simp only [TextField.kind] <;> split_ifs <;> simp_all [TextField.pointer]

theorem format_take (ies : Ies) (data : Nat) (e : Element) :
    (ies.take data e).format = if e.kind = 9 then e.number else ies.format := by
  unfold Ies.take
  split_ifs <;> simp_all

theorem authmethods_take (ies : Ies) (data : Nat) (e : Element) :
    (ies.take data e).authmethods = if e.kind = 14 then e.number else ies.authmethods := by
  unfold Ies.take
  split_ifs <;> simp_all

/-- The content of an element is read up to its own first zero, or the one behind it. -/
theorem cString?_content (before behind : List UInt8) :
    cString? (before ++ e.blank ++ 0 :: behind) (before.length + 2) = some e.text := by
  have hdrop : (before ++ e.blank ++ 0 :: behind).drop (before.length + 2) =
      e.content ++ 0 :: behind := by
    rw [List.append_assoc, ← List.drop_drop, List.drop_left]
    rfl
  have hends : (0 : UInt8) ∈ e.content ++ 0 :: behind := by simp
  rw [cString?, hdrop, if_pos hends]
  congr 1
  unfold Element.text
  induction e.content with
  | nil => rfl
  | cons byte content ih =>
      by_cases hzero : byte = 0
      · subst hzero
        rfl
      · have hkept : (byte != 0) = true := bne_iff_ne.mpr hzero
        rw [List.cons_append, List.takeWhile_cons, List.takeWhile_cons, if_pos hkept,
          if_pos hkept, ih]

/-- Each text field that is set points to the text of the last element of its kind. -/
theorem texts_takeAll (elements : List Element) (behind : List UInt8) (field : TextField) :
    (field.pointer (Ies.takeAll {} 0 elements)).map
        (cString? (elements.flatMap Element.blank ++ 0 :: behind)) =
      (lastOfKind elements field.kind).map fun e => some e.text := by
  induction elements using List.reverseRecOn generalizing behind with
  | nil => cases field <;> rfl
  | append_singleton elements e ih =>
      rw [takeAll_concat, pointer_take, lastOfKind_concat, List.flatMap_append,
        List.flatMap_singleton, Nat.zero_add]
      split
      · exact congrArg some (cString?_content _ behind)
      · rw [List.append_assoc]
        exact ih (UInt8.ofNat e.content.length :: e.content ++ 0 :: behind)

theorem numbers_takeAll (elements : List Element) :
    (Ies.takeAll {} 0 elements).format = ((lastOfKind elements 9).map Element.number).getD 0 ∧
      (Ies.takeAll {} 0 elements).authmethods =
        ((lastOfKind elements 14).map Element.number).getD 0 := by
  induction elements using List.reverseRecOn with
  | nil => exact ⟨rfl, rfl⟩
  | append_singleton elements e ih =>
      rw [takeAll_concat, format_take, authmethods_take, lastOfKind_concat, lastOfKind_concat]
      constructor
      · split
        · rfl
        · exact ih.1
      · split
        · rfl
        · exact ih.2

/-! ### The staging buffer -/

/-- What is read of the elements: a text by its pointer, a number as it is. -/
structure IsRead (elements : List Element) (parsed : Parsed) : Prop where
  texts : ∀ field : TextField, (field.pointer parsed.ies).map (cString? parsed.buffer) =
    (lastOfKind elements field.kind).map fun e => some e.text
  format : parsed.ies.format = ((lastOfKind elements 9).map Element.number).getD 0
  authmethods : parsed.ies.authmethods = ((lastOfKind elements 14).map Element.number).getD 0

theorem parseIax2Ies_of_room {elements : List Element} (spare : UInt8) (behind : List UInt8) :
    ∃ parsed, parseIax2Ies (elements.flatMap Element.encode ++ spare :: behind)
      (elements.flatMap Element.encode).length = .ok parsed ∧ parsed.code = 0 ∧
        IsRead elements parsed := by
  have hparse := @parseIesFrom_elements [] (spare :: behind) {}
    ((elements.flatMap Element.encode).length + 1) elements (Nat.lt_succ_self _)
  have hlt : (elements.flatMap Element.blank).length <
      (elements.flatMap Element.blank ++ spare :: behind).length := by
    rw [List.length_append]
    exact Nat.lt_add_of_pos_right (Nat.succ_pos _)
  have hset : (elements.flatMap Element.blank ++ spare :: behind).set
      (elements.flatMap Element.blank).length 0 =
        elements.flatMap Element.blank ++ 0 :: behind := by
    rw [List.set_append_right _ _ (Nat.le_refl _), Nat.sub_self]
    rfl
  rw [List.nil_append, List.nil_append, writeByte_of_lt hlt, hset] at hparse
  refine ⟨_, hparse, rfl, ?_, ?_, ?_⟩
  · exact fun field => texts_takeAll elements behind field
  · exact (numbers_takeAll elements).1
  · exact (numbers_takeAll elements).2

/-- A block that fills the buffer leaves no byte to end the last text at. -/
theorem parseIax2Ies_of_full {elements : List Element} :
    parseIax2Ies (elements.flatMap Element.encode) (elements.flatMap Element.encode).length =
      .error .outside := by
  have hparse := @parseIesFrom_elements [] [] {} ((elements.flatMap Element.encode).length + 1)
    elements (Nat.lt_succ_self _)
  rw [List.append_nil, List.append_nil, List.nil_append, List.nil_append,
    writeByte_of_le (Nat.le_refl _)] at hparse
  exact hparse

end

/-- A block in the staging buffer is parsed within the buffer, to what its elements say, unless it
fills the buffer with nothing but elements. -/
theorem parseIax2Ies_reads_iff {block rest : List UInt8}
    (hlength : block.length + rest.length = maxIesLength) :
    (∃ parsed, parseIax2Ies (block ++ rest) block.length = .ok parsed ∧
      (parsed.code = 0 ↔ IsBlock block) ∧
      ∀ elements : List Element, elements.flatMap Element.encode = block →
        IsRead elements parsed) ↔
      ¬(block.length = maxIesLength ∧ IsBlock block) := by
  constructor
  · rintro ⟨parsed, hparse, -⟩ ⟨hfull, elements, rfl⟩
    have hrest : rest = [] := List.eq_nil_of_length_eq_zero (by omega)
    rw [hrest, List.append_nil, parseIax2Ies_of_full] at hparse
    cases hparse
  · intro hroom
    by_cases hblock : IsBlock block
    · obtain ⟨elements, rfl⟩ := hblock
      cases rest with
      | nil => exact absurd ⟨hlength, elements, rfl⟩ hroom
      | cons spare behind =>
          obtain ⟨parsed, hparse, hcode, hread⟩ := parseIax2Ies_of_room spare behind
          refine ⟨parsed, hparse, ⟨fun _ => ⟨elements, rfl⟩, fun _ => hcode⟩, ?_⟩
          intro others hothers
          rw [elements_unique hothers]
          exact hread
    · have hrefused := @parseIesFrom_of_not_block [] block rest {} (block.length + 1)
        (Nat.lt_succ_self _) hblock
      obtain ⟨ies, buffer, hparse⟩ := hrefused
      refine ⟨_, hparse, ?_, ?_⟩
      · have hcode : (-1 : Int) ≠ 0 := by decide
        exact ⟨fun hzero => absurd hzero hcode, fun h => absurd h hblock⟩
      · exact fun elements h => absurd ⟨elements, h⟩ hblock

section

/-- The called number "AB". -/
private def calledNumber : Element := { kind := 1, content := [65, 66], short := by decide }

private def longName : Element :=
  { kind := 4, content := List.replicate 254 65, short := by rw [List.length_replicate]; omega }

theorem parseIax2Ies_reads_number :
    ∃ parsed, parseIax2Ies ([1, 2, 65, 66] ++ List.replicate 1020 7) 4 = .ok parsed ∧
      parsed.ies.callee.map (cString? parsed.buffer) = some (some [65, 66]) := by
  generalize hrest : List.replicate 1020 (7 : UInt8) = rest
  have hcount : rest.length = 1020 := by rw [← hrest, List.length_replicate]
  have hlength : ([1, 2, 65, 66] : List UInt8).length + rest.length = maxIesLength := by
    rw [hcount]
    rfl
  have hroom : ¬(([1, 2, 65, 66] : List UInt8).length = maxIesLength ∧ IsBlock [1, 2, 65, 66]) :=
    fun h => absurd h.1 (by unfold maxIesLength; simp)
  obtain ⟨parsed, hparse, -, hread⟩ := (parseIax2Ies_reads_iff hlength).mpr hroom
  exact ⟨parsed, hparse, (hread [calledNumber] rfl).texts .callee⟩

/-- Four elements of 256 bytes fill the buffer: the zero behind them is written outside. -/
theorem parseIax2Ies_writes_outside : ¬ ∀ block rest : List UInt8, 1 ≤ block.length →
    block.length ≤ maxIesLength → block.length + rest.length = maxIesLength →
    ∃ parsed, parseIax2Ies (block ++ rest) block.length = .ok parsed ∧
      (parsed.code = 0 ↔ IsBlock block) ∧
      ∀ elements : List Element, elements.flatMap Element.encode = block →
        IsRead elements parsed := by
  intro hall
  have hlength : ([longName, longName, longName, longName].flatMap Element.encode).length =
      maxIesLength := by decide +kernel
  generalize [longName, longName, longName, longName] = elements at hlength
  generalize hblock : elements.flatMap Element.encode = block at hlength
  have hsum : block.length + ([] : List UInt8).length = maxIesLength := hlength
  have hpos : 1 ≤ block.length := by
    rw [hlength]
    unfold maxIesLength
    omega
  obtain ⟨parsed, hparse, -⟩ := hall block [] hpos (Nat.le_of_eq hlength) hsum
  rw [List.append_nil, ← hblock, parseIax2Ies_of_full] at hparse
  cases hparse

end

end OrkAudio.Iax2
