import OrkAudio.Lib.Memory
import OrkAudio.Skinny.Tokens

/-! The CallInfo as which a CCM5 CallInfo is reported, as it is built in memory. -/

namespace OrkAudio.Skinny

open Lib VoIp

/-! ### Fields of `SkCallInfoStruct` -/

def skinnyCallingPartySize : Nat := 24
def skinnyCalledPartySize : Nat := 24
def skinnyCallingPartyNameSize : Nat := 40
def skinnyCalledPartyNameSize : Nat := 40

def callingPartyNameField : CField := ⟨12, skinnyCallingPartyNameSize⟩
def callingPartyField : CField := ⟨52, skinnyCallingPartySize⟩
def calledPartyNameField : CField := ⟨76, skinnyCalledPartyNameSize⟩
def calledPartyField : CField := ⟨116, skinnyCalledPartySize⟩
def lineInstanceField : CField := ⟨140, 4⟩
def callIdField : CField := ⟨144, 4⟩
def callTypeField : CField := ⟨148, 4⟩

def stringFields : List CField :=
  [callingPartyNameField, callingPartyField, calledPartyNameField, calledPartyField]

/-! ### Copies -/

/-- Up to the zero that ends the text, and that zero. -/
def strcpy (field : CField) (text : List UInt8) : Store where
  field := field
  bytes := cString text ++ [0]

/-- As many bytes as the field has; a text that is as long leaves no room for a zero. -/
def strncpy (field : CField) (text : List UInt8) : Store where
  field := field
  bytes := (cString text ++ List.replicate field.size 0).take field.size

/-- A name that is empty is not copied, but its field is ended. -/
def copyName (field : CField) (text : List UInt8) : Store where
  field := field
  bytes := if text = [] then [0] else (strncpy field text).bytes

/-- In the order of the source. -/
def callInfoStores (data : List UInt8) (parties : Parties) : List Store :=
  [strcpy calledPartyField parties.calledParty, strcpy callingPartyField parties.callingParty,
    ⟨callIdField, charsAt 16 4 data⟩, ⟨callTypeField, charsAt 20 4 data⟩,
    ⟨lineInstanceField, [0, 0, 0, 0]⟩, copyName calledPartyNameField parties.calledPartyName,
    copyName callingPartyNameField parties.callingPartyName]

/-- The memory from the CallInfo on. It is not initialized: `stack` is what was there. -/
def emulatedCallInfo (cfg : Config) (data : List UInt8) (stack : Memory) : Memory :=
  Store.applyAll stack (callInfoStores data (ccm5Parties cfg data))

/-- Nothing is written behind a field, and each string ends in its own. -/
structure StringsFit (cfg : Config) (data : List UInt8) (stack : Memory) : Prop where
  inside : ∀ store ∈ callInfoStores data (ccm5Parties cfg data), store.Inside
  terminated : ∀ field ∈ stringFields, field.Terminated (emulatedCallInfo cfg data stack)

/-! ### Copies of texts without zeros -/

section

variable {field : CField} {text : List UInt8}

theorem strcpy_inside_iff (hzero : 0 ∉ text) :
    (strcpy field text).Inside ↔ text.length < field.size := by
  rw [Store.Inside, strcpy, cString_of_not_mem hzero, List.length_append, List.length_singleton,
    Nat.succ_le_iff]

theorem zero_mem_strcpy (field : CField) (text : List UInt8) : 0 ∈ (strcpy field text).bytes :=
  List.mem_append_right _ (List.mem_singleton_self 0)

theorem copyName_inside (hsize : 0 < field.size) : (copyName field text).Inside := by
  unfold copyName Store.Inside
  split_ifs
  · exact hsize
  · exact List.length_take_le _ _

/-- A name that fits is followed by zeros. -/
theorem copyName_of_fits (hzero : 0 ∉ text) (hfits : text.length < field.size) :
    ∃ pad, (copyName field text).bytes = text ++ 0 :: pad := by
  unfold copyName
  split_ifs with hempty
  · exact ⟨[], by rw [hempty]; rfl⟩
  · refine ⟨List.replicate (field.size - text.length - 1) 0, ?_⟩
    have hroom : field.size - text.length = (field.size - text.length - 1) + 1 := by omega
    rw [strncpy, cString_of_not_mem hzero, List.take_append, List.take_of_length_le hfits.le,
      List.take_replicate, Nat.min_eq_left (Nat.sub_le _ _), hroom, List.replicate_succ]
    rfl

/-- A name that does not fit fills the field up. -/
theorem copyName_of_long (hzero : 0 ∉ text) (hsize : 0 < field.size)
    (hlong : field.size ≤ text.length) : (copyName field text).bytes = text.take field.size := by
  have hne : text ≠ [] := by
    intro hempty
    rw [hempty] at hlong
    exact absurd hlong (Nat.not_le_of_lt hsize)
  rw [copyName, if_neg hne, strncpy, cString_of_not_mem hzero,
    List.take_append_of_le_length hlong]

end

/-! ### The fields of a message -/

/-- The tokens that the strings are copied from are shorter than their fields. -/
structure TokensFit (cfg : Config) (data : List UInt8) : Prop where
  callingParty : (tokenAt (tokens (data.drop ccm5CallInfoSize)) (callingPartyNr cfg
    (wordAt 20 data) (tokens (data.drop ccm5CallInfoSize)))).length < skinnyCallingPartySize
  calledParty : (tokenAt (tokens (data.drop ccm5CallInfoSize)) (calledPartyNr cfg
    (tokens (data.drop ccm5CallInfoSize)))).length < skinnyCalledPartySize
  callingPartyName : (tokenAt (tokens (data.drop ccm5CallInfoSize)) (callingPartyNameNr
    (headerVersion data))).length < skinnyCallingPartyNameSize
  calledPartyName : (tokenAt (tokens (data.drop ccm5CallInfoSize)) (calledPartyNameNr
    (headerVersion data) (tokens (data.drop ccm5CallInfoSize)))).length <
      skinnyCalledPartyNameSize

variable {cfg : Config} {data : List UInt8} {stack : Memory}

theorem tokensFit_iff : TokensFit cfg data ↔
    (ccm5Parties cfg data).callingParty.length < skinnyCallingPartySize ∧
      (ccm5Parties cfg data).calledParty.length < skinnyCalledPartySize ∧
      (ccm5Parties cfg data).callingPartyName.length < skinnyCallingPartyNameSize ∧
      (ccm5Parties cfg data).calledPartyName.length < skinnyCalledPartyNameSize := by
  rw [ccm5Parties_eq, partiesAfter_callingParty, partiesAfter_calledParty,
    partiesAfter_callingPartyName, partiesAfter_calledPartyName]
  constructor
  · intro fit
    exact ⟨fit.callingParty, fit.calledParty, fit.callingPartyName, fit.calledPartyName⟩
  · intro fit
    exact ⟨fit.1, fit.2.1, fit.2.2.1, fit.2.2.2⟩

theorem callInfoStores_apart (data : List UInt8) (parties : Parties) :
    ((callInfoStores data parties).map Store.field).Pairwise CField.Apart := by
  change [calledPartyField, callingPartyField, callIdField, callTypeField, lineInstanceField,
    calledPartyNameField, callingPartyNameField].Pairwise CField.Apart
  decide

theorem length_charsAt_le (offset size : Nat) (data : List UInt8) :
    (charsAt offset size data).length ≤ size := List.length_take_le _ _

/-- Only the parties are copied without a bound. -/
theorem callInfoStores_inside_iff {parties : Parties} (zeroless : parties.Zeroless) :
    (∀ store ∈ callInfoStores data parties, store.Inside) ↔
      parties.calledParty.length < skinnyCalledPartySize ∧
        parties.callingParty.length < skinnyCallingPartySize := by
  have hcalled : (strcpy calledPartyField parties.calledParty).Inside ↔
      parties.calledParty.length < skinnyCalledPartySize :=
    strcpy_inside_iff zeroless.calledParty
  have hcalling : (strcpy callingPartyField parties.callingParty).Inside ↔
      parties.callingParty.length < skinnyCallingPartySize :=
    strcpy_inside_iff zeroless.callingParty
  simp only [callInfoStores, List.forall_mem_cons, hcalled, hcalling]
  constructor
  · intro inside
    exact ⟨inside.1, inside.2.1⟩
  · intro fit
    exact ⟨fit.1, fit.2, length_charsAt_le 16 4 data, length_charsAt_le 20 4 data, Nat.le_refl 4,
      copyName_inside (by decide), copyName_inside (by decide), List.forall_mem_nil _⟩

/-- A field whose name is as long as it is has no zero. -/
theorem name_fits_of_terminated {field : CField} {text : List UInt8} {stores : List Store}
    (hinside : ∀ store ∈ stores, store.Inside)
    (hapart : (stores.map Store.field).Pairwise CField.Apart)
    (hstore : copyName field text ∈ stores) (hsize : 0 < field.size) (hzero : 0 ∉ text)
    (hterminated : field.Terminated (Store.applyAll stack stores)) :
    text.length < field.size := by
  by_contra hlong
  have hbytes := copyName_of_long hzero hsize (Nat.le_of_not_lt hlong)
  have hfilled : (copyName field text).bytes.length = field.size := by
    rw [hbytes, List.length_take, Nat.min_eq_left (Nat.le_of_not_lt hlong)]
  have hmem := Store.zero_mem_of_terminated hinside hapart hstore hfilled hterminated
  rw [hbytes] at hmem
  exact hzero (List.mem_of_mem_take hmem)

theorem name_terminated_of_fits {field : CField} {text : List UInt8} {stores : List Store}
    (hinside : ∀ store ∈ stores, store.Inside)
    (hapart : (stores.map Store.field).Pairwise CField.Apart)
    (hstore : copyName field text ∈ stores) (hzero : 0 ∉ text)
    (hfits : text.length < field.size) :
    field.Terminated (Store.applyAll stack stores) := by
  obtain ⟨pad, hbytes⟩ := copyName_of_fits hzero hfits
  apply Store.terminated_of_zero_mem hinside hapart hstore
  rw [hbytes]
  exact List.mem_append_right _ List.mem_cons_self

theorem stringsFit_iff_parties : StringsFit cfg data stack ↔
    (ccm5Parties cfg data).callingParty.length < skinnyCallingPartySize ∧
      (ccm5Parties cfg data).calledParty.length < skinnyCalledPartySize ∧
      (ccm5Parties cfg data).callingPartyName.length < skinnyCallingPartyNameSize ∧
      (ccm5Parties cfg data).calledPartyName.length < skinnyCalledPartyNameSize := by
  have zeroless : (ccm5Parties cfg data).Zeroless := zeroless_ccm5Parties data
  have hapart := callInfoStores_apart data (ccm5Parties cfg data)
  constructor
  · intro fit
    obtain ⟨hcalled, hcalling⟩ := (callInfoStores_inside_iff zeroless).mp fit.inside
    have hcallingName : (ccm5Parties cfg data).callingPartyName.length <
        skinnyCallingPartyNameSize := by
      apply name_fits_of_terminated fit.inside hapart _ (by decide) zeroless.callingPartyName
        (fit.terminated callingPartyNameField (by simp [stringFields]))
      simp [callInfoStores]
    have hcalledName : (ccm5Parties cfg data).calledPartyName.length <
        skinnyCalledPartyNameSize := by
      apply name_fits_of_terminated fit.inside hapart _ (by decide) zeroless.calledPartyName
        (fit.terminated calledPartyNameField (by simp [stringFields]))
      simp [callInfoStores]
    exact ⟨hcalling, hcalled, hcallingName, hcalledName⟩
  · intro fit
    obtain ⟨hcalling, hcalled, hcallingName, hcalledName⟩ := fit
    have hinside : ∀ store ∈ callInfoStores data (ccm5Parties cfg data), store.Inside :=
      (callInfoStores_inside_iff zeroless).mpr ⟨hcalled, hcalling⟩
    constructor
    · exact hinside
    · simp only [stringFields, List.forall_mem_cons]
      refine ⟨?_, ?_, ?_, ?_, List.forall_mem_nil _⟩
      · apply name_terminated_of_fits hinside hapart _ zeroless.callingPartyName hcallingName
        simp [callInfoStores]
      · apply Store.terminated_of_zero_mem hinside hapart _ (zero_mem_strcpy callingPartyField
          (ccm5Parties cfg data).callingParty)
        simp [callInfoStores]
      · apply name_terminated_of_fits hinside hapart _ zeroless.calledPartyName hcalledName
        simp [callInfoStores]
      · apply Store.terminated_of_zero_mem hinside hapart _ (zero_mem_strcpy calledPartyField
          (ccm5Parties cfg data).calledParty)
        simp [callInfoStores]

/-! ### What is read of the fields -/

/-- `sizeof(SkCallInfoStruct)`. -/
def callInfoSize : Nat := 152

theorem charsAt_read (memory : Memory) {offset size : Nat} (hsize : offset + size ≤ callInfoSize) :
    charsAt offset size (memory.read 0 callInfoSize) = memory.read offset size := by
  apply List.ext_getElem?
  intro i
  rw [charsAt, Memory.read, Memory.read, List.getElem?_take]
  split_ifs with hi
  · have hrange : offset + i < callInfoSize := by omega
    rw [List.getElem?_drop, List.getElem?_map, List.getElem?_map, List.getElem?_range hrange,
      List.getElem?_range hi, Option.map_some, Option.map_some, Nat.zero_add]
  · rw [List.getElem?_map, List.getElem?_eq_none (by rw [List.length_range]; omega),
      Option.map_none]

theorem textOf_of_prefix {chars text pad : List UInt8} (hzero : 0 ∉ text)
    (hbegins : text ++ 0 :: pad <+: chars) : textOf chars = textOf text := by
  obtain ⟨behind, rfl⟩ := hbegins
  have htext : cString (text ++ 0 :: (pad ++ behind)) = text := by
    rw [cString, List.takeWhile_append_of_pos, List.takeWhile_cons_of_neg (by decide),
      List.append_nil]
    intro c hc
    apply decide_eq_true
    rintro rfl
    exact hzero hc
  rw [textOf, textOf, List.append_assoc, List.cons_append, htext, cString_of_not_mem hzero]

/-- When the strings fit, the CallInfo is read back as the message's parties. -/
theorem callInfoReport_emulated (fit : StringsFit cfg data stack)
    (hsize : ccm5CallInfoSize ≤ data.length) :
    callInfoReport ((emulatedCallInfo cfg data stack).read 0 callInfoSize) =
      .callInfo (ccm5CallInfo data (ccm5Parties cfg data)) := by
  have zeroless : (ccm5Parties cfg data).Zeroless := zeroless_ccm5Parties data
  have hapart := callInfoStores_apart data (ccm5Parties cfg data)
  have hread {store : Store} (hstore : store ∈ callInfoStores data (ccm5Parties cfg data))
      {size : Nat} (hbytes : store.bytes.length ≤ size) :
      store.bytes <+: (emulatedCallInfo cfg data stack).read store.field.offset size :=
    Store.prefix_read fit.inside hapart hstore hbytes
  have hparty (field : CField) {text : List UInt8} (hzero : 0 ∉ text)
      (hstore : strcpy field text ∈ callInfoStores data (ccm5Parties cfg data)) {size : Nat}
      (hfield : field.size ≤ size) :
      textOf ((emulatedCallInfo cfg data stack).read field.offset size) = textOf text := by
    have hbegins := hread hstore ((fit.inside _ hstore).trans hfield)
    rw [strcpy, cString_of_not_mem hzero] at hbegins
    exact textOf_of_prefix hzero hbegins
  have hname (field : CField) {text : List UInt8} (hzero : 0 ∉ text)
      (hstore : copyName field text ∈ callInfoStores data (ccm5Parties cfg data))
      (hfits : text.length < field.size) {size : Nat} (hfield : field.size ≤ size) :
      textOf ((emulatedCallInfo cfg data stack).read field.offset size) = textOf text := by
    obtain ⟨pad, hbytes⟩ := copyName_of_fits hzero hfits
    have hbegins := hread hstore ((fit.inside _ hstore).trans hfield)
    rw [hbytes] at hbegins
    exact textOf_of_prefix hzero hbegins
  have hword (field : CField) (bytes : List UInt8)
      (hstore : ⟨field, bytes⟩ ∈ callInfoStores data (ccm5Parties cfg data))
      (hbytes : bytes.length = 4) (hfield : field.offset + 4 ≤ callInfoSize) :
      wordAt field.offset ((emulatedCallInfo cfg data stack).read 0 callInfoSize) =
        LittleEndian.toWord bytes := by
    have hbegins := hread hstore hbytes.le
    have hlength : ((emulatedCallInfo cfg data stack).read field.offset 4).length = 4 := by
      rw [Memory.read, List.length_map, List.length_range]
    have hequal := hbegins.eq_of_length (hbytes.trans hlength.symm)
    exact congrArg LittleEndian.toWord ((charsAt_read _ hfield).trans hequal.symm)
  have hchars {offset : Nat} (hoffset : offset + 4 ≤ ccm5CallInfoSize) :
      (charsAt offset 4 data).length = 4 := by
    rw [charsAt, List.length_take, List.length_drop]
    omega
  obtain ⟨-, -, hcallingName, hcalledName⟩ := stringsFit_iff_parties.mp fit
  have hcallingPartyName : textOf ((emulatedCallInfo cfg data stack).read 12 128) =
      textOf (ccm5Parties cfg data).callingPartyName :=
    hname callingPartyNameField zeroless.callingPartyName (by simp [callInfoStores])
      hcallingName (by decide)
  have hcallingParty : textOf ((emulatedCallInfo cfg data stack).read 52 88) =
      textOf (ccm5Parties cfg data).callingParty :=
    hparty callingPartyField zeroless.callingParty (by simp [callInfoStores]) (by decide)
  have hcalledPartyName : textOf ((emulatedCallInfo cfg data stack).read 76 64) =
      textOf (ccm5Parties cfg data).calledPartyName :=
    hname calledPartyNameField zeroless.calledPartyName (by simp [callInfoStores])
      hcalledName (by decide)
  have hcalledParty : textOf ((emulatedCallInfo cfg data stack).read 116 24) =
      textOf (ccm5Parties cfg data).calledParty :=
    hparty calledPartyField zeroless.calledParty (by simp [callInfoStores]) (by decide)
  have hline : wordAt 140 ((emulatedCallInfo cfg data stack).read 0 callInfoSize) = 0 :=
    hword lineInstanceField [0, 0, 0, 0] (by simp [callInfoStores]) rfl (by decide)
  have hcallId : wordAt 144 ((emulatedCallInfo cfg data stack).read 0 callInfoSize) =
      wordAt 16 data :=
    hword callIdField (charsAt 16 4 data) (by simp [callInfoStores]) (hchars (by decide))
      (by decide)
  have hcallType : wordAt 148 ((emulatedCallInfo cfg data stack).read 0 callInfoSize) =
      wordAt 20 data :=
    hword callTypeField (charsAt 20 4 data) (by simp [callInfoStores]) (hchars (by decide))
      (by decide)
  rw [callInfoReport, ccm5CallInfo, charsAt_read _ (by decide), charsAt_read _ (by decide),
    charsAt_read _ (by decide), charsAt_read _ (by decide), hcallingPartyName, hcallingParty,
    hcalledPartyName, hcalledParty, hline, hcallId, hcallType]
  rfl

/-- The strings fit just when their tokens are shorter than the fields. -/
theorem stringsFit_iff_tokensFit (cfg : Config) (data : List UInt8) (stack : Memory) :
    StringsFit cfg data stack ↔ TokensFit cfg data :=
  stringsFit_iff_parties.trans tokensFit_iff.symm

/-- A CCM5 CallInfo, with a calling number as long as its field. -/
def longNumber : List UInt8 :=
  [80, 0, 0, 0, 0, 0, 0, 0, 0x4A, 1, 0, 0] ++ List.replicate 8 0 ++ [2, 0, 0, 0] ++
    List.replicate 20 0 ++ List.replicate 24 0x35 ++ [0, 0x37, 0]

/-- The zero that ends the number is written to the name behind it. -/
theorem long_number_leaves_field :
    skinnyValidateCcm5CallInfo longNumber = true ∧ ¬ StringsFit {} longNumber fun _ => 0 := by
  constructor
  · decide
  · intro fit
    exact absurd fit.inside (by decide)

end OrkAudio.Skinny
