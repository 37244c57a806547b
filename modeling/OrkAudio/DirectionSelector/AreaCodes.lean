import OrkAudio.DirectionSelector.Model
import OrkAudio.Strtol

/-! The area codes map: from the lines of its file to the marks of the tapes.

A line is validated without the whitespace around its code and its side. The code is stored
like that, the side as it stands in the line, and a code that is there already keeps its first
side. -/

namespace OrkAudio.DirectionSelector

open Lib MediaChunkFile Strtol

/-- `StringIsPhoneNumber`. -/
def stringIsPhoneNumber (text : List Char) : Bool :=
  text.all fun c => c.isDigit || c == '-' || c == '*' || c == '#' || c == '(' || c == ')'

/-- A line that `ProcessAreaCodesMap` accepts, with the pair that it stores. -/
structure AreaCode where
  code : String
  side : String
  deriving DecidableEq

/-- The direction that the line was validated with. -/
def AreaCode.sideKept (areaCode : AreaCode) : AudioKeepDirection :=
  audioKeepDirectionToEnum (String.ofList (trim areaCode.side.toList))

def AreaCode.ofLine (line : String) : Option AreaCode :=
  match (cText line).dropWhile (· ≠ ':') with
  | [] => none
  | _ :: side =>
      let code := trim ((cText line).takeWhile (· ≠ ':'))
      if stringIsPhoneNumber code = false ∨
          audioKeepDirectionToEnum (String.ofList (trim side)) = .audioKeepDirectionInvalid then
        none
      else some { code := String.ofList code, side := String.ofList side }

/-- `DirectionSelector::ProcessAreaCodesMap`. -/
def processAreaCodesMap (areaCodesMap : OrderedMap String String) (line : String) :
    OrderedMap String String :=
  match AreaCode.ofLine line with
  | some areaCode => areaCodesMap.insertNew areaCode.code areaCode.side
  | none => areaCodesMap

/-- The map after some lines. -/
def areaCodesMapOf (lines : List String) : OrderedMap String String :=
  lines.foldl processAreaCodesMap .empty

/-- What `LoadAreaCodesMap` hands on of what `fgets` reads, without the end of the line. -/
def lineOfBuffer (buf : String) : Option String :=
  let text := cText buf
  if text.length > 4 then
    some (String.ofList (if text.getLast? = some '\n' then text.dropLast else text))
  else none

def loadAreaCodesMap (bufs : List String) : OrderedMap String String :=
  areaCodesMapOf (bufs.filterMap lineOfBuffer)

/-- The lines of the file that `ProcessAreaCodesMap` accepts, in order. -/
def acceptedLines (bufs : List String) : List AreaCode :=
  (bufs.filterMap lineOfBuffer).filterMap AreaCode.ofLine

/-! ### Sides -/

theorem not_isUpper_of_isSpace {c : Char} (hspace : isSpace c = true) : ¬ c.isUpper = true := by
  have hlow : c.toNat = 32 ∨ 9 ≤ c.toNat ∧ c.toNat ≤ 13 := by
    simpa [isSpace] using hspace
  intro hupper
  have hval : 65 ≤ c.toNat := by
    exact (of_decide_eq_true hupper).1
  omega

theorem isSpace_eq_false_of_equalsNoCase {text word : String}
    (hword : (word.toList.map Char.toLower).any isSpace = false)
    (heq : equalsNoCase text word = true) {c : Char} (hc : c ∈ text.toList) :
    isSpace c = false := by
  have hlower : text.toList.map Char.toLower = word.toList.map Char.toLower :=
    of_decide_eq_true heq
  by_contra hspace
  have hsame : c.toLower = c :=
    Char.toLower_eq_of_not_isUpper (not_isUpper_of_isSpace (by simpa using hspace))
  have hmem : c.toLower ∈ word.toList.map Char.toLower := hlower ▸ List.mem_map_of_mem hc
  rw [hsame] at hmem
  exact hspace (by simpa using List.any_eq_false.mp hword c hmem)

/-- A side that the comparison takes has no whitespace in it. -/
theorem isSpace_eq_false_of_valid {side : String}
    (hvalid : audioKeepDirectionToEnum side ≠ .audioKeepDirectionInvalid) {c : Char}
    (hc : c ∈ side.toList) : isSpace c = false := by
  unfold audioKeepDirectionToEnum at hvalid
  split_ifs at hvalid with hboth hlocal hremote hnone
  · exact isSpace_eq_false_of_equalsNoCase rfl hboth hc
  · exact isSpace_eq_false_of_equalsNoCase rfl hlocal hc
  · exact isSpace_eq_false_of_equalsNoCase rfl hremote hc
  · exact isSpace_eq_false_of_equalsNoCase rfl hnone hc
  · exact absurd rfl hvalid

theorem trim_of_valid {side : String}
    (hvalid : audioKeepDirectionToEnum side ≠ .audioKeepDirectionInvalid) :
    trim side.toList = side.toList := by
  apply trim_eq_self_iff.mpr
  constructor
  · intro c hc
    exact isSpace_eq_false_of_valid hvalid (List.mem_of_mem_head? hc)
  · intro c hc
    exact isSpace_eq_false_of_valid hvalid (List.mem_of_getLast? hc)

namespace AreaCode

theorem ofLine_sideKept {line : String} {areaCode : AreaCode}
    (haccepted : ofLine line = some areaCode) :
    areaCode.sideKept ≠ .audioKeepDirectionInvalid := by
  unfold ofLine at haccepted
  split at haccepted
  · cases haccepted
  · dsimp only at haccepted
    split_ifs at haccepted with hrefused
    obtain rfl := Option.some.inj haccepted
    rw [sideKept, String.toList_ofList]
    exact (not_or.mp hrefused).2

/-- The side that is stored is read back as the direction of the line where the line has no
whitespace around it, and else as no direction. -/
theorem toEnum_side {areaCode : AreaCode} {direction : AudioKeepDirection}
    (hdirection : direction ≠ .audioKeepDirectionInvalid) :
    audioKeepDirectionToEnum areaCode.side = direction ↔
      trim areaCode.side.toList = areaCode.side.toList ∧ areaCode.sideKept = direction := by
  constructor
  · intro heq
    have htrim := trim_of_valid (heq ▸ hdirection)
    refine ⟨htrim, ?_⟩
    rw [sideKept, htrim, String.ofList_toList]
    exact heq
  · intro hkept
    rw [← hkept.2, sideKept, hkept.1, String.ofList_toList]

end AreaCode

/-! ### The map -/

theorem find?_foldl_processAreaCodesMap (areaCodesMap : OrderedMap String String)
    (lines : List String) (code : String) :
    (lines.foldl processAreaCodesMap areaCodesMap).find? code =
      (areaCodesMap.find? code).or
        (((lines.filterMap AreaCode.ofLine).find? fun areaCode => areaCode.code = code).map
          AreaCode.side) := by
  induction lines generalizing areaCodesMap with
  | nil => simp
  | cons line lines ih =>
      rw [List.foldl_cons, ih, processAreaCodesMap]
      cases hline : AreaCode.ofLine line with
      | none => rw [List.filterMap_cons_none hline]
      | some areaCode =>
          rw [List.filterMap_cons_some hline]
          dsimp only
          by_cases hcode : areaCode.code = code
          · rw [List.find?_cons_of_pos (by simpa using hcode), Option.map_some, ← hcode]
            cases hold : areaCodesMap.find? areaCode.code with
            | some old => rw [OrderedMap.insertNew_of_taken hold, hold, Option.some_or, Option.some_or]
            | none => rw [OrderedMap.find?_insertNew_self hold, Option.some_or, Option.none_or]
          · rw [List.find?_cons_of_neg (by simpa using hcode),
              OrderedMap.find?_insertNew_of_ne (Ne.symm hcode)]

/-- The first line with a code gives its side. -/
theorem find?_loadAreaCodesMap (bufs : List String) (code : String) :
    (loadAreaCodesMap bufs).find? code =
      ((acceptedLines bufs).find? fun areaCode => areaCode.code = code).map AreaCode.side := by
  rw [loadAreaCodesMap, areaCodesMapOf, find?_foldl_processAreaCodesMap]
  rfl

theorem exists_acceptedLine {bufs : List String} {entry : String × String}
    (hentry : entry ∈ (loadAreaCodesMap bufs).entries) :
    ∃ areaCode ∈ acceptedLines bufs, areaCode.code = entry.1 := by
  have hfind : (loadAreaCodesMap bufs).find? entry.1 = some entry.2 :=
    OrderedMap.find?_eq_some.mpr hentry
  rw [find?_loadAreaCodesMap, Option.map_eq_some_iff] at hfind
  obtain ⟨areaCode, hfirst, -⟩ := hfind
  have hcode := List.find?_some hfirst
  exact ⟨areaCode, List.mem_of_find?_eq_some hfirst, by simpa using hcode⟩

/-- The only code that the remote party starts with decides. -/
theorem areaCodeSide_of_only {areaCodesMap : OrderedMap String String} {remoteParty : String}
    {code side : String} (hfind : areaCodesMap.find? code = some side)
    (hstarts : code.toList <+: remoteParty.toList)
    (honly : ∀ entry ∈ areaCodesMap.entries, entry.1.toList <+: remoteParty.toList →
      entry.1 = code) :
    areaCodeSide areaCodesMap remoteParty = some side := by
  have hmem := OrderedMap.find?_eq_some.mp hfind
  unfold areaCodeSide
  cases hfirst : areaCodesMap.entries.find? fun entry =>
      entry.1.toList.isPrefixOf remoteParty.toList with
  | none =>
      have hnot := List.find?_eq_none.mp hfirst _ hmem
      exact absurd (List.isPrefixOf_iff_prefix.mpr hstarts) hnot
  | some entry =>
      have hentry := List.mem_of_find?_eq_some hfirst
      have hfound := List.find?_some hfirst
      have hbegins := List.isPrefixOf_iff_prefix.mp hfound
      have hcode := honly entry hentry hbegins
      have hsame : areaCodesMap.find? code = some entry.2 :=
        OrderedMap.find?_eq_some.mpr (hcode ▸ hentry)
      rw [hfind] at hsame
      exact hsame.symm

/-! ### The mark of a tape -/

/-- A tape whose remote party starts with the code of one line gets the mark that the line was
validated with if and only if the first line with this code has no whitespace around its side
and the same direction. -/
theorem marked_iff_stored_bare {bufs : List String} {areaCode : AreaCode}
    (haccepted : areaCode ∈ acceptedLines bufs) {tape : AudioTape}
    (hstarts : areaCode.code.toList <+: tape.remoteParty.toList)
    (hother : ∀ other ∈ acceptedLines bufs, other.code.toList <+: tape.remoteParty.toList →
      other.code = areaCode.code) (chunks : List Chunk) :
    (∃ mark, (threadHandler (loadAreaCodesMap bufs) tape chunks).1.audioDirectionMarks =
        mark :: tape.audioDirectionMarks ∧
      mark.audioKeepDirectionEnum = areaCode.sideKept ∧
      mark.audioKeepDirectionEnum ≠ .audioKeepDirectionInvalid) ↔
    ∃ first, ((acceptedLines bufs).find? fun other => other.code = areaCode.code) = some first ∧
      trim first.side.toList = first.side.toList ∧ first.sideKept = areaCode.sideKept := by
  have hvalid : areaCode.sideKept ≠ .audioKeepDirectionInvalid := by
    obtain ⟨line, -, hline⟩ := List.mem_filterMap.mp haccepted
    exact AreaCode.ofLine_sideKept hline
  obtain ⟨first, hfirst⟩ : ∃ first,
      ((acceptedLines bufs).find? fun other => other.code = areaCode.code) = some first := by
    apply Option.isSome_iff_exists.mp
    exact List.find?_isSome.mpr ⟨areaCode, haccepted, by simp⟩
  have hfind : (loadAreaCodesMap bufs).find? areaCode.code = some first.side := by
    rw [find?_loadAreaCodesMap, hfirst, Option.map_some]
  have hside : areaCodeSide (loadAreaCodesMap bufs) tape.remoteParty = some first.side := by
    apply areaCodeSide_of_only hfind hstarts
    intro entry hentry hbegins
    obtain ⟨other, hother', hcode⟩ := exists_acceptedLine hentry
    exact hcode.symm.trans (hother other hother' (hcode ▸ hbegins))
  have hmarked : ∀ mark, (threadHandler (loadAreaCodesMap bufs) tape chunks).1.audioDirectionMarks =
      mark :: tape.audioDirectionMarks →
      mark.audioKeepDirectionEnum = audioKeepDirectionToEnum first.side := by
    intro mark hmark
    rw [threadHandler, insertDefaultKeptSide, hside] at hmark
    rw [← (List.cons.inj hmark).1]
  constructor
  · intro ⟨mark, hmark, hdirection, _⟩
    have hread := (hmarked mark hmark).symm.trans hdirection
    exact ⟨first, hfirst, (AreaCode.toEnum_side hvalid).mp hread⟩
  · intro ⟨other, hother', hbare⟩
    obtain rfl : first = other := Option.some.inj (hfirst.symm.trans hother')
    have hread := (AreaCode.toEnum_side hvalid).mpr hbare
    rw [threadHandler, insertDefaultKeptSide, hside]
    exact ⟨_, rfl, hread, fun hinvalid => hvalid (hread.symm.trans hinvalid)⟩

theorem marked_local :
    ∃ mark, (threadHandler (loadAreaCodesMap ["212:local\n"])
        { audioDirectionMarks := [], audioKeepDirectionEnum := .audioKeepDirectionBoth,
          localSide := some .localSideSide1, remoteParty := "2125551234" } []).1.audioDirectionMarks =
        [mark] ∧
      mark.audioKeepDirectionEnum = AreaCode.sideKept { code := "212", side := "local" } ∧
      mark.audioKeepDirectionEnum ≠ .audioKeepDirectionInvalid := by
  have hlines : acceptedLines ["212:local\n"] = [{ code := "212", side := "local" }] := by
    decide +kernel
  have haccepted : { code := "212", side := "local" } ∈ acceptedLines ["212:local\n"] := by
    rw [hlines]
    exact List.mem_cons_self
  apply (marked_iff_stored_bare haccepted _ _ []).mpr
  · exact ⟨{ code := "212", side := "local" }, by decide +kernel, by decide +kernel, rfl⟩
  · decide +kernel
  · intro other hmem _
    rw [hlines] at hmem
    rw [List.mem_singleton.mp hmem]

/-- A blank behind the colon: the line is accepted as "local" and the mark is invalid. -/
theorem spaced_side_marks_invalid :
    acceptedLines ["212: local\n"] = [{ code := "212", side := " local" }] ∧
      AreaCode.sideKept { code := "212", side := " local" } = .audioKeepDirectionLocal ∧
      (threadHandler (loadAreaCodesMap ["212: local\n"])
        { audioDirectionMarks := [], audioKeepDirectionEnum := .audioKeepDirectionBoth,
          localSide := some .localSideSide1, remoteParty := "2125551234" } []).1.audioDirectionMarks =
        [{ timestamp := 1, audioKeepDirectionEnum := .audioKeepDirectionInvalid }] := by
  decide +kernel

end OrkAudio.DirectionSelector
