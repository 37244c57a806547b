import OrkAudio.Lib.Search
import OrkAudio.SipInvite.FieldSearch

/-! `ExtractKeyValuesData`: values that the configuration names by a header and a key.

A pointer is a place in the memory, which begins with the payload. A view on the memory is given
by where it begins and how long it is. -/

namespace OrkAudio.SipInvite

open Lib

/-! ### Values -/

/-- '=', ':', '<' and '>'. -/
def isAKeySeparator (c : UInt8) : Bool := c == 0x3D || c == 0x3A || c == 0x3C || c == 0x3E

/-- ';', '<', '>' and the ends of lines. -/
def isAFieldSeparator (c : UInt8) : Bool :=
  c == 0x3B || c == 0x3C || c == 0x3E || c == 0x0D || c == 0x0A

def isLineBreak (c : UInt8) : Bool := c == 0x0D || c == 0x0A

/-- What follows a key: `text` goes from there to the limit. -/
def valueFrom (text : Bytes) : Bytes :=
  (text.dropWhile fun c => isAKeySeparator c || c == 0x20).takeWhile fun c =>
    !(isAFieldSeparator c || c == 0)

/-- What follows the first place with the key. -/
def valueOf (key text : Bytes) : Bytes :=
  ((search key text).map fun location => valueFrom (text.drop (location + key.length))).getD []

/-- `header` is the memory from the header's first byte on. -/
def extractKeyValueFromField (header : Bytes) (maxLength : Nat) (key : Bytes) : Bytes :=
  valueOf key ((header.take maxLength).takeWhile fun c => !isLineBreak c)

/-! ### The standard fields -/

/-- `eSearchFieldPositionsEnum`. -/
inductive Field
  | fieldFrom
  | fieldTo
  | fieldReplaces
  | fieldContact
  deriving DecidableEq

namespace Field

def name : Field → Bytes
  | fieldFrom => ascii "from"
  | fieldTo => ascii "to"
  | fieldReplaces => ascii "replaces"
  | fieldContact => ascii "contact"

end Field

abbrev FieldPositions := Field → Option Nat

def memFindEither (toFind other memory : Bytes) (stop : Nat) : Option Nat :=
  (memFindAfter toFind memory 0 stop).or (memFindAfter other memory 0 stop)

/-- `sipFieldPointersArray`. The place of the contact field is that of the replaces field. -/
def sipFieldPointersArray (memory : Bytes) (sipEnd : Nat) : FieldPositions
  | .fieldFrom => memFindEither (ascii "From:") (ascii "\nf:") memory sipEnd
  | .fieldTo => memFindEither (ascii "To:") (ascii "\nt:") memory sipEnd
  | .fieldReplaces => memFindEither (ascii "Replaces:") (ascii "\nr:") memory sipEnd
  | .fieldContact => memFindEither (ascii "Replaces:") (ascii "\nr:") memory sipEnd

/-- `retrieve_field_position_in_payload`: a place that is searched is moved behind the name once
more. -/
def retrieveFieldPosition (memory : Bytes) (payloadSize : Nat) (known : Option Nat)
    (fieldName : Bytes) : Option Nat :=
  known.or ((findAfter fieldName memory payloadSize).map (· + fieldName.length))

def standardField (x : Bytes) : Option Field :=
  [Field.fieldFrom, .fieldTo, .fieldReplaces, .fieldContact].find? fun field =>
    (field.name ++ ascii ".").isPrefixOf x

/-- The value and the places that are known then; no value where the field is not found. -/
def extractStandard (memory : Bytes) (payloadSize : Nat) (known : FieldPositions) (field : Field)
    (key : Bytes) : FieldPositions × Bytes :=
  let position :=
    retrieveFieldPosition memory payloadSize (known field) (field.name ++ ascii ":")
  (Function.update known field position,
    (position.map fun place =>
      extractKeyValueFromField (memory.drop place) (place + payloadSize) key).getD [])

/-! ### The other fields -/

/-- `std::out_of_range` of a view's `substr`. -/
inductive Fault
  | outOfRange
  deriving DecidableEq

/-- The length of the view that a pointer is turned into. -/
def strlen (memory : Bytes) : Nat := (memory.takeWhile (· != 0)).length

def isBlankAt (memory : Bytes) (place : Nat) : Bool :=
  memory[place]? == some 0x20 || memory[place]? == some 0x09

/-- Back over blanks. -/
def skipBack (memory : Bytes) : Nat → Nat
  | 0 => 0
  | tmpPosSubStr + 1 =>
      if isBlankAt memory (tmpPosSubStr + 1) then skipBack memory tmpPosSubStr
      else tmpPosSubStr + 1

/-- `foundExtractionArea`: the name begins a line, and a colon follows it. -/
def foundExtractionArea (keyToLookUp memory : Bytes) (posSubStr : Nat) : Bool :=
  let tmpPosSubStr := skipBack memory posSubStr
  (tmpPosSubStr == 0 || memory[tmpPosSubStr - 1]? == some 0x0A) &&
    memory[posSubStr + keyToLookUp.length]? == some 0x3A

/-- What the search for the field ends with: the memory behind the colon and how much of it is in
the view. -/
inductive Area
  | missing
  | found (memory : Bytes) (size : Nat)
  | outOfRange

/-- The loop over the lines, none when it has run out of `fuel`. -/
def findArea (keyToLookUp : Bytes) : Nat → Bytes → Nat → Option Area
  | 0, _, _ => none
  | fuel + 1, memory, size =>
      if size = 0 then some .missing
      else
        match search keyToLookUp (memory.take size) with
        | none => some .missing
        | some posSubStr =>
            if foundExtractionArea keyToLookUp memory posSubStr then
              let start := posSubStr + keyToLookUp.length + 1
              if size < start then some .outOfRange
              else some (.found (memory.drop start) (size - start))
            else
              match (memory.take size).idxOf? 0x0A with
              | none => some .missing
              | some nextLinePos =>
                  let next := memory.drop (nextLinePos + 1)
                  findArea keyToLookUp fuel next (strlen next)

/-- The value behind a place of the payload. -/
def valueBehind (memory : Bytes) (payloadSize : Nat) (locationInPayload : Nat) : Bytes :=
  valueFrom ((memory.take payloadSize).drop locationInPayload)

/-- The value of a key with the first dot at `dotPosition`. -/
def extractDotted (memory : Bytes) (payloadSize : Nat) (keyToLookUp strToFind : Bytes) :
    Option (Except Fault Bytes) :=
  match findArea keyToLookUp (memory.length + 1) memory payloadSize with
  | none => none
  | some .missing => some (.ok [])
  | some .outOfRange => some (.error .outOfRange)
  | some (.found area size) =>
      some (.ok (((search strToFind (area.take size)).map fun location =>
        valueBehind memory payloadSize
          (memory.length - area.length + location + strToFind.length)).getD []))

def extractSearched (memory : Bytes) (payloadSize : Nat) (x : Bytes) :
    Option (Except Fault Bytes) :=
  match x.idxOf? 0x2E with
  | some dotPosition =>
      extractDotted memory payloadSize (x.take dotPosition) (x.drop (dotPosition + 1))
  | none =>
      some (.ok (((search x (memory.take payloadSize)).map fun location =>
        valueBehind memory payloadSize (location + x.length)).getD []))

/-! ### The loop over the keys -/

def extractKeyValue (memory : Bytes) (payloadSize : Nat) (known : FieldPositions) (x : Bytes) :
    Option (Except Fault (FieldPositions × Bytes)) :=
  match standardField x with
  | some field =>
      some (.ok (extractStandard memory payloadSize known field
        (x.drop (field.name.length + 1))))
  | none => (extractSearched memory payloadSize x).map fun value => value.map (known, ·)

abbrev KeyValueMap := List (Bytes × Bytes)

/-- `emplace`: an entry that is there stays. -/
def emplace (map : KeyValueMap) (key value : Bytes) : KeyValueMap :=
  if (map.lookup key).isSome then map else (key, value) :: map

def extractKeyValuesData (memory : Bytes) (payloadSize : Nat) :
    List Bytes → FieldPositions → KeyValueMap → Option (Except Fault KeyValueMap)
  | [], _, map => some (.ok map)
  | x :: keys, known, map =>
      match extractKeyValue memory payloadSize known x with
      | none => none
      | some (.error fault) => some (.error fault)
      | some (.ok (now, value)) =>
          extractKeyValuesData memory payloadSize keys now
            (if value = [] then map else emplace map x value)

end OrkAudio.SipInvite
