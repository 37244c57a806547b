import OrkAudio.CaptureEvent
import OrkAudio.Lib.ByteSearch
import OrkAudio.Serializer.Text
import OrkAudio.Serializer.Url

/-! The final names of recordings, as `TapeFileNaming` gives them. -/

namespace OrkAudio.TapeFileNaming

open Lib hiding Bytes
open Serializer

/-! ### Tapes and naming schemes -/

/-- What `CONFIG` says of names. -/
structure Config where
  audioOutputPath : Bytes
  tapeFileNaming : List Bytes := []
  tapePathNaming : List Bytes := []
  hostnameReportFqdn : Bool := false

/-- What `OrkGetHostname` and `GetHostFqdn` give. -/
structure Host where
  hostname : Bytes := []
  fqdn : Bytes := []

/-- What `AudioTape` has for its names. -/
structure AudioTape where
  audioOutputPath : Bytes
  filePath : Bytes
  fileIdentifier : Bytes
  fileExtension : Bytes
  orkUid : Bytes
  nativeCallId : Bytes := []
  trackingId : Bytes := []
  direction : Direction := .dirUnkn
  remoteParty : Bytes := []
  localParty : Bytes := []
  localEntryPoint : Bytes := []
  localIp : Bytes := []
  remoteIp : Bytes := []
  year : Bytes := []
  day : Bytes := []
  month : Bytes := []
  hour : Bytes := []
  min : Bytes := []
  sec : Bytes := []
  tags : OrderedMap Bytes Bytes := .empty

inductive TapeAttribute
  | taUnknown | taNativeCallId | taTrackingId | taDirection | taShortDirection | taRemoteParty
  | taLocalParty | taLocalEntryPoint | taLocalIp | taRemoteIp | taHostname | taYear | taDay
  | taMonth | taHour | taMin | taSec
  deriving DecidableEq

/-- The texts that `TapeAttributeToEnum` compares with, in its order. -/
def attributeTexts : List (Bytes × TapeAttribute) :=
  [(text "[nativecallid]", .taNativeCallId), (text "[trackingid]", .taTrackingId),
   (text "[direction]", .taDirection), (text "[shortdirection]", .taShortDirection),
   (text "[remoteparty]", .taRemoteParty), (text "[localparty]", .taLocalParty),
   (text "[localentrypoint]", .taLocalEntryPoint), (text "[localip]", .taLocalIp),
   (text "[remoteip]", .taRemoteIp), (text "[hostname]", .taHostname), (text "[year]", .taYear),
   (text "[day]", .taDay), (text "[month]", .taMonth), (text "[hour]", .taHour),
   (text "[min]", .taMin), (text "[sec]", .taSec)]

def tapeAttributeToEnum (ta : Bytes) : TapeAttribute :=
  match attributeTexts.find? fun entry => sameNoCase ta entry.1 with
  | some entry => entry.2
  | none => .taUnknown

def directionToShortString : Direction → String
  | .dirIn => "I"
  | .dirOut => "O"
  | .dirUnkn => "U"

/-- A value, or the text for a missing one. -/
def orMissing (value : Bytes) (missing : String) : Bytes :=
  if value = [] then text missing else value

namespace AudioTape

variable (tape : AudioTape)

/-- An element that is no attribute: the tag it names between its brackets, or its own text.
`substr` throws for the empty element. -/
def unknownText (element : Bytes) : Option Bytes :=
  if element = [] then none
  else
    let correctKey := (element.drop 1).take (element.length - 2)
    some ((tape.tags.find? correctKey).getD element)

/-- What the switch of the naming loops adds for an element. -/
def elementText (hostname : Bytes) (element : Bytes) : Option Bytes :=
  match tapeAttributeToEnum element with
  | .taNativeCallId => some (orMissing tape.nativeCallId "nonativecallid")
  | .taTrackingId => some (orMissing tape.trackingId "notrackingid")
  | .taDirection => some (text (directionToString tape.direction))
  | .taShortDirection => some (text (directionToShortString tape.direction))
  | .taRemoteParty => some (orMissing tape.remoteParty "noremoteparty")
  | .taLocalParty => some (orMissing tape.localParty "nolocalparty")
  | .taLocalEntryPoint => some (orMissing tape.localEntryPoint "nolocalentrypoint")
  | .taLocalIp => some (orMissing tape.localIp "nolocalip")
  | .taRemoteIp => some (orMissing tape.remoteIp "noremoteip")
  | .taHostname => some (orMissing hostname "nohostname")
  | .taYear => some tape.year
  | .taDay => some tape.day
  | .taMonth => some tape.month
  | .taHour => some tape.hour
  | .taMin => some tape.min
  | .taSec => some tape.sec
  | .taUnknown => tape.unknownText element

/-- A naming loop. -/
def namingText (hostname : Bytes) : List Bytes → Option Bytes
  | [] => some []
  | element :: elements => do
      let first ← tape.elementText hostname element
      let others ← namingText hostname elements
      return first ++ others

end AudioTape

/-! ### Escaping -/

/-- `file_ok_chars`. -/
def fileOkChars : Bytes :=
  text "-.0123456789@ABCDEFGHIJKLMNOPQRSTUVWXYZ_abcdefghijklmnopqrstuvwxyz"

/-- `strchr(file_ok_chars, ..)`, which finds the terminator of the string as well. -/
def isFileOk (c : TChar) : Bool := c = 0 || fileOkChars.contains c

def escapeChar (c : TChar) : Bytes :=
  if isFileOk c then [c]
  else [tchar '%', Url.hexDigit (c.val / 16), Url.hexDigit (c.val % 16)]

def fileEscapeName (name : Bytes) : Bytes := name.flatMap escapeChar

/-! ### Files -/

/-- The name of the file that a path denotes: repeated slashes are one, and what follows a
terminator is not seen. -/
def squeeze : Bytes → Bytes
  | [] => []
  | [c] => [c]
  | c :: d :: rest =>
      if c = tchar '/' ∧ d = tchar '/' then squeeze (d :: rest) else c :: squeeze (d :: rest)

def fileOf (path : Bytes) : Bytes := squeeze (cStr path)

/-- The names of the files there are; each can be opened. -/
abbrev Files := Bytes → Bool

def fileCanOpen (files : Files) (path : Bytes) : Bool := files (fileOf path)

/-- `%d` of an index. -/
def decimal (n : Nat) : Bytes := (Nat.toDigits 10 n).map tchar

/-- The path that is tried for a file index. -/
def indexedFile (path identifier extension : Bytes) (fileIndex : Nat) : Bytes :=
  if fileIndex = 0 then path ++ identifier ++ extension
  else path ++ (cStr identifier ++ text "-" ++ decimal fileIndex) ++ extension

/-- The loop of `PreventFileIdentifierCollision` from an index on. -/
def freeIndex (files : Files) (path identifier extension : Bytes) :
    (fuel fileIndex : Nat) → Option Nat
  | 0, _ => none
  | fuel + 1, fileIndex =>
      if fileCanOpen files (indexedFile path identifier extension fileIndex) then
        freeIndex files path identifier extension fuel (fileIndex + 1)
      else some fileIndex

namespace AudioTape

/-- What the identifier becomes where its file exists. -/
def suffixed (tape : AudioTape) : Bytes := tape.fileIdentifier ++ (text "-" ++ tape.orkUid)

/-- `PreventFileIdentifierCollision` of the tape's identifier and extension. -/
def preventFileIdentifierCollision (files : Files) (fuel : Nat) (path : Bytes)
    (tape : AudioTape) : Option AudioTape := do
  let fileIndex ← freeIndex files path tape.fileIdentifier tape.fileExtension fuel 0
  return if fileIndex = 0 then tape else { tape with fileIdentifier := tape.suffixed }

def getFilename (tape : AudioTape) : Bytes :=
  tape.filePath ++ tape.fileIdentifier ++ tape.fileExtension

end AudioTape

/-! ### Final names -/

namespace Config

variable (cfg : Config) (host : Host) (tape : AudioTape)

/-- The identifier part of `GenerateFinalFilePathAndIdentifier`. -/
def generateFinalIdentifier : Option AudioTape :=
  if cfg.tapeFileNaming.length > 0 then
    (tape.namingText host.hostname cfg.tapeFileNaming).map fun fileIdentifier =>
      if fileIdentifier.length > 0 then
        { tape with fileIdentifier := fileEscapeName fileIdentifier }
      else tape
  else some tape

/-- `GenerateFinalFilePath`, as far as the tape goes. -/
def generateFinalFilePath : Option AudioTape :=
  if cfg.tapePathNaming.length > 0 then
    let hostname := if !cfg.hostnameReportFqdn then host.hostname else host.fqdn
    (tape.namingText hostname cfg.tapePathNaming).map fun pathIdentifier =>
      if pathIdentifier.length > 0 then { tape with filePath := pathIdentifier } else tape
  else some tape

/-- One of the two schemes is configured. -/
def isNaming : Bool := cfg.tapePathNaming.length > 0 || cfg.tapeFileNaming.length > 0

/-- The tape with the names that the schemes give. -/
def named : Option AudioTape :=
  (cfg.generateFinalIdentifier host tape).bind (cfg.generateFinalFilePath host)

/-- The directory that is searched for a file of the tape's name. -/
def searchedPath : Bytes := cfg.audioOutputPath ++ text "/" ++ tape.filePath ++ text "/"

def generateFinalFilePathAndIdentifier (files : Files) (fuel : Nat) : Option AudioTape :=
  (cfg.named host tape).bind fun t =>
    if cfg.isNaming then t.preventFileIdentifierCollision files fuel (cfg.searchedPath t)
    else some t

/-- The renaming in `TapeFileNaming::ThreadHandler`: from the original to the new name, none
where they are the same. -/
def rename (files : Files) (fuel : Nat) : Option (Option (Bytes × Bytes)) :=
  let originalFilename := tape.audioOutputPath ++ text "/" ++ tape.getFilename
  (cfg.generateFinalFilePathAndIdentifier host tape files fuel).map fun t =>
    let newFilename := t.audioOutputPath ++ text "/" ++ t.getFilename
    if originalFilename ≠ newFilename then some (originalFilename, newFilename) else none

end Config

end OrkAudio.TapeFileNaming
