import OrkAudio.Lib.ByteSearch
import OrkAudio.Lib.Search
import OrkAudio.Serializer.Text
import OrkAudio.Serializer.Url

/-! The HTTP command interface, up to the command that it finds in a request.

A request is read into a buffer on the stack that is not initialised but for its last byte, and
then searched as a C string. -/

namespace OrkAudio.HttpServer

open Lib hiding Bytes
open Serializer

/-- The size of `buf`. -/
abbrev bufSize : Nat := 2048

/-- The buffer once a request has been received: `initial` is what the memory held before, up to
the NUL in the last byte. -/
def receive (received initial : Bytes) : Bytes :=
  received ++ (initial ++ [0]).drop received.length

inductive Strstr
  | found (place : Nat)
  | notFound
  /-- Neither the pattern nor a NUL ends the search inside the buffer. -/
  | pastBuffer
  deriving DecidableEq, Repr

/-- `strstr` in the memory from some byte of the buffer on. -/
def strstr (memory pattern : Bytes) : Strstr :=
  match search pattern (cStr memory) with
  | some place => .found place
  | none => if 0 ∈ memory then .notFound else .pastBuffer

/-- Why no command is extracted. The search that leaves the buffer has no defined outcome. -/
inductive Refusal
  | notFound | malformedRequest | malformedUrl | pastBuffer
  deriving DecidableEq, Repr

/-- The text that the client is sent. -/
def Refusal.text? : Refusal → Option String
  | .notFound => some "HTTP/1.0 404 not found\r\nContent-type: text/html\r\n\r\nNot found\r\n"
  | .malformedRequest =>
      some ("HTTP/1.0 404 not found\r\nContent-type: text/html\r\n\r\nError\r\n" ++
        "Malformed http request\r\n")
  | .malformedUrl =>
      some ("HTTP/1.0 404 not found\r\nContent-type: text/html\r\n\r\nError\r\n" ++
        "Malformed command URL with invalid character(s)\r\n")
  | .pastBuffer => none

/-- What the rest of the handling goes by. -/
structure Command where
  url : Bytes
  className : Bytes
  singleLineResp : Bool
  deriving DecidableEq, Repr

/-- "GET /" is skipped. -/
abbrev startUrlOffset : Nat := 5

def httpPattern : Bytes := text " HTTP"

def singleLinePattern : Bytes := text "text/single-line"

/-- A `char` that can be part of a URL. -/
def isUrlChar (c : TChar) : Bool := decide (33 ≤ c ∧ c ≤ 126)

/-- Strip the beginning when the command is received as the query of a URL. -/
def stripQuery (url : Bytes) : Bytes :=
  match url.idxOf? (tchar '?') with
  | some queryOffset => if queryOffset > 0 then url.drop (queryOffset + 1) else url
  | none => url

/-- `UrlSerializer::FindClass`: the value of the first parameter, in lower case. -/
def findClass (input : Bytes) : Bytes :=
  match input.idxOf? (tchar '=') with
  | none => []
  | some equalsPostion =>
      match input.idxOf? (tchar '&') with
      | none => Serializer.toLower (input.drop (equalsPostion + 1))
      | some ampersandPostion =>
          if ampersandPostion > equalsPostion then
            Serializer.toLower
              ((input.drop (equalsPostion + 1)).take (ampersandPostion - equalsPostion - 1))
          else Serializer.toLower (input.drop (equalsPostion + 1))

/-- The URL that stands before " HTTP". -/
def urlBefore (memory : Bytes) : Except Refusal Bytes :=
  match strstr memory httpPattern with
  | .pastBuffer => .error .pastBuffer
  | .notFound => .error .malformedRequest
  | .found stopUrl =>
      let url := memory.take stopUrl
      if url.all isUrlChar then .ok (stripQuery url) else .error .malformedUrl

def extractUrl (buf : Bytes) : Except Refusal Bytes := urlBefore (buf.drop startUrlOffset)

def commandOf (url : Bytes) (singleLineResp : Bool) : Command :=
  { url := url, className := findClass url, singleLineResp := singleLineResp }

/-- `HttpServer::HandleHttpMessage`, for at most 2047 bytes. -/
def handleHttpMessage (received initial : Bytes) : Except Refusal Command :=
  if received.length > 5 then
    let buf := receive received initial
    match extractUrl buf with
    | .error refusal => .error refusal
    | .ok url =>
        match strstr buf singleLinePattern with
        | .pastBuffer => .error .pastBuffer
        | .notFound => .ok (commandOf url false)
        | .found _ => .ok (commandOf url true)
  else .error .notFound

/-- `HandleSslHttpMessage`, for at most 2048 bytes: the last one may replace the NUL. -/
def handleSslHttpMessage (received initial : Bytes) : Except Refusal Command :=
  if received.length > 5 then
    match extractUrl (receive received initial) with
    | .error refusal => .error refusal
    | .ok url => .ok (commandOf url false)
  else .error .notFound

end OrkAudio.HttpServer
