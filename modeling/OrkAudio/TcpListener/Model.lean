import OrkAudio.Lib.Buffer
import OrkAudio.Lib.LittleEndian

/-! Packets in the Oreka encapsulation on a TCP connection, as `HandleTcpConnection` reads
them. -/

namespace OrkAudio.TcpListener

open Lib

/-! ### The socket -/

/-- How a stream ends: every `recv` after the last byte gives 0 or -1. -/
inductive Ending
  | closed
  | error

/-- What a connection has still to give. A request of some bytes gets at least one of them,
and the first of `chop` says how many at most. -/
structure Socket where
  bytes : List UInt8
  chop : Nat → Nat
  ending : Ending

namespace Socket

variable (s : Socket)

/-- `recv`: what it returns, the bytes it writes, and the socket after it. -/
def recv (len : Nat) : Int × List UInt8 × Socket :=
  if len = 0 then (0, [], s)
  else if s.bytes = [] then
    match s.ending with
    | .closed => (0, [], s)
    | .error => (-1, [], s)
  else
    let count := min len (s.chop 0 + 1)
    ((s.bytes.take count).length, s.bytes.take count,
      { s with bytes := s.bytes.drop count, chop := fun k => s.chop (k + 1) })

end Socket

/-! ### The two loops that read -/

/-- The variables of a loop that reads a header or a payload. -/
structure Reading where
  size : Int
  wantedLen : Int
  bufferPos : Int
  buf : Nat → UInt8
  socket : Socket

/-- The first `recv` of `len` bytes, to the position `pos` of the buffer. -/
def startReading (s : Socket) (buf : Nat → UInt8) (pos len : Nat) : Reading :=
  let received := s.recv len
  { size := received.1
    wantedLen := len
    bufferPos := pos + received.1
    buf := Buffer.written buf pos received.2.1
    socket := received.2.2 }

/-- `while(size != wantedLen)`: whether the connection is given up, and the variables. -/
def readLoop : Nat → Reading → Option (Bool × Reading)
  | 0, _ => none
  | fuel + 1, r =>
      if r.size = r.wantedLen then some (false, r)
      else if r.size > r.wantedLen ∨ r.size = 0 ∨ r.size < 0 then some (true, r)
      else
        let wantedLen := r.wantedLen - r.size
        let received := r.socket.recv wantedLen.toNat
        readLoop fuel
          { size := received.1
            wantedLen := wantedLen
            bufferPos := r.bufferPos + received.1
            buf := Buffer.written r.buf r.bufferPos.toNat received.2.1
            socket := received.2.2 }

def read (fuel : Nat) (s : Socket) (buf : Nat → UInt8) (pos len : Nat) : Option (Bool × Reading) :=
  readLoop fuel (startReading s buf pos len)

/-! ### The header -/

/-- `sizeof(OrkEncapsulationStruct)`. -/
def encapsulationSize : Nat := 9

def ntohs (high low : UInt8) : Nat := high.toNat * 256 + low.toNat

def protocol (buf : Nat → UInt8) : Nat := ntohs (buf 0) (buf 1)

def version (buf : Nat → UInt8) : Nat := (buf 2).toNat

def totalPacketLength (buf : Nat → UInt8) : Nat := ntohs (buf 7) (buf 8)

/-- `s_mtuMaxSize - sizeof(OrkEncapsulationStruct)`, which is unsigned. -/
def payloadLimit (mtuMaxSize : Nat) : Nat :=
  if encapsulationSize ≤ mtuMaxSize then mtuMaxSize - encapsulationSize
  else 18446744073709551616 + mtuMaxSize - encapsulationSize

/-! ### The connection -/

/-- A call of `HandlePacket`. -/
structure HandledPacket where
  caplen : Nat
  packet : List UInt8
  deriving DecidableEq

/-- What the calls of `time` and `send` return, by their number. -/
structure Env where
  time : Nat → Int
  send : Nat → Int

structure Connection where
  socket : Socket
  keepAliveTimer : Int
  timeCalls : Nat
  sendCalls : Nat

/-- Send four bytes every five seconds; `none` when that fails. -/
def keepAlive (env : Env) (c : Connection) : Option Connection :=
  if env.time c.timeCalls - c.keepAliveTimer > 5 then
    if env.send c.sendCalls ≠ 4 then none
    else
      some
        { c with
          keepAliveTimer := env.time (c.timeCalls + 1)
          timeCalls := c.timeCalls + 2
          sendCalls := c.sendCalls + 1 }
  else some { c with timeCalls := c.timeCalls + 1 }

/-- The outer loop: the packets that are handled until the connection ends. -/
def connectionLoop (mtuMaxSize : Nat) (env : Env) (readFuel : Nat) :
    Nat → Connection → Option (List HandledPacket)
  | 0, _ => none
  | fuel + 1, c =>
      match read readFuel c.socket (fun _ => 0) 0 encapsulationSize with
      | none => none
      | some (stopped, header) =>
          if header.bufferPos ≠ encapsulationSize then some []
          else if protocol header.buf ≠ 0xbeef ∨ version header.buf ≠ 1 then some []
          else if totalPacketLength header.buf > payloadLimit mtuMaxSize then some []
          else
            match read readFuel header.socket header.buf encapsulationSize
              (totalPacketLength header.buf) with
            | none => none
            | some (stoppedInside, r) =>
                let length := totalPacketLength r.buf
                if r.bufferPos ≠ encapsulationSize + length then some []
                else
                  let handled : HandledPacket :=
                    { caplen := length, packet := Ring.slice r.buf encapsulationSize length }
                  match keepAlive env { c with socket := r.socket } with
                  | none => some [handled]
                  | some c =>
                      if stopped || stoppedInside then some [handled]
                      else (connectionLoop mtuMaxSize env readFuel fuel c).map (handled :: ·)

/-- `HandleTcpConnection`; every turn of a loop but the last takes bytes. -/
def handleTcpConnection (mtuMaxSize : Nat) (env : Env) (s : Socket) :
    Option (List HandledPacket) :=
  connectionLoop mtuMaxSize env (s.bytes.length + 1) (s.bytes.length + 1)
    { socket := s, keepAliveTimer := env.time 0, timeCalls := 1, sendCalls := 0 }

end OrkAudio.TcpListener
