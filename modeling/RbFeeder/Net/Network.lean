import RbFeeder.Net.Reader
import RbFeeder.Lib.Runs

/-! The clients of the network services and the writers they share, in `net_io.c`.

A service counts its clients and may have a writer; the writer collects frames in
one buffer, and `flushWrites` writes that buffer to every client of the service. A
client whose `write` is not complete is closed then and there: its `service` becomes
NULL, and it stays in `Modes.clients` until it is pruned.

What the sockets do is given by an `Environment`. Dereferencing a NULL pointer is a
`Fault`. The state also has a log of what happened at the sockets and in the shared
buffers; no function reads it. -/
namespace RbFeeder.Net
open ModeS (Byte)

/-! ### Services -/

/-- The functions that are passed to `serviceInit` as read handlers. All of them
return 0. -/
inductive ReadHandler
  | handleBeastCommand
  | decodeHexMessage
  | decodeBinMessage
  | handleFaupCommand
deriving DecidableEq

/-- The services that `serviceInit` is called for. The outputs are set up once; an
input may be set up anew for each connection that the program makes. -/
inductive Service
  | rawOutput
  | beastCooked
  | beastVerbatim
  | basestation
  | stratux
  | fatsv
  | rawInput (n : Nat)
  | beastInput (n : Nat)
  | faCmdInput (n : Nat)
deriving DecidableEq

namespace Service

/-- Whether the service has a writer. -/
def writer : Service → Bool
  | rawOutput | beastCooked | beastVerbatim | basestation | stratux | fatsv => true
  | rawInput _ | beastInput _ | faCmdInput _ => false

def read_mode : Service → ReadMode
  | rawOutput | basestation | stratux | fatsv => .ignore
  | beastCooked | beastVerbatim => .beastCommand
  | rawInput _ | faCmdInput _ => .ascii newline
  | beastInput _ => .beast

def read_handler : Service → Option ReadHandler
  | rawOutput | basestation | stratux | fatsv => none
  | beastCooked | beastVerbatim => some .handleBeastCommand
  | rawInput _ => some .decodeHexMessage
  | beastInput _ => some .decodeBinMessage
  | faCmdInput _ => some .handleFaupCommand

end Service

/-! ### The state -/

/-- A pointer to a client. -/
abbrev ClientId := Nat

/-- `struct client` without its read buffer. -/
structure Client where
  fd : Int
  service : Option Service
  modeac_requested : Bool
deriving DecidableEq

/-- What is logged. -/
inductive Event
  | attach (c : ClientId) (s : Service)
  /-- `closed` if the client was closed, else it went to another service. -/
  | detach (c : ClientId) (s : Service) (closed : Bool) (data : List Byte)
  /-- `write` was called with `data` and returned `nwritten`. -/
  | write (c : ClientId) (data : List Byte) (nwritten : Int)
  /-- `prepareWrite` gave out `len` bytes of the buffer from `dataUsed` on. -/
  | prepare (s : Service) (dataUsed len : Nat)
  /-- `completeWrite` was called for a frame that starts at `dataUsed`. -/
  | complete (s : Service) (dataUsed : Nat) (frame : List Byte)
deriving DecidableEq

structure Network where
  client : ClientId → Client
  /-- `Modes.clients`, from the head on. -/
  clients : List ClientId
  /-- What the next `malloc` of a client returns. -/
  malloc : ClientId
  connections : Service → Int
  /-- The used part of `writer->data`; its length is `writer->dataUsed`. -/
  data : Service → List Byte
  mode_ac : Bool
  /-- How many times `flushWrites` was called. -/
  flushes : Nat
  /-- How many messages the decoding handlers were called with. -/
  decoded : Nat
  /-- The latest event is the first. -/
  log : List Event

/-- How `write` ends: the socket takes what it has room for, or the call fails. -/
inductive WriteResult
  | takes (room : Nat)
  | fails
deriving DecidableEq

/-- The return value of `write(fd, data, dataUsed)`. -/
def WriteResult.nwritten : WriteResult → Nat → Int
  | takes room, dataUsed => min room dataUsed
  | fails, _ => -1

/-- A write to a service's buffer: the length passed to `prepareWrite`, and the
bytes up to where `completeWrite` is called, unless it is not called. -/
structure Frame where
  reserve : Nat
  bytes : Option (List Byte)
  fits : ∀ frame ∈ bytes, frame.length ≤ reserve

/-- The settings of the program, and what comes to the network from outside. -/
structure Environment where
  mode_ac_auto : Bool
  net_output_flush_size : Nat
  /-- What the socket of a client does in the `n`-th flush. -/
  write : Nat → ClientId → WriteResult
  /-- What is written to the services' buffers while the `n`-th message is decoded. -/
  output : Nat → List (Service × Frame)

inductive Fault
  | nullService
  | nullHandler
deriving DecidableEq

/-- `MODES_OUT_BUF_SIZE`. -/
def outBufSize : Nat := 1500

namespace Network

/-- After `modesInitNet`. -/
def init : Network where
  client _ := ⟨-1, none, false⟩
  clients := []
  malloc := 0
  connections _ := 0
  data _ := []
  mode_ac := false
  flushes := 0
  decoded := 0
  log := []

def service (net : Network) (c : ClientId) : Option Service := (net.client c).service

def record (net : Network) (event : Event) : Network := { net with log := event :: net.log }

def setClient (net : Network) (c : ClientId) (r : Client) : Network :=
  { net with client := Function.update net.client c r }

/-- `s->connections += n`. -/
def addConnections (net : Network) (s : Service) (n : Int) : Network :=
  { net with connections := Function.update net.connections s (net.connections s + n) }

def setData (net : Network) (s : Service) (data : List Byte) : Network :=
  { net with data := Function.update net.data s data }

variable (env : Environment)

/-! ### Closing and writing -/

def autoset_modeac (net : Network) : Network :=
  if env.mode_ac_auto then
    { net with mode_ac := net.clients.any fun c => (net.client c).modeac_requested }
  else net

def modesCloseClient (net : Network) (c : ClientId) : Network :=
  match net.service c with
  | none => net
  | some s =>
    (((net.addConnections s (-1)).setClient c ⟨-1, none, false⟩).record
      (.detach c s true (net.data s))).autoset_modeac env

/-- The body of the loop of `flushWrites`. -/
def flushClient (s : Service) (net : Network) (c : ClientId) : Network :=
  if net.service c = some s then
    let nwritten := (env.write net.flushes c).nwritten (net.data s).length
    let net := net.record (.write c (net.data s) nwritten)
    if nwritten ≠ (net.data s).length then net.modesCloseClient env c else net
  else net

/-- `flushWrites(writer)`, for the writer of `s`. -/
def flushWrites (net : Network) (s : Service) : Network :=
  let net := net.clients.foldl (flushClient env s) net
  { net.setData s [] with flushes := net.flushes + 1 }

/-- `none` if `prepareWrite` returns NULL. -/
def prepareWrite (net : Network) (s : Service) (len : Nat) : Option Network :=
  if s.writer = false ∨ net.connections s = 0 then none
  else if len > outBufSize then none
  else
    let net := if (net.data s).length + len ≥ outBufSize then net.flushWrites env s else net
    some (net.record (.prepare s (net.data s).length len))

def completeWrite (net : Network) (s : Service) (frame : List Byte) : Network :=
  let net := (net.setData s (net.data s ++ frame)).record (.complete s (net.data s).length frame)
  if (net.data s).length ≥ env.net_output_flush_size then net.flushWrites env s else net

/-- A use of the buffer, from `prepareWrite` to `completeWrite`. -/
def queue (net : Network) (s : Service) (frame : Frame) : Network :=
  match net.prepareWrite env s frame.reserve with
  | none => net
  | some net =>
    match frame.bytes with
    | none => net
    | some bytes => net.completeWrite env s bytes

/-! ### Moving a client -/

/-- `if (service->writer) flushWrites(service->writer);` -/
def flushService (net : Network) (s : Service) : Network :=
  if s.writer then net.flushWrites env s else net

/-- `if (c->service) { ... }` in `moveNetClient`. -/
def leaveService (net : Network) (c : ClientId) : Except Fault Network :=
  match net.service c with
  | none => .ok net
  | some s =>
    let net := net.flushService env s
    -- `--c->service->connections`; the flush may have closed the client
    match net.service c with
    | none => .error .nullService
    | some s => .ok ((net.addConnections s (-1)).record (.detach c s false (net.data s)))

/-- `if (new_service) { ... }` in `moveNetClient`, and the assignment. -/
def enterService (net : Network) (c : ClientId) (new_service : Option Service) : Network :=
  match new_service with
  | none => net.setClient c { net.client c with service := none }
  | some s =>
    let net := (net.flushService env s).addConnections s 1
    (net.setClient c { net.client c with service := some s }).record (.attach c s)

def moveNetClient (net : Network) (c : ClientId) (new_service : Option Service) :
    Except Fault Network :=
  if net.service c = new_service then .ok net
  else (net.leaveService env c).map fun net => net.enterService env c new_service

/-- `createGenericClient(service, fd)`, for a file descriptor. -/
def createGenericClient (net : Network) (s : Service) (fd : Nat) : Except Fault Network :=
  let c := net.malloc
  let net := { net with clients := c :: net.clients, malloc := c + 1 }
  (net.setClient c ⟨fd, none, false⟩).moveNetClient env c (some s)

/-- `j` and `J`. -/
def requestModeac (net : Network) (c : ClientId) (requested : Bool) : Network :=
  (net.setClient c { net.client c with modeac_requested := requested }).autoset_modeac env

def handleBeastCommand (net : Network) (c : ClientId) (p : List Byte) : Except Fault Network :=
  if p.headD 0 ≠ 0x31 then .ok net
  else
    let command := (p.drop 1).headD 0
    if command = 0x6a then .ok (net.requestModeac env c false)
    else if command = 0x4a then .ok (net.requestModeac env c true)
    else if command = 0x76 then net.moveNetClient env c (some .beastCooked)
    else if command = 0x56 then net.moveNetClient env c (some .beastVerbatim)
    else .ok net

/-! ### Reading -/

/-- A message is decoded, and others are written to the output services. -/
def decode (net : Network) : Network :=
  (env.output net.decoded).foldl (fun net out => net.queue env out.1 out.2)
    { net with decoded := net.decoded + 1 }

/-- `c->service->read_handler(c, p)`. -/
def callHandler (c : ClientId) (net : Network) (p : List Byte) : Except Fault Network :=
  match net.service c with
  | none => .error .nullService
  | some s =>
    match s.read_handler with
    | none => .error .nullHandler
    | some .handleBeastCommand => net.handleBeastCommand env c p
    | some _ => .ok (net.decode env)

/-- A call of the handler; the ASCII loop looks at `c->service->read_sep` after it. -/
def handleMessage (mode : ReadMode) (c : ClientId) (net : Network) (p : List Byte) :
    Except Fault Network :=
  (callHandler env c net p).bind fun net =>
    match mode, net.service c with
    | .ascii _, none => .error .nullService
    | _, _ => .ok net

/-- `modesReadFromClient(c)`: the network and the client's read buffer. -/
def modesReadFromClient (c : ClientId) (net : Network) (buf : List Byte) :
    List ReadResult → Except Fault (Network × List Byte)
  | [] => .ok (net, buf)
  | .eof :: _ | .error :: _ => .ok (net.modesCloseClient env c, keepBuffer buf)
  | .again :: _ => .ok (net, keepBuffer buf)
  | .data bytes :: results =>
    match net.service c with
    | none => .error .nullService
    | some s =>
      let (calls, left, more) := readRound s.read_mode buf bytes
      (Runs.run (handleMessage env s.read_mode c) net calls).bind fun net =>
        if more then modesReadFromClient c net left results else .ok (net, left)

/-- The end of `modesNetPeriodicWork`: closed clients are unlinked and freed. -/
def prune (net : Network) : Network :=
  { net with clients := net.clients.filter fun c => (net.client c).fd ≠ -1 }

end Network

/-! ### Runs -/

/-- The network and the read buffers of its clients. -/
structure System where
  net : Network
  buf : ClientId → List Byte

/-- What may happen next. `read` is an iteration of the loop in
`modesNetPeriodicWork` that reads from the clients; `command` and `move` are the
calls that are made for an active client while it is read from. -/
inductive Op
  | create (s : Service) (fd : Nat)
  | close (c : ClientId)
  | flush (s : Service)
  | queue (s : Service) (frame : Frame)
  | command (c : ClientId) (p : List Byte)
  | move (c : ClientId) (s : Service)
  | read (c : ClientId) (results : List ReadResult)
  | prune

namespace System

def init : System := ⟨.init, fun _ => []⟩

def active (sys : System) (c : ClientId) : Prop :=
  c ∈ sys.net.clients ∧ sys.net.service c ≠ none

instance (sys : System) (c : ClientId) : Decidable (sys.active c) := instDecidableAnd

/-- The handler of the client's service. -/
def handler (sys : System) (c : ClientId) : Option ReadHandler :=
  (sys.net.service c).bind Service.read_handler

def step (env : Environment) (sys : System) : Op → Except Fault System
  | .create s fd =>
    (sys.net.createGenericClient env s fd).map fun net =>
      ⟨net, Function.update sys.buf sys.net.malloc []⟩
  | .close c => .ok { sys with net := sys.net.modesCloseClient env c }
  | .flush s => .ok { sys with net := sys.net.flushService env s }
  | .queue s frame => .ok { sys with net := sys.net.queue env s frame }
  | .command c p =>
    if sys.active c ∧ sys.handler c = some .handleBeastCommand then
      (sys.net.handleBeastCommand env c p).map fun net => { sys with net := net }
    else .ok sys
  | .move c s =>
    if sys.active c then
      (sys.net.moveNetClient env c (some s)).map fun net => { sys with net := net }
    else .ok sys
  | .read c results =>
    if sys.active c ∧ sys.handler c ≠ none then
      (sys.net.modesReadFromClient env c (sys.buf c) results).map fun out =>
        ⟨out.1, Function.update sys.buf c out.2⟩
    else .ok sys
  | .prune => .ok { sys with net := sys.net.prune }

end System

/-! ### What is written to the Beast services -/

theorem length_writeBeastMessage (timestamp : BitVec 64) (signalLevel : SignalLevel)
    (msg : List Byte) : ∀ frame ∈ writeBeastMessage timestamp signalLevel msg,
      frame.length ≤ beastReserve msg.length := by
  intro frame hframe
  obtain ⟨type, -, rfl⟩ := Option.map_eq_some_iff.mp hframe
  have := length_escapeBytes (timestampBytes timestamp ++ [signalLevel.sig] ++ msg)
  simp only [List.length_append, timestampBytes, List.length_map, List.length_cons, List.length_nil,
    beastReserve] at this ⊢
  omega

/-- `writeBeastMessage(writer, timestamp, signalLevel, msg, msgLen)`. -/
def beastFrame (timestamp : BitVec 64) (signalLevel : SignalLevel) (msg : List Byte) : Frame where
  reserve := beastReserve msg.length
  bytes := writeBeastMessage timestamp signalLevel msg
  fits := length_writeBeastMessage timestamp signalLevel msg

/-- `heartbeat_message` of `send_beast_heartbeat`. -/
def heartbeatFrame : Frame where
  reserve := 11
  bytes := some [0x1a, 0x31, 0, 0, 0, 0, 0, 0, 0, 0, 0]
  fits := by
    intro frame hgiven
    obtain ⟨⟩ := hgiven
    decide

end RbFeeder.Net
