import RbFeeder.Airnav.SendPacket

/-! The session with the server: the threads that share its socket.

The monitor connects, logs in and pings; the receiver handles what the server replies; the
others send flights and statistics. They share the socket, the flag `airnav_com_inited` and
the reply that is waited for, and any of them ends the session when it cannot send. Only
the last of the three is behind a mutex. A thread is the list of what it does next to these
variables: each assignment, each call on the socket and each critical section is one step,
and the threads take their steps in any order. The lists are the source's statements, in
their order.

A call on the socket reads the variable when it is made. What the server replies, and
whether a call succeeds on a connection that is up, is up to the environment; a `send` that
takes fewer bytes than it is given counts as one that takes them all, as in the source, and
`uname` does not fail. The configuration file is reduced to the sharing key. -/
namespace RbFeeder.Airnav
open ModeS (Byte)

/-- `ServerReply__ReplyStatus`. -/
inductive ReplyStatus
  | notOk
  | ok
  | error
  | other
  | authOk
  | authError
  | skCreateOk
  | skCreateError
  | authInternalError
  | authClientMinVersionError
deriving DecidableEq

/-- What is read of a `ServerReply`. -/
structure ServerReply where
  status : ReplyStatus
  id : Option Int := none
  sk : Option (List Byte) := none
  sn : Option (List Byte) := none
deriving DecidableEq

/-- The threads; there may be any number of those that only send. -/
inductive Thread (ι : Type)
  | monitor
  | receiver
  | sender (i : ι)
deriving DecidableEq

/-- What has become of a socket. -/
inductive Status
  | created
  | connected
  | closed
deriving DecidableEq

/-! ### Statements -/

inductive Statement
  /-- `close(airnav_socket)`. -/
  | close
  /-- `airnav_socket = -1`. -/
  | forget
  /-- `airnav_com_inited = 0`. -/
  | uninit
  /-- `airnav_com_inited = 1`. -/
  | init
  /-- `airnav_socket = socket(...)`. -/
  | create
  /-- `connect(airnav_socket, ...)`. -/
  | connect
  /-- The tests in front of a request, one of them on the serial number. -/
  | ready (serial : Bool)
  /-- One of the four calls of `send` in `net_send_packet`. -/
  | send (type : MessageTypes) (part : Nat)
  /-- `net_waitCmd`, up to its loop. -/
  | expect (cmd : ReplyStatus) (id : Int)
  /-- A round of the loop of `net_waitCmd`. -/
  | await (cmd : ReplyStatus)
  /-- `if (airnav_com_inited != 1) return`. -/
  | version
  /-- `if (airnav_socket == -1) return`. -/
  | ping
  /-- `ini_saveGeneric(configuration_file, "client", "key", sk)`. -/
  | save (sk : List Byte)
  /-- The critical section of `proccess_ServerReplyPacket`. -/
  | answer (reply : ServerReply)
deriving DecidableEq

namespace Statement

/-- `net_force_disconnect()`. -/
def net_force_disconnect : List Statement := [close, forget, uninit]

/-- `net_send_packet(packet)`: what it returns is only looked at to count packets. -/
def net_send_packet (type : MessageTypes) : List Statement := [send type 0]

/-- Where `net_initial_com` gives up, and where it ends when it has got a new key. -/
def giveUp : List Statement := [uninit, close, forget]

/-- `net_sendSystemVersion()`. -/
def net_sendSystemVersion : List Statement := version :: net_send_packet .sysinfo

/-- `sendKey()`, and what follows when the key is accepted. -/
def sendKey : List Statement :=
  ready true :: net_send_packet .authFeeder ++ [expect .authOk 2, await .authOk, init] ++ net_sendSystemVersion

/-- `sendKeyRequest()`, and what follows. -/
def sendKeyRequest : List Statement :=
  ready false :: net_send_packet .skRequest ++ [expect .skCreateOk 3, await .skCreateOk] ++ giveUp

/-- `net_initial_com()`, with this key in the configuration. -/
def net_initial_com (sharing_key : List Byte) : List Statement :=
  if 0 < sharing_key.length ∧ sharing_key.length < 32 then giveUp
  else [close, create, connect] ++ if sharing_key.length = 0 then sendKeyRequest else sendKey

/-- `sendPing()`. -/
def sendPing : List Statement := ping :: net_send_packet .pingpong

/-- `proccess_ServerReplyPacket`; `none` is a packet that cannot be unpacked. -/
def proccess_ServerReplyPacket : Option ServerReply → List Statement
  | none => net_force_disconnect
  | some reply =>
    (if reply.status = .skCreateOk then
      match reply.sk, reply.sn with
      | some sk, some _ => [save sk]
      | _, _ => net_force_disconnect
    else []) ++ answer reply ::
      if reply.status = .authError ∨ reply.status = .authClientMinVersionError ∨ reply.status = .skCreateError then
        net_force_disconnect
      else []

end Statement

open Statement

/-! ### States -/

/-- What has happened: a `send` that took its bytes, and a reply that was waited for. -/
inductive Event (ι : Type)
  | sent (thread : Thread ι) (connection : Nat) (type : MessageTypes) (part : Nat)
  | answered (status : ReplyStatus)
deriving DecidableEq

/-- The variables that the threads share, the sockets they stand for, numbered in their order, and what has happened. -/
structure Shared (ι : Type) where
  airnav_socket : Option Nat
  airnav_com_inited : Bool
  expected : ReplyStatus
  expected_arrived : Bool
  expected_id : Int
  key : List Byte
  created : Nat
  status : Nat → Status
  log : List (Event ι)

section Steps
variable {ι : Type}

/-- Whether a reply is the one that is waited for. -/
def Shared.matches (s : Shared ι) (reply : ServerReply) : Bool :=
  match reply.id with
  | some id => if s.expected_id > 0 then reply.status = s.expected ∧ s.expected_id = id else reply.status = s.expected
  | none => reply.status = s.expected

def Shared.setStatus (s : Shared ι) (connection : Nat) (status : Status) : Shared ι :=
  { s with status := fun c => if c = connection then status else s.status c }

/-- A thread takes a step: the variables, and what it does next. Where the environment has a choice, `ok` is what it
chooses. -/
def Shared.take (s : Shared ι) (t : Thread ι) (ok : Bool) (rest : List Statement) :
    Statement → Shared ι × List Statement
  | .close =>
    match s.airnav_socket with
    | none => (s, rest)
    | some c => (s.setStatus c .closed, rest)
  | .forget => ({ s with airnav_socket := none }, rest)
  | .uninit => ({ s with airnav_com_inited := false }, rest)
  | .init => ({ s with airnav_com_inited := true }, rest)
  | .create =>
    if ok then ({ s.setStatus s.created .created with airnav_socket := some s.created, created := s.created + 1 }, rest)
    else ({ s with airnav_socket := none }, rest)
  | .connect =>
    match s.airnav_socket with
    | none => (s, [close, forget])
    | some c => if ok ∧ s.status c = .created then (s.setStatus c .connected, rest) else (s, [close, forget])
  | .ready serial => if s.airnav_socket = none ∨ serial ∧ ¬ ok then (s, giveUp) else (s, rest)
  | .send type part =>
    match s.airnav_socket with
    | none => (s, net_force_disconnect ++ rest)
    | some c =>
      if ok ∧ s.status c = .connected then
        ({ s with log := s.log ++ [.sent t c type part] }, if part < 3 then send type (part + 1) :: rest else rest)
      else (s, net_force_disconnect ++ rest)
  | .expect cmd id =>
    if s.airnav_socket = none then (s, giveUp)
    else ({ s with expected := cmd, expected_arrived := false, expected_id := if id > 0 then id else s.expected_id }, rest)
  | .await cmd =>
    if s.expected_arrived then ({ s with expected_arrived := false, expected := .notOk, expected_id := 0 }, rest)
    -- otherwise it waits for another round, or the time is over
    else if ok then (s, await cmd :: rest) else (s, giveUp)
  | .version => if s.airnav_com_inited then (s, rest) else (s, [])
  | .ping => if s.airnav_socket = none then (s, []) else (s, rest)
  | .save sk => ({ s with key := sk }, rest)
  | .answer reply =>
    if s.matches reply then ({ s with expected_arrived := true, log := s.log ++ [.answered reply.status] }, rest)
    else (s, rest)

/-- The threads and what they share. -/
structure Session (ι : Type) where
  shared : Shared ι
  program : Thread ι → List Statement

/-- What is next: a thread takes a step, or one that is done starts something. -/
inductive Action (ι : Type)
  | take (t : Thread ι) (ok : Bool)
  /-- Another round of `airnav_monitorConnection`. -/
  | monitor
  /-- The receiver has got a reply of the server. -/
  | receive (reply : Option ServerReply)
  /-- A thread has something to send. -/
  | data (i : ι) (type : MessageTypes)

variable [DecidableEq ι]

namespace Session

/-- A thread that is done starts this. -/
def start (s : Session ι) (t : Thread ι) (statements : List Statement) : Session ι :=
  if s.program t = [] then { s with program := Function.update s.program t statements } else s

def step (s : Session ι) : Action ι → Session ι
  | .take t ok =>
    match s.program t with
    | [] => s
    | statement :: rest =>
      let (shared, next) := s.shared.take t ok rest statement
      { shared := shared, program := Function.update s.program t next }
  | .monitor =>
    s.start .monitor
      (if s.shared.airnav_com_inited then sendPing else [close, forget] ++ net_initial_com s.shared.key)
  | .receive reply => s.start .receiver (proccess_ServerReplyPacket reply)
  | .data i type => if s.shared.airnav_com_inited then s.start (.sender i) (net_send_packet type) else s

def run (s : Session ι) (actions : List (Action ι)) : Session ι := actions.foldl step s

end Session

end Steps

end RbFeeder.Airnav
