import RbFeeder.Net.Network

/-! What the log says about a client's stay at a service.

The log has the latest event first, so the events since a client was attached are
the ones in front of its last `attach`. -/
namespace RbFeeder.Net
open ModeS (Byte)

/-- The bytes that the client's socket took since the client was attached. -/
def received (c : ClientId) : List Event → List Byte
  | [] => []
  | .attach c' _ :: log => if c' = c then [] else received c log
  | .write c' data nwritten :: log =>
    if c' = c then received c log ++ data.take nwritten.toNat else received c log
  | _ :: log => received c log

/-- The frames that were completed on the service since the client was attached. -/
def completed (c : ClientId) (s : Service) : List Event → List (List Byte)
  | [] => []
  | .attach c' _ :: log => if c' = c then [] else completed c s log
  | .complete s' _ frame :: log =>
    if s' = s then completed c s log ++ [frame] else completed c s log
  | _ :: log => completed c s log

/-- Every `write` to the client since it was attached took all it was given. -/
def WritesFull (c : ClientId) : List Event → Prop
  | [] => True
  | .attach c' _ :: log => c' = c ∨ WritesFull c log
  | .write c' data nwritten :: log => (c' = c → nwritten = data.length) ∧ WritesFull c log
  | _ :: log => WritesFull c log

section
variable (c c' : ClientId) (s s' : Service) (log : List Event)

@[simp] theorem received_attach :
    received c (.attach c' s :: log) = if c' = c then [] else received c log := rfl
@[simp] theorem received_detach (closed : Bool) (data : List Byte) :
    received c (.detach c' s closed data :: log) = received c log := rfl
@[simp] theorem received_write (data : List Byte) (nwritten : Int) :
    received c (.write c' data nwritten :: log) =
      if c' = c then received c log ++ data.take nwritten.toNat else received c log := rfl
@[simp] theorem received_prepare (dataUsed len : Nat) :
    received c (.prepare s dataUsed len :: log) = received c log := rfl
@[simp] theorem received_complete (dataUsed : Nat) (frame : List Byte) :
    received c (.complete s dataUsed frame :: log) = received c log := rfl

@[simp] theorem completed_attach :
    completed c s (.attach c' s' :: log) = if c' = c then [] else completed c s log := rfl
@[simp] theorem completed_detach (closed : Bool) (data : List Byte) :
    completed c s (.detach c' s' closed data :: log) = completed c s log := rfl
@[simp] theorem completed_write (data : List Byte) (nwritten : Int) :
    completed c s (.write c' data nwritten :: log) = completed c s log := rfl
@[simp] theorem completed_prepare (dataUsed len : Nat) :
    completed c s (.prepare s' dataUsed len :: log) = completed c s log := rfl
@[simp] theorem completed_complete (dataUsed : Nat) (frame : List Byte) :
    completed c s (.complete s' dataUsed frame :: log) =
      if s' = s then completed c s log ++ [frame] else completed c s log := rfl

end

end RbFeeder.Net
