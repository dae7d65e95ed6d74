import RbFeeder.Tracker.Message
import RbFeeder.Tracker.Distance
import RbFeeder.Lib.FixedPoint
import RbFeeder.Cpr.Decode

/-! Positions: `updatePosition` of `track.c`.

A new CPR message is decoded with the last one of the other kind (global CPR), or, where
that cannot be done, from a position nearby (local CPR). A global result that is
implausible is bad data: both messages are discarded, and the position with them. -/
namespace RbFeeder.Tracker
open Track (Millis Source)
open FixedPoint

/-- The receiver: where it is, if that is known, how far it hears, and its C library. -/
structure Site where
  userLatLon : Option (ℚ × ℚ) := none
  maxRange : ℚ := 0
  libm : Libm

def Site.greatcircle (site : Site) : ℚ → ℚ → ℚ → ℚ → Option ℚ := site.libm.greatcircle

/-- `rcIsWorse`; zero is unknown. -/
def rcIsWorse (left right : Nat) : Prop :=
  if left = 0 ∧ right = 0 then False else if left = 0 then True else if right = 0 then False else left > right

instance (left right : Nat) : Decidable (rcIsWorse left right) := inferInstanceAs (Decidable (ite _ _ _))

/-- `time_between`. -/
def timeBetween (t1 t2 : Millis) : Millis := if t1 ≥ t2 then t1 - t2 else t2 - t1

/-- `max_elapsed`. -/
def maxElapsed (version : Int) (mm : Message) (cpr : CprReport) : Millis :=
  if cpr.type = .surface then
    match Aircraft.selectedGs version mm with
    | some gs => if gs ≤ 25 then 50000 else 25000
    | none => 25000
  else 10000

namespace Aircraft

/-- The speed that `speed_check` starts from. -/
def knownSpeed (now : Millis) (a : Aircraft) (surface : Bool) : ℤ :=
  if a.Valid now .gs then truncate (a.data .gs).value
  else if a.Valid now .tas then ((a.data .tas).value * 4 / 3 : Nat)
  else if a.Valid now .ias then ((a.data .ias).value * 2 : Nat)
  else if surface then 100
  else 600

/-- A reasonable speed to use. -/
def reasonableSpeed (speed : ℤ) (surface : Bool) : ℤ :=
  let speed := (speed * 4).tdiv 3
  if surface then
    let speed := if speed < 20 then 20 else speed
    if speed > 150 then 150 else speed
  else if speed < 200 then 200
  else speed

/-- `speed_check`. A distance that is not a number fails it. -/
def SpeedCheck (site : Site) (now : Millis) (a : Aircraft) (lat lon : ℚ) (surface : Bool) : Prop :=
  let position := (a.data .position).value
  let elapsed : ℚ := ((a.data .position).valid.age now).toNat
  let speed : ℚ := reasonableSpeed (a.knownSpeed now surface) surface
  ¬ a.Valid now .position ∨ ∃ distance ∈ site.greatcircle position.lat position.lon lat lon,
    distance ≤ (if surface then 100 else 500) + (elapsed + 1000) / 1000 * (speed * 1852 / 3600)

instance (site : Site) (now : Millis) (a : Aircraft) (lat lon : ℚ) (surface : Bool) :
    Decidable (a.SpeedCheck site now lat lon surface) := inferInstanceAs (Decidable (_ ∨ _))

/-- The known position is at least as accurate, and too far away. -/
def TooFast (site : Site) (now : Millis) (a : Aircraft) (lat lon : ℚ) (nic rc : Nat) (surface : Bool) :
    Prop :=
  a.Valid now .position ∧ (a.data .position).value.nic ≥ nic ∧
    ¬ rcIsWorse (a.data .position).value.rc rc ∧ ¬ a.SpeedCheck site now lat lon surface

instance (site : Site) (now : Millis) (a : Aircraft) (lat lon : ℚ) (nic rc : Nat) (surface : Bool) :
    Decidable (a.TooFast site now lat lon nic rc surface) := inferInstanceAs (Decidable (_ ∧ _))

/-- The reference of a surface position: the known one, else the receiver. -/
def surfaceReference (site : Site) (now : Millis) (a : Aircraft) : Option (ℚ × ℚ) :=
  if a.Valid now .position then some ((a.data .position).value.lat, (a.data .position).value.lon)
  else site.userLatLon

/-- The CPR decoding of `doGlobalCPR`. -/
def decodeGlobal (site : Site) (now : Millis) (a : Aircraft) (cpr : CprReport) : Except ℤ (ℚ × ℚ) :=
  let even := (a.data .cprEven).value
  let odd := (a.data .cprOdd).value
  if cpr.type = .surface then
    match a.surfaceReference site now with
    | some ref => Cpr.decodeCPRsurface ref.1 ref.2 even.lat even.lon odd.lat odd.lon cpr.odd
    | none => .error (-1)
  else Cpr.decodeCPRairborne even.lat even.lon odd.lat odd.lon cpr.odd

/-- Whether a position is out of the receiver's range. A distance that is not a number is not. -/
def OutOfRange (site : Site) (lat lon : ℚ) : Prop :=
  match site.userLatLon with
  | some user => site.maxRange > 0 ∧ ∃ range ∈ site.greatcircle user.1 user.2 lat lon, range > site.maxRange
  | none => False

instance (site : Site) (lat lon : ℚ) : Decidable (OutOfRange site lat lon) := by
  unfold OutOfRange
  cases site.userLatLon <;> infer_instance

/-- The checks of `doGlobalCPR`: a position that is out of range or too far away is bad
data. The speed check is skipped for mlat results. -/
def checkGlobal (site : Site) (a : Aircraft) (mm : Message) (surface : Bool) (p : Position) :
    Except ℤ Position :=
  if OutOfRange site p.lat p.lon then .error (-2)
  else if mm.source = .mlat then .ok p
  else if a.TooFast site mm.sysTimestampMsg p.lat p.lon p.nic p.rc surface then .error (-2)
  else .ok p

/-- `doGlobalCPR`. -/
def doGlobalCPR (site : Site) (a : Aircraft) (mm : Message) (cpr : CprReport) : Except ℤ Position :=
  let even := (a.data .cprEven).value
  let odd := (a.data .cprOdd).value
  let nic := if even.nic < odd.nic then even.nic else odd.nic
  let rc := if rcIsWorse even.rc odd.rc then even.rc else odd.rc
  match a.decodeGlobal site mm.sysTimestampMsg cpr with
  | .error result => .error result
  | .ok point => a.checkGlobal site mm (cpr.type = .surface) ⟨point.1, point.2, nic, rc⟩

/-- How far from the receiver a position may be decoded; half a cell is 180NM. -/
def receiverLimit (maxRange : ℚ) : Option ℚ :=
  if maxRange = 0 then none
  else if maxRange ≤ 1852 * 180 then some maxRange
  else if maxRange < 1852 * 360 then some (1852 * 360 - maxRange)
  else none

/-- The reference of `doLocalCPR` with its `range_limit`, and the accuracy that it
leaves: the known position, else the receiver. -/
def localReference (site : Site) (now : Millis) (a : Aircraft) (cpr : CprReport) :
    Option ((ℚ × ℚ) × ℚ × Nat × Nat) :=
  let own := if cpr.odd then (a.data .cprOdd).value else (a.data .cprEven).value
  let known := (a.data .position).value
  if a.Valid now .position then
    some ((known.lat, known.lon), 50000, if known.nic < own.nic then known.nic else own.nic,
      if rcIsWorse known.rc own.rc then known.rc else own.rc)
  else if cpr.type ≠ .surface then
    match site.userLatLon, receiverLimit site.maxRange with
    | some user, some limit => some (user, limit, own.nic, own.rc)
    | _, _ => none
  else none

/-- `doLocalCPR`. -/
def doLocalCPR (site : Site) (a : Aircraft) (mm : Message) (cpr : CprReport) : Except ℤ Position :=
  let now := mm.sysTimestampMsg
  let surface : Bool := cpr.type = .surface
  match a.localReference site now cpr with
  | none => .error (-1)
  | some (ref, limit, nic, rc) =>
    match Cpr.decodeCPRrelative ref.1 ref.2 cpr.lat cpr.lon cpr.odd surface with
    | .error result => .error result
    | .ok (lat, lon) =>
      if limit > 0 ∧ ∃ range ∈ site.greatcircle ref.1 ref.2 lat lon, range > limit then .error (-1)
      else if a.TooFast site now lat lon nic rc surface then .error (-1)
      else .ok ⟨lat, lon, nic, rc⟩

/-- Enough recent data for global CPR. -/
def Paired (version : Int) (a : Aircraft) (mm : Message) (cpr : CprReport) : Prop :=
  let now := mm.sysTimestampMsg
  let odd := a.data .cprOdd
  let even := a.data .cprEven
  a.Valid now .cprOdd ∧ a.Valid now .cprEven ∧ odd.valid.source = even.valid.source ∧
    odd.value.type = even.value.type ∧
    timeBetween odd.valid.updated even.valid.updated ≤ maxElapsed version mm cpr

instance (version : Int) (a : Aircraft) (mm : Message) (cpr : CprReport) :
    Decidable (a.Paired version mm cpr) := inferInstanceAs (Decidable (_ ∧ _))

/-- The result of global CPR, if it is tried. -/
def globalResult (site : Site) (version : Int) (a : Aircraft) (mm : Message) (cpr : CprReport) :
    Except ℤ Position :=
  if a.Paired version mm cpr then a.doGlobalCPR site mm cpr else .error (-1)

/-- The position is taken, if its source is accepted. -/
def takePosition (a : Aircraft) (mm : Message) (position : Option Position) : Aircraft :=
  a.modify .position (Tracked.update mm.sysTimestampMsg mm.source position)

/-- Bad data: both CPR messages and the position are no longer valid. -/
def discardCpr (a : Aircraft) : Aircraft :=
  ((a.modify .cprOdd Tracked.invalidate).modify .cprEven Tracked.invalidate).modify .position
    Tracked.invalidate

/-- `updatePosition`. -/
def updatePosition (site : Site) (version : Int) (a : Aircraft) (mm : Message) (cpr : CprReport) :
    Aircraft :=
  match a.globalResult site version mm cpr with
  | .ok position => a.takePosition mm (some position)
  | .error result =>
    if result = -2 then a.discardCpr
    else
      match a.doLocalCPR site mm cpr with
      | .ok position => a.takePosition mm (some position)
      | .error _ => a

/-! ### What it does -/

/-- The position decoded, by global CPR or else by local CPR. -/
def located (site : Site) (version : Int) (a : Aircraft) (mm : Message) (cpr : CprReport) :
    Option Position :=
  match a.globalResult site version mm cpr with
  | .ok position => some position
  | .error result => if result = -2 then none else (a.doLocalCPR site mm cpr).toOption

/-- The global CPR result is -2. -/
def GlobalFails (site : Site) (version : Int) (a : Aircraft) (mm : Message) (cpr : CprReport) : Prop :=
  a.globalResult site version mm cpr = .error (-2)

theorem takePosition_none (a : Aircraft) (mm : Message) : a.takePosition mm none = a := by
  have hdata : Fields.modify a.data .position (Tracked.update mm.sysTimestampMsg mm.source none) = a.data :=
    Fields.modify_self a.data .position
  rw [takePosition, modify, hdata]

/-- The two things `updatePosition` does. -/
theorem updatePosition_cases (site : Site) (version : Int) (a : Aircraft) (mm : Message) (cpr : CprReport) :
    (a.GlobalFails site version mm cpr ∧ a.updatePosition site version mm cpr = a.discardCpr) ∨
      (¬ a.GlobalFails site version mm cpr ∧
        a.updatePosition site version mm cpr = a.takePosition mm (a.located site version mm cpr)) := by
  unfold GlobalFails updatePosition located
  cases a.globalResult site version mm cpr with
  | ok position => exact Or.inr ⟨by simp, rfl⟩
  | error result =>
    by_cases hresult : result = -2
    · subst hresult
      exact Or.inl ⟨rfl, if_pos rfl⟩
    · refine Or.inr ⟨fun h => hresult (Except.error.inj h), ?_⟩
      simp only [if_neg hresult]
      cases a.doLocalCPR site mm cpr with
      | ok position => rfl
      | error result => exact (takePosition_none a mm).symm

end Aircraft
end RbFeeder.Tracker
