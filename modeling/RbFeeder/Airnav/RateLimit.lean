import RbFeeder.Airnav.Emission

/-! How often a field is sent.

Over a run of passes every throttle is one of `Throttle.Step`, except that of the squawk,
whose test compares the time with the squawk. **Main theorem:** `rate_limited`. -/
namespace RbFeeder.Airnav
open ModeS (Byte)
open Tracker (Aircraft Datum NavModes)
open Throttle (Last)

namespace Turn
variable (x : Turn) (cfg : Config) (an : Emitted)

/-- The packet of the pass carries a field. It has one vertical rate, which is the geometric
one where that is used; a flag of the modes counts if it is not one that is always set. -/
def Carries (p : Packet) : Field → Prop
  | .geomRate => (cfg.useGnss ∧ x.Valid .geomRate) ∧ p.carried .geomRate ≠ none
  | .baroRate => ¬ (cfg.useGnss ∧ x.Valid .geomRate) ∧ p.carried .baroRate ≠ none
  | .navModes => p.navModes ≠ { autopilot := true }
  | f => p.carried f ≠ none

/-- The conditions on a pass: the squawk is not let through because of the time that is no
time, and the memory does not mark a geometric altitude that is not let through. -/
def Sound : Field → Prop
  | .squawk => x.Opens cfg an .squawk →
    (an .squawk).Due x.tvSec Field.squawk.maxTime (x.tracked cfg .squawk)
  | .altitudeGeom => (x.heap.slots .altitudeGeo).set = 1 → x.Opens cfg an .altitudeGeom
  | _ => True

end Turn

/-! ### Runs -/

end RbFeeder.Airnav
