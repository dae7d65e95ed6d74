import RbFeeder.Demod.Hearing
import RbFeeder.Sdr.ReaderProofs

/-! From the device to the messages.

The main loop demodulates the buffers in the order in which it takes them off the queue.
As long as no sample is lost, they are buffers of one stream, what has arrived with zeros
in front of it (`station_carries`). So whatever the order of the steps, a message that is
heard in what has arrived is received (`station_hears`). -/
namespace RbFeeder.Demod
open ModeS Runs
open Sdr (Sample Block Iq Station Action padded newSamples inPhase fiveTicks)

section Station
variable {magnitude : Iq → Sample} {clock : BitVec 64 → BitVec 64} {buffer_count buffer_size overlap : Nat}

/-- The buffers that the main loop has taken. -/
def Taken {n : Nat} (s : Station n) (ds : List Delivery) : Prop :=
  ds.map Delivery.mag = s.system.dequeued.map Prod.snd

/-- What has arrived, as a stream. -/
def arriving (magnitude : Iq → Sample) (overlap : Nat) (arrived : List Iq) (k : Nat) : Sample :=
  (padded magnitude overlap arrived).getD k 0

theorem mlen_eq_of_stretch {arrived : List Iq} {base : Nat} {d : Delivery}
    (h : Sdr.Stretch magnitude clock overlap arrived base d.mag) :
    (Sdr.newPart overlap d.mag).length = d.mlen := by
  rw [h.length_newPart, Delivery.mlen, h.overlap]

theorem getD_take {xs : List Sample} {k n : Nat} (h : k < n) : (xs.take n).getD k 0 = xs.getD k 0 := by
  simp [List.getD_eq_getElem?_getD, h]

/-- The clock counts five ticks a sample. -/
def Exact (clock : BitVec 64 → BitVec 64) (arrived : List Iq) : Prop :=
  ∀ p ≤ arrived.length, clock (BitVec.ofNat 64 p) = BitVec.ofNat 64 (5 * p)

theorem carried_of_stretch {arrived : List Iq} (hclock : Exact clock arrived) {base : Nat} {d : Delivery}
    (h : Sdr.Stretch magnitude clock overlap arrived base d.mag)
    (hfront : d.mag.data.take overlap = Sdr.lastSamples overlap ((arrived.take base).map magnitude)) :
    Carried (arriving magnitude overlap arrived) 0 base d where
  data k hk := by
    have hvalid := h.valid_samples hfront
    rw [← getD_take hk, hvalid, getD_take hk, arriving, List.getD_eq_getElem?_getD, List.getElem?_drop,
      ← List.getD_eq_getElem?_getD]
  sampleTimestamp := by
    rw [h.sampleTimestamp, hclock base (Nat.le_of_add_right_le h.within)]
    exact (BitVec.zero_add _).symm

/-- The buffers in the order in which they were enqueued, from the first one on. -/
theorem carries_of_contiguous {arrived : List Iq} (hclock : Exact clock arrived) {blocks : List Block}
    (h : Sdr.Contiguous magnitude clock overlap arrived blocks)
    (hfronts : ∀ history b later, blocks = history ++ b :: later → b.data.take overlap =
      Sdr.lastSamples overlap ((arrived.take (newSamples overlap history)).map magnitude))
    (history : List Block) {ds : List Delivery} (hstarts : history ++ ds.map Delivery.mag <+: blocks) :
    Carries (arriving magnitude overlap arrived) 0 (newSamples overlap history) ds := by
  induction ds generalizing history with
  | nil => trivial
  | cons d ds ih =>
    obtain ⟨more, hmore⟩ := hstarts
    have hsplit : blocks = history ++ d.mag :: (ds.map Delivery.mag ++ more) := by
      rw [← hmore, List.map_cons, List.append_assoc, List.cons_append]
    have hstretch := h _ _ _ hsplit
    have hnext := ih (history ++ [d.mag])
      ⟨more, by rw [hsplit, List.append_assoc, List.append_assoc, List.singleton_append]⟩
    rw [Sdr.newSamples_concat, mlen_eq_of_stretch hstretch] at hnext
    exact ⟨carried_of_stretch hclock hstretch (hfronts _ _ _ hsplit), hnext⟩

/-- **Main theorem.** Whatever the order of the steps, the buffers that the main loop takes carry what has arrived, as
long as nothing is lost. -/
theorem station_carries (hfits : overlap ≤ buffer_size) {actions : List Action} {s : Station buffer_count}
    (hrun : run (Station.step magnitude clock) (.create buffer_count buffer_size overlap) actions = .ok s)
    (hclock : Exact clock s.arrived) (hlost : s.lost = 0) {ds : List Delivery} (htaken : Taken s ds) :
    Carries (arriving magnitude overlap s.arrived) 0 0 ds := by
  obtain ⟨s', hrun', h⟩ := run_total (fun s a hs => Sdr.Sound.step hs hfits a)
    (Sdr.sound_create magnitude clock buffer_count buffer_size overlap) actions
  obtain rfl := Except.ok.inj (hrun'.symm.trans hrun)
  obtain ⟨gaps, stop, hlaid, hstop, -⟩ := h.laid
  obtain ⟨queue, unused, hholds⟩ := h.holds
  have hcounted := h.counted
  have hcontiguous := hlaid.contiguous.2 (by omega)
  have hfronts : ∀ history b later, s'.blocks = history ++ b :: later → b.data.take overlap =
      Sdr.lastSamples overlap ((s'.arrived.take (newSamples overlap history)).map magnitude) := by
    intro history b later hsplit
    obtain ⟨before, rest, henqueued, rfl, hrest⟩ := List.map_eq_append_iff.mp hsplit
    obtain ⟨⟨buf, block⟩, after, rfl, rfl, -⟩ := List.map_eq_cons_iff.mp hrest
    have hfront := h.follows.fronts before buf block after henqueued
    have hhistory : Sdr.Contiguous magnitude clock overlap s'.arrived (before.map Prod.snd) := by
      intro history' b' later' hsplit'
      exact hcontiguous history' b' (later' ++ block :: later) (by rw [hsplit, hsplit', List.append_assoc, List.cons_append])
    rw [hfront, Sdr.continued, (hcontiguous _ _ _ hsplit).continuous, if_neg Bool.false_ne_true, hhistory.stream.2]
  exact carries_of_contiguous hclock hcontiguous hfronts []
    (by rw [List.nil_append, htaken]; exact hholds.delivered.map Prod.snd)

/-- **Main theorem.** A message that is heard in what has arrived, in front of where the buffers taken so far end, and
that any filter accepts is received from them, unless one from in front of it hides it, if nothing is lost at the
borders of these buffers. -/
theorem station_hears {modes : Modes} {nfix : Fin 3} {garbage : Buffer} (hfits : overlap ≤ buffer_size)
    {actions : List Action} {s : Station buffer_count}
    (hrun : run (Station.step magnitude clock) (.create buffer_count buffer_size overlap) actions = .ok s)
    (hclock : Exact clock s.arrived) (hlost : s.lost = 0) {ds : List Delivery} (htaken : Taken s ds) {r : Receiver IcaoFilter}
    (hstart : r.last_message_end = 0) (hsettled : Settled modes (modesChecksumInit nfix) garbage r ds)
    {j try_phase base step : Nat} {frame : List Byte}
    (hheard : Heard (arriving magnitude overlap s.arrived) j try_phase frame base step)
    (hphase : try_phase ∈ [4, 5, 6, 7, 8]) (hbase : base ≤ 3 * step)
    (hlength : frame.length = (init_bitsets modes).bytelen (byteAt frame 0)) (hone : frame.length ≠ 1)
    (haccept : ∀ f, Accepts modes nfix garbage f frame) (hj : j < span ds) :
    ∃ r' xs, listen modes (modesChecksumInit nfix) garbage 0 r ds = some (r', xs) ∧
      (Hidden modes nfix garbage (arriving magnitude overlap s.arrived) 0 xs j ∨
        ReceivedAt modes nfix garbage (arriving magnitude overlap s.arrived) 0 xs j frame) :=
  listen_heard (station_carries hfits hrun hclock hlost htaken) hstart hsettled hheard hphase hbase hlength hone
    haccept hj

end Station

/-! ### A reply that arrives -/

/-- The samples of the device for an all-call reply, behind the overlap region. -/
def replyIq : List Iq :=
  (List.range 290).map fun k => (BitVec.ofNat 8 (ticks allCallReply (startTick 289 4) (289 + k)), 0)

theorem exact_fiveTicks (arrived : List Iq) : Exact fiveTicks arrived := by
  intro p _
  rw [fiveTicks, BitVec.ofNat_mul]
  rfl

theorem heard_arriving : Heard (arriving inPhase 289 replyIq) 289 4 allCallReply 0 1 := by
  have h := heard_alone allCallReply 289 4
  refine ⟨fun k hk hend => ?_⟩
  have hsample : arriving inPhase 289 replyIq k = alone allCallReply (startTick 289 4) k := by
    obtain ⟨i, rfl⟩ := Nat.exists_eq_add_of_le hk
    have hlt : i < 290 := by
      have hlength : allCallReply.length = 7 := rfl
      rw [hlength, startTick] at hend
      omega
    have hle := ticks_le allCallReply (startTick 289 4) (289 + i)
    rw [arriving, padded, List.getD_append_right _ _ _ _ (by rw [List.length_replicate]; omega), List.length_replicate,
      Nat.add_sub_cancel_left, replyIq, List.map_map,
      List.getD_eq_getElem _ _ (by rwa [List.length_map, List.length_range]), List.getElem_map, List.getElem_range]
    apply BitVec.eq_of_toNat_eq
    simp only [Function.comp_apply, inPhase, alone, BitVec.toNat_setWidth, BitVec.toNat_ofNat]
    omega
  rw [hsample]
  exact h.near k hk hend

def replyActions : List Action :=
  [.callback (replyIq.flatMap fun iq => [iq.1, iq.2]), .deliver 0, .dequeue]

theorem run_replyActions :
    (run (Station.step inPhase fiveTicks) (.create 1 579 289) replyActions).toOption.map (fun s =>
      (s.lost, s.arrived, s.system.dequeued.map fun taken =>
        (taken.2.validLength, taken.2.overlap, taken.2.discontinuous))) =
      some (0, replyIq, [(579, 289, false)]) := by
  decide +kernel

theorem station_hears_reply :
    ∃ s : Station 1, ∃ ds, run (Station.step inPhase fiveTicks) (.create 1 579 289) replyActions = .ok s ∧ Taken s ds ∧
      ∃ r' xs, listen plainModes (modesChecksumInit (0 : Fin 3)) Buffer.zero 0 started ds = some (r', xs) ∧
        (Hidden plainModes 0 Buffer.zero (arriving inPhase 289 s.arrived) 0 xs 289 ∨
          ReceivedAt plainModes 0 Buffer.zero (arriving inPhase 289 s.arrived) 0 xs 289 allCallReply) := by
  have hfacts := run_replyActions
  cases hrun : run (Station.step inPhase fiveTicks) (.create 1 579 289) replyActions with
  | error fault =>
    rw [hrun] at hfacts
    cases hfacts
  | ok s =>
    rw [hrun] at hfacts
    obtain ⟨hlost, hrest⟩ := Prod.mk.inj (Option.some.inj hfacts)
    obtain ⟨harrived, hdequeued⟩ := Prod.mk.inj hrest
    obtain ⟨⟨buf, block⟩, htaken, hblock⟩ := List.map_eq_singleton_iff.mp hdequeued
    obtain ⟨hvalid, hmore⟩ := Prod.mk.inj hblock
    obtain ⟨hoverlap, hcontinuous⟩ := Prod.mk.inj hmore
    dsimp only at hvalid hoverlap hcontinuous
    let d : Delivery :=
      { mag := block
        msg1 := Buffer.zero
        msg2 := Buffer.zero
        continuous := hcontinuous
        overlap_long := hoverlap.ge
        overlap_valid := by rw [hoverlap, hvalid]; decide }
    have hmlen : d.mlen = 290 := by
      show block.validLength - block.overlap = 290
      rw [hvalid, hoverlap]
    have htaken' : Taken s [d] := by
      rw [Taken, htaken]
      rfl
    have hheard : Heard (arriving inPhase 289 s.arrived) 289 4 allCallReply 0 1 := by
      rw [harrived]
      exact heard_arriving
    refine ⟨s, [d], rfl, htaken', station_hears (by decide) hrun (exact_fiveTicks _) hlost htaken' rfl
      ⟨lossless_of_zero (by rw [hmlen]; decide) rfl, fun _ _ _ => trivial⟩ hheard (by decide) (by decide)
      bytelen_allCallReply (by decide) accepts_allCallReply ?_⟩
    show 289 < d.mlen + 0
    rw [hmlen]
    decide

end RbFeeder.Demod
