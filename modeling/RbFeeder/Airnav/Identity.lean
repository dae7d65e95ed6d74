import RbFeeder.Airnav.Emission
import RbFeeder.Asterix.Items

/-! Whose packet it is.

**Main theorem:** `packets_identified_iff`. The address is set in one place at the top of the
pass; the packets are queued whether it was set or not. -/
namespace RbFeeder.Airnav
open ModeS (Byte)

/-! ### The queues -/

/-- The aircraft whose packets are queued. -/
def queued (cfg : Config) (turns : List (Turn × Emitted)) : List (Turn × Emitted) :=
  turns.filter fun t => (t.1.prepareAircraft cfg t.2).send

/-- The first packet of an aircraft, as it is queued. -/
def firstPacket (cfg : Config) (t : Turn × Emitted) : Packet := { (t.1.prepareAircraft cfg t.2).acf with cmd := 5 }

/-- The second packet of an aircraft, as it is queued. -/
def secondPacket (cfg : Config) (t : Turn × Emitted) : Packet := { (t.1.prepareAircraft cfg t.2).acf2 with cmd := 5 }

theorem queued_append (cfg : Config) (turns : List (Turn × Emitted)) (t : Turn × Emitted) :
    queued cfg (turns ++ [t]) =
      queued cfg turns ++ if (t.1.prepareAircraft cfg t.2).send then [t] else [] := by
  rw [queued, List.filter_append, List.filter_singleton, Bool.cond_eq_ite]
  rfl

theorem prepareData_append (cfg : Config) (turns : List (Turn × Emitted)) (t : Turn × Emitted) :
    prepareData cfg (turns ++ [t]) = enqueue cfg (prepareData cfg turns) (t.1.prepareAircraft cfg t.2) := by
  rw [prepareData, List.foldl_append]
  rfl

theorem prepareData_flist (cfg : Config) (turns : List (Turn × Emitted)) :
    (prepareData cfg turns).flist = ((queued cfg turns).map (firstPacket cfg)).reverse ∧
      (prepareData cfg turns).flist2 = ((queued cfg turns).map (secondPacket cfg)).reverse := by
  induction turns using List.reverseRecOn with
  | nil => exact ⟨rfl, rfl⟩
  | append_singleton turns t ih =>
    rw [prepareData_append, queued_append, enqueue]
    split
    · simp only [ih, List.map_append, List.map_cons, List.map_nil, List.reverse_append, List.reverse_cons,
        List.reverse_nil, List.nil_append, List.cons_append]
      exact ⟨rfl, rfl⟩
    · rw [List.append_nil]
      exact ih

theorem prepareData_sent {cfg : Config} {config : AsterixConfig} (h : cfg.asterix = some config)
    (turns : List (Turn × Emitted)) : (prepareData cfg turns).sent =
      (queued cfg turns).map fun t => Asterix.build config.toc (t.1.prepareAircraft cfg t.2).calls := by
  induction turns using List.reverseRecOn with
  | nil => rfl
  | append_singleton turns t ih =>
    rw [prepareData_append, queued_append, enqueue]
    split
    · rw [ih, h, List.map_append]
      rfl
    · rw [List.append_nil]
      exact ih

/-! ### The address -/

/-- The 24 bits of the address. -/
def Turn.address24 (x : Turn) : BitVec 32 := x.aircraft.addr &&& 0xffffff

/-- A packet that identifies its aircraft. -/
def Packet.Identifies (p : Packet) (x : Turn) : Prop := p.slots .modesAddr = ⟨1, x.address24⟩

/-- Every packet of the pass identifies the aircraft whose data it carries. -/
structure PacketsIdentified (cfg : Config) (turns : List (Turn × Emitted)) : Prop where
  flist : List.Forall₂ (fun p t => p = firstPacket cfg t ∧ p.Identifies t.1)
    (prepareData cfg turns).flist (queued cfg turns).reverse
  flist2 : List.Forall₂ (fun p t => p = secondPacket cfg t ∧ p.Identifies t.1)
    (prepareData cfg turns).flist2 (queued cfg turns).reverse
  sent : ∀ config, cfg.asterix = some config →
    List.Forall₂ (fun packet t => packet = Asterix.build config.toc (t.1.prepareAircraft cfg t.2).calls ∧
        packet.item config.toc .i080 = some (Asterix.bytes24 t.1.address24))
      (prepareData cfg turns).sent (queued cfg turns)

variable (cfg : Config) (x : Turn) (an : Emitted)

theorem address24_of_icao (hdomain : x.aircraft.addr < 0x2000000) (hicao : ¬ x.NonIcao) :
    x.address24 = x.aircraft.addr := by
  have hlt : x.aircraft.addr.toNat < 2 ^ 25 := hdomain
  have hflag : x.aircraft.addr.toNat &&& 2 ^ 24 = 0 := congrArg BitVec.toNat (not_not.mp hicao)
  have hbit : x.aircraft.addr.toNat.testBit 24 = false := by
    rw [Nat.and_two_pow] at hflag
    simpa using hflag
  have hsmall : x.aircraft.addr.toNat < 2 ^ 24 := by
    rw [Nat.testBit_eq_decide_div_mod_eq, decide_eq_false_iff_not] at hbit
    omega
  refine BitVec.eq_of_toNat_eq ?_
  rw [Turn.address24, BitVec.toNat_and]
  exact (Nat.and_two_pow_sub_one_eq_mod _ 24).trans (Nat.mod_eq_of_lt hsmall)

theorem slots_modesAddr : (firstPacket cfg (x, an)).slots .modesAddr =
      (if x.NonIcao then ⟨0, 0⟩ else ⟨1, x.aircraft.addr⟩) ∧
    (secondPacket cfg (x, an)).slots .modesAddr = if x.NonIcao then ⟨0, 0⟩ else ⟨1, x.aircraft.addr⟩ := by
  have h := x.final_modesAddr cfg an
  by_cases hicao : x.NonIcao
  · rw [if_pos hicao] at h
    rw [if_pos hicao]
    exact Prod.mk.inj h
  · rw [if_neg hicao] at h
    rw [if_neg hicao]
    exact Prod.mk.inj h

/-- A packet that is queued identifies its aircraft if the address was set. -/
theorem identifies_iff (hdomain : x.aircraft.addr < 0x2000000) :
    ((firstPacket cfg (x, an)).Identifies x ↔ ¬ x.NonIcao) ∧ ((secondPacket cfg (x, an)).Identifies x ↔ ¬ x.NonIcao) := by
  obtain ⟨hfirst, hsecond⟩ := slots_modesAddr cfg x an
  rw [Packet.Identifies, Packet.Identifies, hfirst, hsecond]
  by_cases hicao : x.NonIcao
  · simp [hicao]
  · simp [hicao, address24_of_icao x hdomain hicao]

/-- The item of the address. -/
theorem item_i080 {config : AsterixConfig} (h : cfg.asterix = some config) (hspec : Asterix.LoadedSpec config.toc)
    (hicao : ¬ x.NonIcao) :
    (Asterix.build config.toc (x.prepareAircraft cfg an).calls).item config.toc .i080 =
      some (Asterix.bytes24 x.aircraft.addr) := by
  have hcalls := x.final_i080 cfg an
  rw [if_pos ⟨hicao, by rw [h]; rfl⟩] at hcalls
  rw [Asterix.item_build hspec, show List.filter _ _ = _ from hcalls]
  rfl

/-- **Main theorem.** Every packet of the pass identifies its aircraft exactly if no aircraft
without an ICAO address raises `send`. -/
theorem packets_identified_iff (turns : List (Turn × Emitted))
    (hspec : ∀ config, cfg.asterix = some config → Asterix.LoadedSpec config.toc)
    (hdomain : ∀ t ∈ turns, t.1.aircraft.addr < 0x2000000) :
    PacketsIdentified cfg turns ↔ ∀ t ∈ turns, t.1.NonIcao → ¬ t.1.Sends cfg t.2 := by
  have hmem : ∀ t, t ∈ queued cfg turns ↔ t ∈ turns ∧ t.1.Sends cfg t.2 := by
    intro t
    rw [queued, List.mem_filter, t.1.prepareAircraft_send cfg t.2]
  obtain ⟨hflist, hflist2⟩ := prepareData_flist cfg turns
  constructor
  · intro h t ht hicao hsends
    have hfirst := h.flist
    rw [hflist, List.forall₂_reverse_iff, List.forall₂_map_left_iff, List.forall₂_same] at hfirst
    exact ((identifies_iff cfg t.1 t.2 (hdomain t ht)).1.mp (hfirst t ((hmem t).mpr ⟨ht, hsends⟩)).2) hicao
  · intro h
    have hqueued : ∀ t ∈ queued cfg turns, t.1.aircraft.addr < 0x2000000 ∧ ¬ t.1.NonIcao := by
      intro t ht
      obtain ⟨hturn, hsends⟩ := (hmem t).mp ht
      exact ⟨hdomain t hturn, fun hicao => h t hturn hicao hsends⟩
    refine ⟨?_, ?_, fun config hconfig => ?_⟩
    · rw [hflist, List.forall₂_reverse_iff, List.forall₂_map_left_iff, List.forall₂_same]
      exact fun t ht => ⟨rfl, (identifies_iff cfg t.1 t.2 (hqueued t ht).1).1.mpr (hqueued t ht).2⟩
    · rw [hflist2, List.forall₂_reverse_iff, List.forall₂_map_left_iff, List.forall₂_same]
      exact fun t ht => ⟨rfl, (identifies_iff cfg t.1 t.2 (hqueued t ht).1).2.mpr (hqueued t ht).2⟩
    · rw [prepareData_sent hconfig, List.forall₂_map_left_iff, List.forall₂_same]
      intro t ht
      obtain ⟨hlt, hicao⟩ := hqueued t ht
      rw [address24_of_icao t.1 hlt hicao]
      exact ⟨rfl, item_i080 cfg t.1 t.2 hconfig (hspec config hconfig) hicao⟩

/-- ASTERIX output, with the FRNs of category 21. -/
def asterixConfig : Config :=
  { plainConfig with asterix := some { toc := Asterix.cat21Spec, sac := 1, sic := 1, sid := 0, sidEnabled := false } }

/-- An aircraft with its NACp just heard. -/
def nacTurn (addr : BitVec 32) : Turn := turnOf addr [⟨.nacP, (9 : Nat)⟩] 1700000000

theorem packets_identified_icao : PacketsIdentified asterixConfig [(nacTurn 0x4ca123, neverSent)] := by
  refine (packets_identified_iff asterixConfig [(nacTurn 0x4ca123, neverSent)] (fun config hconfig => ?_)
    (by decide +kernel)).mpr fun t ht hicao => ?_
  · obtain rfl := Option.some.inj hconfig
    exact Asterix.cat21Spec_loaded
  · obtain rfl := List.mem_singleton.mp ht
    exact absurd hicao (by decide +kernel)

/-- The packet of an aircraft without an ICAO address has no address. -/
theorem packet_without_address : ¬ PacketsIdentified plainConfig [(nacTurn 0x1002233, neverSent)] := by
  intro h
  have hsend : ((nacTurn 0x1002233).prepareAircraft plainConfig neverSent).send = true := by decide +kernel
  have hfirst := h.flist
  rw [(prepareData_flist _ _).1, List.forall₂_reverse_iff, List.forall₂_map_left_iff, List.forall₂_same] at hfirst
  have hidentifies := (hfirst (nacTurn 0x1002233, neverSent)
    (List.mem_filter.mpr ⟨List.mem_singleton_self _, hsend⟩)).2
  exact (identifies_iff plainConfig (nacTurn 0x1002233) neverSent (by decide +kernel)).1.mp hidentifies
    (by decide +kernel)

end RbFeeder.Airnav
