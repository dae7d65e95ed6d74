import RbFeeder.Asterix.Datagram
import RbFeeder.ModeS.Squitter

/-! Target identification, I021/170, against the identification of Mode S.

Both send eight characters of six bits. `cat021_setTargetId` packs the low bits of the
ASCII codes, Mode S decoding looks six bits up in a table; on the characters of callsigns
the two are inverse to each other (`targetId_inverts`). -/
namespace RbFeeder.Asterix
open ModeS (bitAt byteAt getbits ais_charset CallsignChar callsignAt Decoded decodeESIdentAndCategory)

/-- The bytes of an item, as `asterix_SendCat21Packet` sends them. -/
def Item.bytes (item : Item) : List Byte := (List.range item.size).map fun x => item.data.getD x 0

/-! ### Bits of bytes -/

theorem bitAt_cons (byte : Byte) (data : List Byte) (p : Nat) : bitAt (byte :: data) (p + 8) = bitAt data p := by
  rw [bitAt, bitAt, Nat.add_div_right _ (by decide), Nat.add_mod_right]
  rfl

/-- Bytes with the same bits are the same. -/
theorem eq_of_bitAt {a b : List Byte} (hlen : a.length = b.length)
    (hbits : ∀ p < 8 * a.length, bitAt a p = bitAt b p) : a = b := by
  induction a generalizing b with
  | nil => exact (List.length_eq_zero_iff.mp hlen.symm).symm
  | cons byte a ih =>
    obtain _ | ⟨byte', b⟩ := b
    · cases hlen
    have htail : a = b := by
      apply ih (Nat.succ.inj hlen)
      intro p hp
      have hbit := hbits (p + 8) (by rw [List.length_cons]; omega)
      rwa [bitAt_cons, bitAt_cons] at hbit
    have hhead : byte = byte' := by
      refine BitVec.eq_of_getLsbD_eq fun i hi => ?_
      have hbit := hbits (7 - i) (by rw [List.length_cons]; omega)
      have hdiv : (7 - i) / 8 = 0 := by omega
      have hmod : 7 - (7 - i) % 8 = i := by omega
      rwa [bitAt, bitAt, hdiv, hmod] at hbit
    rw [htail, hhead]

/-! ### Packing -/

theorem getLsbD_setBits : ∀ (b7 b6 b5 b4 b3 b2 b1 b0 : Bool) (i : Fin 8),
    (setBits [(b7, 7), (b6, 6), (b5, 5), (b4, 4), (b3, 3), (b2, 2), (b1, 1), (b0, 0)] 0).getLsbD (7 - i) =
      [b7, b6, b5, b4, b3, b2, b1, b0].getD i false := by
  decide +kernel

theorem bitAt_packBits (bits : List Bool) {p : Nat} (hp : p < 8 * (bits.length / 8)) :
    bitAt (packBits bits) p = bits.getD p false := by
  induction bits using packBits.induct generalizing p with
  | case1 b7 b6 b5 b4 b3 b2 b1 b0 rest ih =>
    by_cases hfirst : p < 8
    · have hbits := getLsbD_setBits b7 b6 b5 b4 b3 b2 b1 b0 ⟨p, hfirst⟩
      rw [bitAt, Nat.div_eq_of_lt hfirst, Nat.mod_eq_of_lt hfirst]
      refine hbits.trans ?_
      interval_cases p <;> rfl
    · obtain ⟨q, rfl⟩ : ∃ q, p = q + 8 := ⟨p - 8, by omega⟩
      have hq : q < 8 * (rest.length / 8) := by
        simp only [List.length_cons] at hp
        omega
      rw [packBits, bitAt_cons, ih hq]
      rfl
  | case2 bits hshort =>
    exfalso
    obtain _ | ⟨b7, _ | ⟨b6, _ | ⟨b5, _ | ⟨b4, _ | ⟨b3, _ | ⟨b2, _ | ⟨b1, _ | ⟨b0, rest⟩⟩⟩⟩⟩⟩⟩⟩ := bits
    case cons.cons.cons.cons.cons.cons.cons.cons => exact hshort b7 b6 b5 b4 b3 b2 b1 b0 rest rfl
    all_goals
      simp only [List.length_cons, List.length_nil] at hp
      omega

/-- The bits of the identification: six of every character, the first one of the first
character ahead. -/
theorem bitAt_setTargetId (tid : Fin 8 → Byte) (k : Fin 8) {j : Nat} (hj : j < 6) :
    bitAt (Call.setTargetId tid).data (6 * k + j) = (tid k).getLsbD (5 - j) := by
  have hp : 6 * (k : Nat) + j < 8 * (48 / 8) := by omega
  refine (bitAt_packBits ((List.finRange 8).flatMap fun i => [5, 4, 3, 2, 1, 0].map (tid i).getLsbD) hp).trans ?_
  fin_cases k <;> interval_cases j <;> rfl

/-! ### Characters -/

/-- A character is what six bits of it stand for. -/
theorem ais_charset_lowBits : ∀ c : Byte, CallsignChar c → ais_charset (c.setWidth 32 &&& 63) = c := by
  decide +kernel

/-- A character has the six bits that stand for it. -/
theorem getLsbD_ais_charset {i : BitVec 32} (hi : i.toNat < 64) {j : Nat} (hj : j < 6) :
    (ais_charset i).getLsbD j = i.getLsbD j := by
  have hall : ∀ n : Fin 64, ∀ j : Fin 6,
      (ais_charset (BitVec.ofNat 32 n)).getLsbD j = (BitVec.ofNat 32 n).getLsbD j := by decide +kernel
  have hbit := hall ⟨i.toNat, hi⟩ ⟨j, hj⟩
  rwa [show BitVec.ofNat 32 i.toNat = i by simp] at hbit

/-! ### Both ways -/

theorem callsignAt_getElem? (data : List Byte) (k : Fin 8) :
    (callsignAt data)[(k : Nat)]? = some (ais_charset (getbits data (9 + 6 * k) (14 + 6 * k))) := by
  fin_cases k <;> rfl

/-- The decoder reads the characters that were packed. -/
theorem callsignAt_setTargetId (byte : Byte) (tid : Fin 8 → Byte) (h : ∀ k, CallsignChar (tid k)) :
    callsignAt (byte :: (Call.setTargetId tid).data) = List.ofFn tid := by
  have hfield : ∀ k : Fin 8, getbits (byte :: (Call.setTargetId tid).data) (9 + 6 * k) (14 + 6 * k) =
      (tid k).setWidth 32 &&& 63 := by
    intro k
    refine BitVec.eq_of_getLsbD_eq fun i hi => ?_
    rw [ModeS.getLsbD_getbits _ (by omega) (by omega) (by omega), BitVec.getLsbD_and, BitVec.getLsbD_setWidth,
      show (63 : BitVec 32) = BitVec.ofNat 32 (2 ^ 6 - 1) by decide, BitVec.getLsbD_ofNat,
      Nat.testBit_two_pow_sub_one]
    by_cases hlow : i < 6
    · have hposition : 14 + 6 * (k : Nat) - 1 - i = 6 * k + (5 - i) + 8 := by omega
      have hindex : 5 - (5 - i) = i := by omega
      rw [hposition, bitAt_cons, bitAt_setTargetId tid k (by omega), hindex]
      simp [hi, hlow, show i ≤ 14 + 6 * (k : Nat) - (9 + 6 * k) by omega]
    · simp [hlow, show ¬ i ≤ 14 + 6 * (k : Nat) - (9 + 6 * k) by omega]
  refine List.ext_getElem? fun n => ?_
  by_cases hn : n < 8
  · rw [callsignAt_getElem? _ ⟨n, hn⟩, hfield ⟨n, hn⟩, ais_charset_lowBits _ (h ⟨n, hn⟩),
      List.getElem?_ofFn, dif_pos hn]
  · rw [List.getElem?_eq_none (by simp [callsignAt]; omega), List.getElem?_eq_none (by simp; omega)]

/-- Packing the characters that were read gives the bits back. -/
theorem setTargetId_callsignAt {me : List Byte} (hlen : me.length = 7) :
    (Call.setTargetId fun k => (callsignAt me).getD k 0).data = me.drop 1 := by
  obtain _ | ⟨byte, rest⟩ := me
  · cases hlen
  refine eq_of_bitAt ((Call.length_data _).trans (Nat.succ.inj hlen).symm) fun p hp => ?_
  have hp48 : p < 48 := by
    rw [Call.length_data] at hp
    exact hp
  obtain ⟨k, j, hk, hj, rfl⟩ : ∃ k j, k < 8 ∧ j < 6 ∧ p = 6 * k + j :=
    ⟨p / 6, p % 6, by omega, by omega, by omega⟩
  have hchar : (callsignAt (byte :: rest)).getD k 0 = ais_charset (getbits (byte :: rest) (9 + 6 * k) (14 + 6 * k)) := by
    rw [List.getD_eq_getElem?_getD, callsignAt_getElem? _ ⟨k, hk⟩]
    rfl
  have hlt : (getbits (byte :: rest) (9 + 6 * k) (14 + 6 * k)).toNat < 64 := by
    refine Nat.lt_of_lt_of_le (ModeS.getbits_lt _ (by omega) (by omega)) ?_
    rw [show 14 + 6 * k - (9 + 6 * k) + 1 = 6 by omega]
    decide
  have hposition : 14 + 6 * k - 1 - (5 - j) = 6 * k + j + 8 := by omega
  rw [bitAt_setTargetId _ ⟨k, hk⟩ hj, hchar, getLsbD_ais_charset hlt (by omega),
    ModeS.getLsbD_getbits _ (by omega) (by omega) (by omega), hposition, bitAt_cons,
    decide_eq_true (show 5 - j ≤ 14 + 6 * k - (9 + 6 * k) by omega), Bool.true_and]
  rfl

/-- The item after `cat021_setTargetId`. -/
def targetIdItem (toc : Nat → SpecItem) (packet : Packet) (idx : Nat) (tid : Fin 8 → Byte) : Item :=
  ((Call.setTargetId tid).run toc packet).2.fields idx

/-- **Main theorem.** Mode S decoding reads from the item of a callsign the callsign, and the item of
a callsign that was decoded from an identification message has the six bytes of the message. -/
theorem targetId_inverts (toc : Nat → SpecItem) (packet : Packet) {idx : Nat}
    (hidx : getItemIdx toc .i170 = some idx) (hsize : (toc idx).size = 6) :
    (∀ tid : Fin 8 → Byte, (∀ k, CallsignChar (tid k)) → ∀ (byte : Byte) (d : Decoded),
      (decodeESIdentAndCategory (byte :: (targetIdItem toc packet idx tid).bytes) d).callsign =
        some (List.ofFn tid)) ∧
    ∀ (me : List Byte) (d : Decoded) (callsign : List Byte), me.length = 7 →
      (decodeESIdentAndCategory me d).callsign = some callsign →
        (targetIdItem toc packet idx fun k => callsign.getD k 0).bytes = me.drop 1 := by
  have hbytes : ∀ tid, (targetIdItem toc packet idx tid).bytes = (Call.setTargetId tid).data := by
    intro tid
    have hitem : targetIdItem toc packet idx tid = ⟨true, 6, (Call.setTargetId tid).data⟩ := by
      simp only [targetIdItem, Call.run, Call.frn, Call.accepted, Call.item, if_true, hidx, setItem,
        Function.update_self, hsize]
    rw [hitem]
    rfl
  constructor
  · intro tid hchars byte d
    have hcallsign := callsignAt_setTargetId byte tid hchars
    have hvalid : ∀ c ∈ List.ofFn tid, CallsignChar c := by
      intro c hc
      obtain ⟨k, rfl⟩ := (List.mem_ofFn' tid c).mp hc
      exact hchars k
    rw [hbytes]
    unfold decodeESIdentAndCategory
    dsimp only
    rw [hcallsign, if_pos hvalid]
  · intro me d callsign hlen hcallsign
    unfold decodeESIdentAndCategory at hcallsign
    dsimp only at hcallsign
    split at hcallsign
    · obtain rfl := Option.some.inj hcallsign
      rw [hbytes]
      exact setTargetId_callsignAt hlen
    · cases hcallsign

/-- Both ways, with the specification table that is loaded. -/
theorem targetId_inverts_loaded :
    (∀ tid : Fin 8 → Byte, (∀ k, CallsignChar (tid k)) → ∀ (byte : Byte) (d : Decoded),
      (decodeESIdentAndCategory (byte :: (targetIdItem cat21Spec preparePacket (cat21Frn .i170) tid).bytes)
        d).callsign = some (List.ofFn tid)) ∧
    ∀ (me : List Byte) (d : Decoded) (callsign : List Byte), me.length = 7 →
      (decodeESIdentAndCategory me d).callsign = some callsign →
        (targetIdItem cat21Spec preparePacket (cat21Frn .i170) fun k => callsign.getD k 0).bytes = me.drop 1 :=
  targetId_inverts cat21Spec preparePacket (by decide) (by decide)

end RbFeeder.Asterix
