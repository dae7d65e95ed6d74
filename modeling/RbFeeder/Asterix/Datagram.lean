import RbFeeder.Asterix.Packet
import RbFeeder.Lib.ExtensionBits

/-! What is sent can be read.

The specification table gives each item an FRN of its own between 1 and 49 and the length
that its function writes. Then the FSPEC bytes in use are a prefix, with the extension
bit set below the last one, and the flag of an FRN is set exactly if its item is in use
(`Consistent`); every call keeps it so. **Main theorem:** `build_datagram`. -/
namespace RbFeeder.Asterix
open ExtensionBits

/-- The specification table as it should be loaded. -/
structure LoadedSpec (toc : Nat → SpecItem) : Prop where
  frn : ∀ id, ∃ frn, (1 ≤ frn ∧ frn ≤ 49) ∧
    (∀ i, i < maxCat21Items → ((toc i).id = some id ↔ i = frn)) ∧ (toc frn).size = id.length

/-- The data last set under an FRN. -/
def lastData (toc : Nat → SpecItem) (calls : List Call) (i : Nat) : Option (List Byte) :=
  (calls.filter fun c => c.frn toc = some i).getLast?.map Call.data

/-- An item in a packet with this data, or one that was not set. -/
def itemOf (toc : Nat → SpecItem) (i : Nat) : Option (List Byte) → Item
  | some data => ⟨true, (toc i).size, data⟩
  | none => ⟨false, 0, []⟩

/-! ### Calls -/

theorem getItemIdx_some {toc : Nat → SpecItem} (h : LoadedSpec toc) {id : ItemId} {i : Nat}
    (hi : getItemIdx toc id = some i) :
    (1 ≤ i ∧ i ≤ 49) ∧ (toc i).id = some id ∧ (toc i).size = id.length := by
  have hid : (toc i).id = some id := by simpa using List.find?_some hi
  have hlt : i < maxCat21Items := List.mem_range.mp (List.mem_of_find?_eq_some hi)
  obtain ⟨frn, hrange, hunique, hsize⟩ := h.frn id
  obtain rfl : i = frn := (hunique i hlt).mp hid
  exact ⟨hrange, hid, hsize⟩

theorem Call.frn_some {toc : Nat → SpecItem} (h : LoadedSpec toc) {c : Call} {i : Nat}
    (hi : c.frn toc = some i) :
    (1 ≤ i ∧ i ≤ 49) ∧ (toc i).id = some c.item ∧ (toc i).size = c.data.length := by
  unfold Call.frn at hi
  split at hi
  · rw [c.length_data]
    exact getItemIdx_some h hi
  · cases hi

/-! ### The FSPEC -/

theorem getLsbD_setBit (byte : Byte) {position j : Nat} (hj : j < 8) :
    (setBit byte position).getLsbD j = (byte.getLsbD j || decide (j = position)) := by
  have hone : ((1 : Byte) <<< position).getLsbD j = decide (j = position) := by
    rw [BitVec.getLsbD_shiftLeft]
    by_cases h : j < position
    · simp [h, Nat.ne_of_lt h]
    · have hsub : (1 : Byte).getLsbD (j - position) = decide (j - position = 0) := by
        simp [BitVec.getLsbD_one]
      rw [hsub]
      by_cases heq : j = position
      · simp [heq]
        omega
      · have hpos : j - position ≠ 0 := by omega
        simp [heq, hpos]
  rw [setBit, BitVec.getLsbD_or, hone]

theorem map2bit_eq {i : Nat} (hi : i < 7) : map2bit (i + 1) = 7 - i := by
  interval_cases i <;> rfl

section
variable (packet : Packet) {b i : Nat}

/-- Marking the FRN of flag `i` in byte `b`. -/
theorem setFrnInuse_eq (hi : i < 7) :
    setFrnInuse packet (7 * b + i + 1) =
      setByteInuse
        { packet with
          fspec := Function.update packet.fspec b
            ⟨setBit (packet.fspec b).fspec_byte (7 - i), (packet.fspec b).inuse⟩ } b := by
  have hbyte : (7 * b + i + 1) / 7 + (if (7 * b + i + 1) % 7 > 0 then 1 else 0) - 1 = b := by
    split <;> omega
  have hflag : map2bit (7 * b + i + 1 - b * 7) = 7 - i := by
    have hsub : 7 * b + i + 1 - b * 7 = i + 1 := by omega
    rw [hsub, map2bit_eq hi]
  simp only [setFrnInuse, hbyte, hflag]

theorem setFrnInuse_inuse (hi : i < 7) (k : Nat) :
    ((setFrnInuse packet (7 * b + i + 1)).fspec k).inuse = (decide (k ≤ b) || (packet.fspec k).inuse) := by
  rw [setFrnInuse_eq packet hi]
  simp only [setByteInuse]
  by_cases hlt : k < b
  · simp [hlt, hlt.le]
  · by_cases heq : k = b
    · simp [heq]
    · have hle : ¬ k ≤ b := by omega
      simp [hlt, heq, hle]

theorem setFrnInuse_more (hi : i < 7) (k : Nat) :
    ((setFrnInuse packet (7 * b + i + 1)).fspec k).fspec_byte.getLsbD 0 =
      ((packet.fspec k).fspec_byte.getLsbD 0 || decide (k < b)) := by
  rw [setFrnInuse_eq packet hi]
  simp only [setByteInuse]
  by_cases hlt : k < b
  · simp only [hlt, if_true, decide_true, Bool.or_true, Function.update_of_ne (Nat.ne_of_lt hlt)]
    rw [getLsbD_setBit _ (by decide), decide_eq_true rfl, Bool.or_true]
  · by_cases heq : k = b
    · subst heq
      have hne : ¬ 0 = 7 - i := by omega
      simp only [lt_irrefl, if_false, if_true, Function.update_self, decide_false, Bool.or_false]
      rw [getLsbD_setBit _ (by decide), decide_eq_false hne, Bool.or_false]
    · simp only [hlt, heq, if_false, decide_false, Bool.or_false, Function.update_of_ne heq]

theorem setFrnInuse_flag (hi : i < 7) (k : Nat) {j : Nat} (hj : j < 7) :
    ((setFrnInuse packet (7 * b + i + 1)).fspec k).fspec_byte.getLsbD (7 - j) =
      ((packet.fspec k).fspec_byte.getLsbD (7 - j) || decide (7 * k + j = 7 * b + i)) := by
  have hext : ¬ 7 - j = 0 := by omega
  rw [setFrnInuse_eq packet hi]
  simp only [setByteInuse]
  by_cases hlt : k < b
  · have hne : ¬ 7 * k + j = 7 * b + i := by omega
    simp only [hlt, if_true, hne, decide_false, Bool.or_false, Function.update_of_ne (Nat.ne_of_lt hlt)]
    rw [getLsbD_setBit _ (by omega), decide_eq_false hext, Bool.or_false]
  · by_cases heq : k = b
    · subst heq
      simp only [lt_irrefl, if_false, if_true, Function.update_self]
      rw [getLsbD_setBit _ (by omega)]
      congr 1
      exact decide_eq_decide.mpr ⟨fun h => by omega, fun h => by omega⟩
    · have hne : ¬ 7 * k + j = 7 * b + i := by omega
      simp only [hlt, heq, if_false, hne, decide_false, Bool.or_false, Function.update_of_ne heq]

end

/-- `n` bytes of the FSPEC are in use, and they say what items are. -/
structure Consistent (packet : Packet) (n : Nat) : Prop where
  le : n ≤ 7
  inuse : ∀ k, (packet.fspec k).inuse = decide (k < n)
  more : ∀ k, (packet.fspec k).fspec_byte.getLsbD 0 = decide (k + 1 < n)
  flag : ∀ k i, i < 7 → (packet.fspec k).fspec_byte.getLsbD (7 - i) = (packet.fields (7 * k + i + 1)).in_use
  range : ∀ i, (packet.fields i).in_use = true → 1 ≤ i ∧ i ≤ 7 * n
  used : 0 < n → ∃ i, (packet.fields i).in_use = true

theorem consistent_prepare : Consistent preparePacket 0 where
  le := Nat.zero_le 7
  inuse _ := rfl
  more k := by
    rw [decide_eq_false (Nat.not_lt_zero (k + 1))]
    exact BitVec.getLsbD_zero
  flag _ _ _ := BitVec.getLsbD_zero
  range _ h := nomatch h
  used h := absurd h (lt_irrefl 0)

/-- A call that succeeds keeps the packet consistent. -/
theorem Consistent.setItem {packet : Packet} {n b i : Nat} (h : Consistent packet n) (hi : i < 7)
    (hb : b < 7) (toc : Nat → SpecItem) (data : List Byte) :
    Consistent (setItem toc packet (7 * b + i + 1) data) (max n (b + 1)) where
  le := max_le h.le hb
  inuse k := by
    have hinuse := setFrnInuse_inuse packet (b := b) hi k
    rw [h.inuse k, ← Bool.decide_or] at hinuse
    refine hinuse.trans (decide_eq_decide.mpr ?_)
    omega
  more k := by
    have hmore := setFrnInuse_more packet (b := b) hi k
    rw [h.more k, ← Bool.decide_or] at hmore
    refine hmore.trans (decide_eq_decide.mpr ?_)
    omega
  flag k j hj := by
    refine (setFrnInuse_flag packet (b := b) hi k hj).trans ?_
    rw [h.flag k j hj]
    simp only [Asterix.setItem]
    by_cases heq : 7 * k + j = 7 * b + i
    · rw [heq, Function.update_self, decide_eq_true rfl, Bool.or_true]
    · rw [Function.update_of_ne (by omega), decide_eq_false heq, Bool.or_false]
      rfl
  range j hj := by
    simp only [Asterix.setItem] at hj
    by_cases heq : j = 7 * b + i + 1
    · omega
    · rw [Function.update_of_ne heq] at hj
      have hrange := h.range j hj
      omega
  used _ := by
    refine ⟨7 * b + i + 1, ?_⟩
    simp only [Asterix.setItem]
    rw [Function.update_self]

/-- The packet is consistent after any calls. -/
theorem consistent_build {toc : Nat → SpecItem} (h : LoadedSpec toc) (calls : List Call) :
    ∃ n, Consistent (build toc calls) n := by
  induction calls using List.reverseRecOn with
  | nil => exact ⟨0, consistent_prepare⟩
  | append_singleton calls c ih =>
    obtain ⟨n, hn⟩ := ih
    rw [build, List.foldl_append, List.foldl_cons, List.foldl_nil, ← build, Call.run]
    cases hfrn : c.frn toc with
    | none => exact ⟨n, hn⟩
    | some frn =>
      obtain ⟨hrange, -⟩ := c.frn_some h hfrn
      obtain ⟨b, i, hb, hi, rfl⟩ : ∃ b i, b < 7 ∧ i < 7 ∧ frn = 7 * b + i + 1 :=
        ⟨(frn - 1) / 7, (frn - 1) % 7, by omega, by omega, by omega⟩
      exact ⟨_, hn.setItem hi hb toc c.data⟩

/-- An item has the data last set. -/
theorem fields_build (toc : Nat → SpecItem) (calls : List Call) (i : Nat) :
    (build toc calls).fields i = itemOf toc i (lastData toc calls i) := by
  induction calls using List.reverseRecOn with
  | nil => rfl
  | append_singleton calls c ih =>
    rw [build, List.foldl_append, List.foldl_cons, List.foldl_nil, ← build, Call.run, lastData,
      List.filter_append]
    cases hfrn : c.frn toc with
    | none =>
      have hnone : [c].filter (fun c => decide (c.frn toc = some i)) = [] := by
        simp [hfrn]
      rw [hnone, List.append_nil]
      exact ih
    | some frn =>
      by_cases heq : frn = i
      · subst heq
        have hone : [c].filter (fun c => decide (c.frn toc = some frn)) = [c] := by
          simp [hfrn]
        rw [hone, List.getLast?_concat]
        exact Function.update_self ..
      · have hnone : [c].filter (fun c => decide (c.frn toc = some i)) = [] := by
          simp [hfrn, heq]
        rw [hnone, List.append_nil]
        exact (Function.update_of_ne (Ne.symm heq) ..).trans ih

/-- The items in use are those that a call has set. -/
theorem in_use_build (toc : Nat → SpecItem) (calls : List Call) (i : Nat) :
    ((build toc calls).fields i).in_use = true ↔ ∃ c ∈ calls, c.frn toc = some i := by
  rw [fields_build, lastData]
  cases hlast : (calls.filter fun c => c.frn toc = some i).getLast? with
  | none =>
    have hnil := List.getLast?_eq_none_iff.mp hlast
    refine ⟨(fun h => nomatch h), fun h => ?_⟩
    obtain ⟨c, hc, hfrn⟩ := h
    have hmem : c ∈ calls.filter fun c => c.frn toc = some i :=
      List.mem_filter.mpr ⟨hc, decide_eq_true hfrn⟩
    rw [hnil] at hmem
    exact absurd hmem List.not_mem_nil
  | some c =>
    have hmem := List.mem_filter.mp (List.mem_of_getLast? hlast)
    exact ⟨fun _ => ⟨c, hmem.1, of_decide_eq_true hmem.2⟩, fun _ => rfl⟩

/-- Data is as long as the table says. -/
theorem length_lastData {toc : Nat → SpecItem} (h : LoadedSpec toc) {calls : List Call} {i : Nat}
    {data : List Byte} (hdata : lastData toc calls i = some data) : data.length = (toc i).size := by
  obtain ⟨c, hlast, rfl⟩ := Option.map_eq_some_iff.mp hdata
  have hmem := List.mem_filter.mp (List.mem_of_getLast? hlast)
  exact (c.frn_some h (of_decide_eq_true hmem.2)).2.2.symm

/-! ### The datagram -/

namespace Consistent
variable {packet : Packet} {n : Nat}

/-- The FSPEC bytes that are sent. -/
theorem fspecBytes_eq (h : Consistent packet n) :
    packet.fspecBytes = (List.range n).map fun k => (packet.fspec k).fspec_byte := by
  have hprefix : (List.range maxCat21FspecBytes).filter (fun i => decide (i < n)) = List.range n := by
    have hle := h.le
    interval_cases n <;> rfl
  simp only [Packet.fspecBytes, h.inuse, hprefix]

/-- The items that are sent are those with a flag in the bytes that are sent. -/
theorem inUse_eq (h : Consistent packet n) :
    packet.inUse = (List.range' 1 (7 * n)).filter fun i => (packet.fields i).in_use := by
  have hle := h.le
  have hsplit : List.range maxCat21Items =
      [0] ++ List.range' 1 (7 * n) ++ List.range' (1 + 7 * n) (99 - 7 * n) := by
    interval_cases n <;> rfl
  have hzero : [0].filter (fun i => (packet.fields i).in_use) = [] := by
    refine List.filter_eq_nil_iff.mpr fun i hi hused => ?_
    have hrange := h.range i hused
    have hi : i = 0 := by simpa using hi
    omega
  have hrest : (List.range' (1 + 7 * n) (99 - 7 * n)).filter (fun i => (packet.fields i).in_use) = [] := by
    refine List.filter_eq_nil_iff.mpr fun i hi hused => ?_
    have hrange := h.range i hused
    have hi := List.mem_range'_1.mp hi
    omega
  rw [Packet.inUse, hsplit, List.filter_append, List.filter_append, hzero, hrest, List.nil_append,
    List.append_nil]

/-- The FSPEC reads as the items in use. -/
theorem readBitmap_eq (h : Consistent packet n) (hn : 0 < n) (rest : List Byte) :
    readBitmap (packet.fspecBytes ++ rest) = some (packet.inUse, rest) := by
  have hread := readBitmap_chain (fun k => (packet.fspec k).fspec_byte)
    (fun k _ => by rw [h.more k, decide_eq_true_iff]) hn rest
  have hflags := flatMap_flags (n := n) (fun k => (packet.fspec k).fspec_byte)
    (fun i => (packet.fields i).in_use) fun k i _ hi => h.flag k i hi
  rw [h.fspecBytes_eq, hread, hflags, h.inUse_eq]

end Consistent

/-- Copying as many bytes as there are. -/
theorem copy_data (data : List Byte) : (List.range data.length).map (fun x => data.getD x 0) = data := by
  refine List.ext_getElem (by simp) fun x _ hx => ?_
  simp [hx]

/-- All items. -/
def ItemId.all : List ItemId :=
  [.i008, .i010, .i015, .i016, .i020, .i070, .i071, .i072, .i073, .i074, .i075, .i076, .i077, .i080,
    .i130, .i131, .i132, .i140, .i145, .i146, .i148, .i150, .i151, .i152, .i155, .i157, .i160, .i161,
    .i165, .i170, .i200, .i210, .i230, .i400]

theorem ItemId.mem_all (id : ItemId) : id ∈ ItemId.all := by
  cases id <;> decide

/-- Different items together are not longer than all items. -/
theorem sum_length_le {ids : List ItemId} (h : ids.Nodup) : (ids.map ItemId.length).sum ≤ 86 := by
  have hsub : ids.Subperm ItemId.all := h.subperm fun id _ => id.mem_all
  obtain ⟨l, hperm, hsublist⟩ := hsub
  have hsum : (l.map ItemId.length).sum = (ids.map ItemId.length).sum := (hperm.map _).sum_eq
  rw [← hsum]
  exact (hsublist.map ItemId.length).sum_le_sum (fun _ _ => Nat.zero_le _)

/-- The data sent is not longer than all items together. -/
theorem sum_size_le {toc : Nat → SpecItem} (h : LoadedSpec toc) (calls : List Call) :
    ((build toc calls).inUse.map fun i => ((build toc calls).fields i).size).sum ≤ 86 := by
  have hitem : ∀ i ∈ (build toc calls).inUse,
      (toc i).id = some ((toc i).id.getD .i008) ∧
        ((build toc calls).fields i).size = ((toc i).id.getD .i008).length := by
    intro i hi
    have hused : ((build toc calls).fields i).in_use = true := (List.mem_filter.mp hi).2
    obtain ⟨c, -, hfrn⟩ := (in_use_build toc calls i).mp hused
    obtain ⟨-, hid, hsize⟩ := c.frn_some h hfrn
    rw [fields_build] at hused ⊢
    cases hdata : lastData toc calls i with
    | none =>
      rw [hdata] at hused
      exact nomatch hused
    | some data =>
      have hsizes : (itemOf toc i (some data)).size = (toc i).size := rfl
      rw [hid, hsizes, hsize, c.length_data]
      exact ⟨rfl, rfl⟩
  have hnodup : ((build toc calls).inUse.map fun i => (toc i).id.getD .i008).Nodup := by
    refine List.Nodup.map_on (fun i hi j hj heq => ?_) (List.nodup_range.filter _)
    obtain ⟨frn, -, hunique, -⟩ := h.frn ((toc i).id.getD .i008)
    have hlt : ∀ k ∈ (build toc calls).inUse, k < maxCat21Items := fun k hk =>
      List.mem_range.mp (List.mem_filter.mp hk).1
    have hi' := (hunique i (hlt i hi)).mp (hitem i hi).1
    have hj' := (hunique j (hlt j hj)).mp (heq ▸ (hitem j hj).1)
    exact hi'.trans hj'.symm
  have hsizes : ((build toc calls).inUse.map fun i => ((build toc calls).fields i).size) =
      ((build toc calls).inUse.map fun i => (toc i).id.getD .i008).map ItemId.length := by
    rw [List.map_map]
    exact List.map_congr_left fun i hi => (hitem i hi).2
  rw [hsizes]
  exact sum_length_le hnodup

/-- A datagram read by the FSPEC rule: category, length, the FRNs and what follows the
FSPEC. A datagram without an FSPEC has no items. -/
def readDatagram : List Byte → Option (Byte × Nat × List Nat × List Byte)
  | category :: high :: low :: rest =>
    if rest = [] then some (category, high.toNat * 256 + low.toNat, [], [])
    else (readBitmap rest).map fun r => (category, high.toNat * 256 + low.toNat, r.1, r.2)
  | _ => none

/-- The items that are sent, one after the other. -/
theorem payload_eq {toc : Nat → SpecItem} (h : LoadedSpec toc) (calls : List Call) :
    ((build toc calls).inUse.flatMap fun i => (List.range ((build toc calls).fields i).size).map fun x =>
        ((build toc calls).fields i).data.getD x 0) =
      (build toc calls).inUse.flatMap fun i => (lastData toc calls i).getD [] := by
  refine List.flatMap_congr fun i hi => ?_
  rw [fields_build]
  cases hdata : lastData toc calls i with
  | none => rfl
  | some data =>
    have hsize := length_lastData h hdata
    simp only [itemOf, Option.getD_some, ← hsize]
    exact copy_data data

/-- The length field is right. -/
theorem length_datagram {toc : Nat → SpecItem} (h : LoadedSpec toc) (calls : List Call) :
    (build toc calls).datagram.length = (build toc calls).datalen ∧ (build toc calls).datalen < 256 := by
  obtain ⟨n, hn⟩ := consistent_build h calls
  have hsum := sum_size_le h calls
  have hbytes : (build toc calls).fspecBytes.length = n := by
    rw [hn.fspecBytes_eq, List.length_map, List.length_range]
  have hle := hn.le
  constructor
  · rw [Packet.datagram, Packet.datalen, List.length_append, List.length_append, List.length_flatMap]
    simp only [List.length_map, List.length_range, List.length_cons, List.length_nil]
    omega
  · rw [Packet.datalen, hbytes]
    omega

/-- **Main theorem.** With the specification loaded, the datagram of a packet on which
`calls` were made reads as its own length, the FRNs that a call has set, in order, and
the last data of each of them. A call returns -1 and leaves the packet alone, or
returns 1 and sets an FRN. -/
theorem build_datagram {toc : Nat → SpecItem} (h : LoadedSpec toc) (calls : List Call) :
    (∃ frns, readDatagram (build toc calls).datagram =
        some (21, (build toc calls).datagram.length, frns,
          frns.flatMap fun i => (lastData toc calls i).getD []) ∧
      frns.Pairwise (· < ·) ∧ ∀ i, i ∈ frns ↔ ∃ c ∈ calls, c.frn toc = some i) ∧
    ∀ (packet : Packet) (c : Call), ((c.run toc packet).1 = 1 ∧ ∃ i, c.frn toc = some i) ∨
      (c.run toc packet = (-1, packet) ∧ c.frn toc = none) := by
  refine ⟨⟨(build toc calls).inUse, ?_, ?_, fun i => ?_⟩, fun packet c => ?_⟩
  · obtain ⟨n, hn⟩ := consistent_build h calls
    obtain ⟨hlength, hlt⟩ := length_datagram h calls
    have hlow : (BitVec.ofNat 8 (build toc calls).datalen).toNat = (build toc calls).datalen := by
      rw [BitVec.toNat_ofNat, Nat.mod_eq_of_lt hlt]
    rw [hlength, Packet.datagram, payload_eq h, List.append_assoc]
    simp only [List.cons_append, List.nil_append, readDatagram, hlow]
    by_cases hzero : n = 0
    · subst hzero
      have hnone : (build toc calls).inUse = [] := hn.inUse_eq
      have hbytes : (build toc calls).fspecBytes = [] := hn.fspecBytes_eq
      rw [hnone, hbytes]
      simp
    · have hread := hn.readBitmap_eq (Nat.pos_of_ne_zero hzero)
        ((build toc calls).inUse.flatMap fun i => (lastData toc calls i).getD [])
      have hne : (build toc calls).fspecBytes ++
          (build toc calls).inUse.flatMap (fun i => (lastData toc calls i).getD []) ≠ [] := by
        intro hnil
        rw [hnil] at hread
        cases hread
      rw [if_neg hne, hread]
      simp
  · exact List.pairwise_lt_range.filter _
  · rw [← in_use_build, Packet.inUse, List.mem_filter, List.mem_range]
    refine ⟨fun hi => hi.2, fun hi => ⟨?_, hi⟩⟩
    obtain ⟨c, -, hfrn⟩ := (in_use_build toc calls i).mp hi
    have hrange := (c.frn_some h hfrn).1
    exact Nat.lt_of_le_of_lt hrange.2 (by decide)
  · unfold Call.run
    cases hfrn : c.frn toc with
    | none => exact Or.inr ⟨rfl, rfl⟩
    | some i => exact Or.inl ⟨rfl, i, rfl⟩

/-! ### A specification table -/

/-- The FRNs of category 21. -/
def cat21Frn : ItemId → Nat
  | .i010 => 1
  | .i161 => 3
  | .i015 => 4
  | .i071 => 5
  | .i130 => 6
  | .i131 => 7
  | .i072 => 8
  | .i150 => 9
  | .i151 => 10
  | .i080 => 11
  | .i073 => 12
  | .i074 => 13
  | .i075 => 14
  | .i076 => 15
  | .i140 => 16
  | .i210 => 18
  | .i070 => 19
  | .i230 => 20
  | .i145 => 21
  | .i152 => 22
  | .i200 => 23
  | .i155 => 24
  | .i157 => 25
  | .i160 => 26
  | .i165 => 27
  | .i077 => 28
  | .i170 => 29
  | .i020 => 30
  | .i146 => 32
  | .i148 => 33
  | .i016 => 35
  | .i008 => 36
  | .i132 => 38
  | .i400 => 41

/-- The table with these FRNs. -/
def cat21Spec (i : Nat) : SpecItem :=
  ⟨ItemId.all.find? fun id => cat21Frn id = i,
    ((ItemId.all.find? fun id => cat21Frn id = i).map ItemId.length).getD 0⟩

theorem cat21Frn_injective {id id' : ItemId} (h : cat21Frn id = cat21Frn id') : id = id' :=
  List.inj_on_of_nodup_map (show (ItemId.all.map cat21Frn).Nodup by decide) id.mem_all id'.mem_all h

theorem find_cat21Frn (id : ItemId) :
    (ItemId.all.find? fun id' => cat21Frn id' = cat21Frn id) = some id := by
  cases hfind : ItemId.all.find? fun id' => cat21Frn id' = cat21Frn id with
  | none =>
    have hnone := List.find?_eq_none.mp hfind id id.mem_all
    exact absurd (decide_eq_true rfl) hnone
  | some id' =>
    have hsame : cat21Frn id' = cat21Frn id := by simpa using List.find?_some hfind
    rw [cat21Frn_injective hsame]

theorem cat21Spec_loaded : LoadedSpec cat21Spec where
  frn id := by
    refine ⟨cat21Frn id, ?_, fun i _ => ⟨fun hi => ?_, fun hi => ?_⟩, ?_⟩
    · cases id <;> decide
    · have hfrn : cat21Frn id = i := by simpa using List.find?_some hi
      exact hfrn.symm
    · rw [hi]
      exact find_cat21Frn id
    · simp only [cat21Spec, find_cat21Frn]
      rfl

/-- Two items set, one of them twice, and a call that fails. -/
def trackCalls : List Call :=
  [.setTrackNumber 7, .setServiceId 0, .setDataSourceSACSIC 1 2, .setTrackNumber 9]

theorem build_datagram_cat21 :
    ∃ frns, readDatagram (build cat21Spec trackCalls).datagram =
        some (21, (build cat21Spec trackCalls).datagram.length, frns,
          frns.flatMap fun i => (lastData cat21Spec trackCalls i).getD []) ∧
      frns.Pairwise (· < ·) ∧ ∀ i, i ∈ frns ↔ ∃ c ∈ trackCalls, c.frn cat21Spec = some i :=
  (build_datagram cat21Spec_loaded trackCalls).1

end RbFeeder.Asterix
