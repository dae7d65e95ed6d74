import RbFeeder.Asterix.Datagram

/-! Single items of a packet.

An item of a packet is found under its FRN. It has the data of the last call that set it
(`item_build`). -/
namespace RbFeeder.Asterix

/-- The data of an item of a packet, if it is in use. -/
def Packet.item (toc : Nat → SpecItem) (packet : Packet) (id : ItemId) : Option (List Byte) :=
  (getItemIdx toc id).bind fun i => if (packet.fields i).in_use then some (packet.fields i).data else none

theorem getItemIdx_loaded {toc : Nat → SpecItem} (h : LoadedSpec toc) (id : ItemId) :
    ∃ i, getItemIdx toc id = some i := by
  obtain ⟨frn, hrange, hunique, -⟩ := h.frn id
  have hlt : frn < maxCat21Items := Nat.lt_of_le_of_lt hrange.2 (by decide)
  cases hfind : getItemIdx toc id with
  | some i => exact ⟨i, rfl⟩
  | none =>
    have hnone := List.find?_eq_none.mp hfind frn (List.mem_range.mpr hlt)
    exact absurd (decide_eq_true ((hunique frn hlt).mpr rfl)) hnone

/-- Different items have different FRNs. -/
theorem getItemIdx_iff {toc : Nat → SpecItem} (h : LoadedSpec toc) {id id' : ItemId} {i : Nat}
    (hi : getItemIdx toc id = some i) : getItemIdx toc id' = some i ↔ id' = id := by
  refine ⟨fun hi' => ?_, fun heq => heq ▸ hi⟩
  have hsame := (getItemIdx_some h hi').2.1.symm.trans (getItemIdx_some h hi).2.1
  exact Option.some.inj hsame

/-- **The data of an item.** -/
theorem item_build {toc : Nat → SpecItem} (h : LoadedSpec toc) (calls : List Call) (id : ItemId) :
    (build toc calls).item toc id =
      ((calls.filter fun c => c.item = id).filter Call.accepted).getLast?.map Call.data := by
  obtain ⟨i, hi⟩ := getItemIdx_loaded h id
  have hcalls : (calls.filter fun c => c.frn toc = some i) =
      (calls.filter fun c => c.item = id).filter Call.accepted := by
    rw [List.filter_filter]
    refine List.filter_congr fun c _ => ?_
    rw [Call.frn]
    cases c.accepted
    · simp
    · simp [getItemIdx_iff h hi]
  rw [Packet.item, hi, Option.bind_some, fields_build, lastData, hcalls]
  cases (List.filter Call.accepted (calls.filter fun c => c.item = id)).getLast? <;> rfl

end RbFeeder.Asterix
