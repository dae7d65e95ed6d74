import RbFeeder.Airnav.WaitCmds

/-! A server frame after garbage.

While the loop hunts for a marker its buffer is the end of the garbage
(`Hunting`), emptied each time it is full. A marker that arrives in one buffer
leaves exactly the marker in front; from there the frame is collected byte by byte.
The clearing of a full buffer is not always harmless: when the first character of
the marker lands on the last place of the buffer it is thrown away, and with it the
frame (`frame_received_iff`). -/
namespace RbFeeder.Airnav
open ModeS (Byte byteAt)

/-- A frame with its length, start marker in front. -/
def frame (payload : List Byte) : List Byte :=
  txstart ++ [BitVec.ofNat 8 (payload.length / 256), BitVec.ofNat 8 payload.length] ++ payload

namespace Receiver

/-! ### In the garbage -/

/-- The loop after `garbage`, none of it a marker. -/
structure Hunting (size : Nat) (garbage : List Byte) (s : Receiver) : Prop where
  packetSize : s.packetSize = 0
  tempSize : s.tempSize = 0
  suffix : s.buf <:+ garbage
  length_le : s.buf.length ≤ size
  length_mod : s.buf.length % size = garbage.length % size

theorem hunting_empty (size : Nat) : Hunting size [] empty :=
  ⟨rfl, rfl, List.suffix_refl [], Nat.zero_le _, rfl⟩

/-- A buffer without a marker is only looked at. -/
theorem look_of_no_marker {s : Receiver} (h : ¬ txstart <:+: s.buf) : s.look = (s, []) := by
  have hfront : s.buf.take 2 ≠ txstart := fun heq => h (heq ▸ (List.take_prefix 2 s.buf).isInfix)
  have hback : s.buf.drop (s.bufIdx - 2) ≠ txstart :=
    fun heq => h (heq ▸ (List.drop_suffix _ s.buf).isInfix)
  simp only [look, if_neg hfront, if_neg hback, ite_self]

theorem hunting_receive {size : Nat} (hsize : 0 < size) {garbage : List Byte} {c : Byte}
    {s : Receiver} (h : Hunting size garbage s) (hmark : ¬ txstart <:+: garbage ++ [c]) :
    Hunting size (garbage ++ [c]) (s.receive size c).1 ∧ (s.receive size c).2 = [] := by
  have hstored : Hunting size (garbage ++ [c]) ((s.makeRoom size).store c) := by
    by_cases hroom : s.buf.length < size
    · rw [makeRoom_of_lt hroom]
      refine ⟨h.packetSize, h.tempSize, ?_, ?_, ?_⟩
      · obtain ⟨front, hfront⟩ := h.suffix
        exact ⟨front, by rw [← hfront, store, List.append_assoc]⟩
      · rw [store, List.length_append, List.length_singleton]
        exact hroom
      · simp only [store, List.length_append, List.length_singleton]
        rw [Nat.add_mod, h.length_mod, ← Nat.add_mod]
    · have hfull : s.buf.length = size := le_antisymm h.length_le (Nat.not_lt.mp hroom)
      have hmod := h.length_mod
      rw [hfull, Nat.mod_self] at hmod
      rw [makeRoom_of_full (Nat.not_lt.mp hroom)]
      refine ⟨rfl, rfl, List.suffix_append garbage [c], hsize, ?_⟩
      rw [List.length_append, Nat.add_mod, ← hmod, Nat.zero_add, Nat.mod_mod]
      rfl
  have hlook : s.receive size c = ((s.makeRoom size).store c, []) :=
    look_of_no_marker fun hin => hmark (hin.trans hstored.suffix.isInfix)
  rw [hlook]
  exact ⟨hstored, rfl⟩

theorem hunting_receiveAll {size : Nat} (hsize : 0 < size) (garbage : List Byte)
    (hmark : ¬ txstart <:+: garbage) :
    Hunting size garbage (empty.receiveAll size garbage).1 ∧
      (empty.receiveAll size garbage).2 = [] := by
  induction garbage using List.reverseRecOn with
  | nil => exact ⟨hunting_empty size, rfl⟩
  | append_singleton garbage c ih =>
    have hshort : ¬ txstart <:+: garbage := fun hin =>
      hmark (hin.trans (List.prefix_append garbage [c]).isInfix)
    obtain ⟨hhunt, hquiet⟩ := ih hshort
    obtain ⟨hhunt', hquiet'⟩ := hunting_receive hsize hhunt hmark
    rw [receiveAll_append]
    refine ⟨hhunt', ?_⟩
    rw [hquiet]
    simp only [receiveAll, hquiet', List.append_nil]

/-! ### At the marker -/

/-- The loop with a marker and nothing else. -/
def marked : Receiver := { empty with buf := txstart }

theorem receiveAll_txstart {size : Nat} (hsize : 2 ≤ size) (rest : List Byte) :
    empty.receiveAll size (txstart ++ rest) = marked.receiveAll size rest := by
  have hfirst : empty.receive size 0x7e = ({ empty with buf := [0x7e] }, []) := by
    rw [receive, makeRoom_of_lt (show 0 < size by omega)]
    rfl
  have hsecond : ({ empty with buf := [0x7e] } : Receiver).receive size 0x23 = (marked, []) := by
    rw [receive, makeRoom_of_lt (show 1 < size by omega)]
    rfl
  have hmarked : empty.receiveAll size txstart = (marked, []) := by
    simp only [txstart, receiveAll, hfirst, hsecond, List.append_nil]
  rw [receiveAll_append, hmarked]
  rfl

/-- The first character of the marker does not end one. -/
theorem no_marker_append_tilde {garbage : List Byte} (hmark : ¬ txstart <:+: garbage) :
    ¬ txstart <:+: garbage ++ [0x7e] := by
  intro hin
  obtain hend | hin := List.infix_concat_iff.mp hin
  · obtain hnil | ⟨front, hfront, -⟩ := List.suffix_concat_iff.mp hend
    · exact absurd hnil (by decide)
    · have hlast := congrArg List.getLast? hfront
      rw [List.getLast?_concat] at hlast
      exact absurd hlast (by decide)
  · exact hmark hin

/-- A marker at the end of the buffer, and nowhere else, is all that is left in it. -/
theorem look_marker {t : List Byte} (hmark : ¬ txstart <:+: t ++ [0x7e]) :
    ({ empty with buf := t ++ txstart } : Receiver).look = (marked, []) := by
  have hlen : 2 ≤ (t ++ txstart).length := by
    rw [List.length_append]
    exact Nat.le_add_left 2 _
  cases t with
  | nil => rfl
  | cons a rest =>
    have hfront : (a :: rest ++ txstart).take 2 ≠ txstart := by
      intro heq
      apply hmark
      have hpre : (a :: rest ++ [0x7e]).take 2 = txstart := by
        rw [← heq]
        cases rest <;> rfl
      exact hpre ▸ (List.take_prefix 2 _).isInfix
    have hback : (a :: rest ++ txstart).drop ((a :: rest ++ txstart).length - 2) = txstart := by
      rw [List.length_append]
      exact List.drop_left
    simp only [look, bufIdx, if_pos hlen, if_neg hfront]
    exact if_pos hback

/-- A marker that arrives in one buffer is found. -/
theorem receive_marker {size : Nat} {garbage : List Byte} (hmark : ¬ txstart <:+: garbage)
    {s : Receiver} (h : Hunting size (garbage ++ [0x7e]) s)
    (hroom : (garbage ++ [0x7e]).length % size ≠ 0) :
    s.receive size 0x23 = (marked, []) := by
  have hmod := h.length_mod
  have hlt : s.buf.length < size := by
    refine lt_of_le_of_ne h.length_le fun hfull => hroom ?_
    rw [← hmod, hfull, Nat.mod_self]
  obtain hnil | ⟨t, ht, hsuffix⟩ := List.suffix_concat_iff.mp h.suffix
  · rw [hnil] at hmod
    exact absurd (hmod.symm.trans (Nat.zero_mod size)) hroom
  · have hstored : s.store 0x23 = { empty with buf := t ++ txstart } := by
      simp only [store, ht, List.append_assoc, h.packetSize, h.tempSize]
      rfl
    have hno : ¬ txstart <:+: t ++ [0x7e] :=
      fun hin => no_marker_append_tilde hmark (hin.trans (ht ▸ h.suffix.isInfix))
    rw [receive, makeRoom_of_lt hlt, hstored, look_marker hno]

/-! ### In the frame -/

/-- The loop with the first bytes of a frame, its length among them. -/
def collecting (n : BitVec 16) (buf : List Byte) : Receiver :=
  { buf := buf, packetSize := n, tempSize := n }

/-- Behind a marker every byte is stored. -/
theorem receive_behind_marker {size : Nat} {s : Receiver} (c : Byte) (hmark : s.buf.take 2 = txstart)
    (hroom : s.buf.length < size) :
    s.receive size c = (s.store c).takeSize.takePacket := by
  have h2 : 2 ≤ s.buf.length := by
    have := congrArg List.length hmark
    rw [List.length_take] at this
    change min 2 s.buf.length = 2 at this
    omega
  have hlen : 2 ≤ (s.store c).bufIdx := by
    simp only [bufIdx, store, List.length_append]
    omega
  have hfront : (s.store c).buf.take 2 = txstart := by
    rw [store, List.take_append_of_le_length h2, hmark]
  rw [receive, makeRoom_of_lt hroom, look, if_pos hlen, if_pos hfront]

theorem takeSize_of_ne {s : Receiver} (h : s.buf.length ≠ 4) : s.takeSize = s := if_neg h

theorem takeSize_of_four {s : Receiver} {hi lo : Byte} (h : s.buf.length = 4)
    (hhi : byteAt s.buf 2 = hi) (hlo : byteAt s.buf 3 = lo) (hvalid : 2 < wireSize hi lo) :
    s.takeSize = collecting (wireSize hi lo) s.buf := by
  subst hhi hlo
  exact (if_pos h).trans (if_neg (BitVec.not_le.mpr hvalid))

theorem takePacket_of_short {s : Receiver} (h : s.buf.length ≤ 6) : s.takePacket = (s, []) :=
  if_neg fun hall => absurd hall.1 (Nat.not_lt.mpr h)

theorem takePacket_of_ne {s : Receiver} (h : s.packetSize.toNat ≠ s.buf.length - 4) :
    s.takePacket = (s, []) := if_neg fun hall => h hall.2

theorem receive_high {size : Nat} (hsize : 3 ≤ size) (hi : Byte) :
    marked.receive size hi =
      ({ empty with buf := txstart ++ [hi] }, []) := by
  have hlen : (marked.store hi).buf.length = 3 := rfl
  rw [receive_behind_marker hi rfl (show 2 < size by omega)]
  exact (congrArg takePacket (takeSize_of_ne (by rw [hlen]; decide))).trans
    (takePacket_of_short (by rw [hlen]; decide))

theorem receive_length {size : Nat} (hsize : 4 ≤ size) {hi lo : Byte} (hvalid : 2 < wireSize hi lo) :
    marked.receiveAll size [hi, lo] =
      (collecting (wireSize hi lo) (txstart ++ [hi, lo]), []) := by
  have hsized : ({ empty with buf := txstart ++ [hi, lo] } : Receiver).takeSize =
      collecting (wireSize hi lo) (txstart ++ [hi, lo]) := takeSize_of_four rfl rfl rfl hvalid
  have hsecond : ({ empty with buf := txstart ++ [hi] } : Receiver).receive size lo =
      (collecting (wireSize hi lo) (txstart ++ [hi, lo]), []) := by
    rw [receive_behind_marker lo rfl (show 3 < size by omega)]
    exact (congrArg takePacket hsized).trans (takePacket_of_short (Nat.le_add_left 4 2))
  simp only [receiveAll, receive_high (show 3 ≤ size by omega) hi, hsecond, List.append_nil]

/-- A length that is too small drops the marker. -/
theorem receive_short_length {size : Nat} (hsize : 4 ≤ size) {hi lo : Byte}
    (hshort : ¬ 2 < wireSize hi lo) :
    marked.receiveAll size [hi, lo] =
      ({ empty with tempSize := wireSize hi lo }, []) := by
  have hdropped : ({ empty with buf := txstart ++ [hi, lo] } : Receiver).takeSize =
      { empty with tempSize := wireSize hi lo } :=
    (if_pos (show (txstart ++ [hi, lo]).length = 4 from rfl)).trans
      (if_pos (BitVec.not_lt.mp hshort))
  have hsecond : ({ empty with buf := txstart ++ [hi] } : Receiver).receive size lo =
      ({ empty with tempSize := wireSize hi lo }, []) := by
    rw [receive_behind_marker lo rfl (show 3 < size by omega)]
    exact (congrArg takePacket hdropped).trans (takePacket_of_short (Nat.zero_le 6))
  simp only [receiveAll, receive_high (show 3 ≤ size by omega) hi, hsecond, List.append_nil]

/-- Up to its last byte a frame is only collected. -/
theorem receive_body {size : Nat} {n : BitVec 16} {buf : List Byte} (c : Byte)
    (hmark : buf.take 2 = txstart) (h4 : 4 ≤ buf.length) (hroom : buf.length < size)
    (hmore : buf.length < n.toNat + 3) :
    (collecting n buf).receive size c = (collecting n (buf ++ [c]), []) := by
  have hlen : (buf ++ [c]).length = buf.length + 1 := List.length_append
  rw [receive_behind_marker c hmark hroom]
  rw [takeSize_of_ne (show (buf ++ [c]).length ≠ 4 by omega)]
  exact takePacket_of_ne (show n.toNat ≠ (buf ++ [c]).length - 4 by omega)

theorem receive_last {size : Nat} {n : BitVec 16} {buf : List Byte} (c : Byte)
    (hmark : buf.take 2 = txstart) (h6 : 6 ≤ buf.length) (hroom : buf.length < size)
    (hlast : buf.length = n.toNat + 3) :
    (collecting n buf).receive size c = (empty, [{ tmp := buf ++ [c], pSize := n + 4 }]) := by
  have hlen : (buf ++ [c]).length = buf.length + 1 := List.length_append
  rw [receive_behind_marker c hmark hroom]
  rw [takeSize_of_ne (show (buf ++ [c]).length ≠ 4 by omega)]
  have hall : 6 < (buf ++ [c]).length ∧ n.toNat = (buf ++ [c]).length - 4 := by omega
  have htake : (buf ++ [c]).take (n.toNat + 4) = buf ++ [c] := List.take_of_length_le (by omega)
  refine (if_pos hall).trans ?_
  show (empty, [({ tmp := (buf ++ [c]).take (n.toNat + 4), pSize := n + 4 } : Call)]) = _
  rw [htake]

/-- The rest of a frame is collected and handed on with its last byte. -/
theorem receiveAll_body {size : Nat} {n : BitVec 16} {buf : List Byte} (rest : List Byte)
    (hne : rest ≠ []) (hmark : buf.take 2 = txstart) (h4 : 4 ≤ buf.length) (hvalid : 2 < n.toNat)
    (hroom : n.toNat + 4 ≤ size) (hlen : buf.length + rest.length = n.toNat + 4) :
    (collecting n buf).receiveAll size rest =
      (empty, [{ tmp := buf ++ rest, pSize := n + 4 }]) := by
  induction rest generalizing buf with
  | nil => exact absurd rfl hne
  | cons c rest ih =>
    rw [List.length_cons] at hlen
    cases rest with
    | nil =>
      have hlast : buf.length = n.toNat + 3 := by simpa using hlen
      have hroom' : buf.length < size := by omega
      rw [receiveAll, receive_last c hmark (by omega) hroom' hlast]
      rfl
    | cons d rest =>
      rw [List.length_cons] at hlen
      have hmark' : (buf ++ [c]).take 2 = txstart := by
        rw [List.take_append_of_le_length (by omega), hmark]
      have hlen' : (buf ++ [c]).length = buf.length + 1 := List.length_append
      have hrest := ih (List.cons_ne_nil d rest) hmark' (by omega)
        (by rw [hlen', List.length_cons]; omega)
      rw [receiveAll, receive_body c hmark h4 (by omega) (by omega), hrest, List.append_assoc]
      rfl

/-- **From its marker on a frame is handed on whole.** -/
theorem receiveAll_frame {size : Nat} {hi lo : Byte} {payload : List Byte}
    (hlen : payload.length = (wireSize hi lo).toNat) (h3 : 3 ≤ payload.length)
    (hroom : payload.length + 4 ≤ size) :
    marked.receiveAll size ([hi, lo] ++ payload) =
      (empty, [{ tmp := txstart ++ [hi, lo] ++ payload, pSize := wireSize hi lo + 4 }]) := by
  have hvalid : 2 < wireSize hi lo := by
    rw [BitVec.lt_def, ← hlen]
    exact h3
  have hne : payload ≠ [] := List.ne_nil_of_length_pos (by omega)
  have hbody : (collecting (wireSize hi lo) (txstart ++ [hi, lo])).receiveAll size payload =
      (empty, [{ tmp := txstart ++ [hi, lo] ++ payload, pSize := wireSize hi lo + 4 }]) :=
    receiveAll_body payload hne rfl (Nat.le_refl 4) hvalid (by omega)
      (by rw [← hlen]; exact Nat.add_comm ..)
  rw [receiveAll_append, receive_length (by omega) hvalid, hbody]
  rfl

/-! ### On the last place of the buffer -/

theorem hunting_makeRoom {size : Nat} {garbage : List Byte} {s : Receiver}
    (h : Hunting size garbage s) (hfull : garbage.length % size = 0) : s.makeRoom size = empty := by
  by_cases hroom : s.buf.length < size
  · have hnil : s.buf.length = 0 := by
      rw [← Nat.mod_eq_of_lt hroom, h.length_mod, hfull]
    rw [makeRoom_of_lt hroom]
    obtain ⟨buf, packetSize, tempSize⟩ := s
    obtain rfl := List.length_eq_zero_iff.mp hnil
    obtain rfl : packetSize = 0 := h.packetSize
    obtain rfl : tempSize = 0 := h.tempSize
    rfl
  · exact makeRoom_of_full (Nat.not_lt.mp hroom)

/-- The buffer is full with the first character of the marker, which is thrown away. -/
theorem receive_lost {size : Nat} {garbage : List Byte} {s : Receiver}
    (h : Hunting size (garbage ++ [0x7e]) s) (hfull : (garbage ++ [0x7e]).length % size = 0) :
    s.receive size 0x23 = ({ empty with buf := [0x23] }, []) := by
  rw [receive, hunting_makeRoom h hfull]
  rfl

end Receiver

/-! ### Frames after garbage -/

theorem wireSize_frame {n : Nat} (h : n < 2 ^ 16) :
    (wireSize (BitVec.ofNat 8 (n / 256)) (BitVec.ofNat 8 n)).toNat = n := by
  rw [toNat_wireSize, BitVec.toNat_ofNat, BitVec.toNat_ofNat]
  omega

theorem frame_eq (payload : List Byte) :
    frame payload = [0x7e] ++ 0x23 ::
      ([BitVec.ofNat 8 (payload.length / 256), BitVec.ofNat 8 payload.length] ++ payload) := rfl

theorem length_frame (payload : List Byte) : (frame payload).length = payload.length + 4 := by
  simp only [frame, txstart, List.length_append, List.length_cons, List.length_nil]
  omega

namespace Receiver

theorem receiveAll_found {size : Nat} {garbage payload : List Byte}
    (hmark : ¬ txstart <:+: garbage) (h3 : 3 ≤ payload.length) (hroom : payload.length + 4 ≤ size)
    (hshort : payload.length < 2 ^ 16) (hplace : (garbage.length + 1) % size ≠ 0) :
    empty.receiveAll size (garbage ++ frame payload) =
      (empty, [{ tmp := frame payload, pSize := BitVec.ofNat 16 (frame payload).length }]) := by
  obtain ⟨hhunt, hquiet⟩ :=
    hunting_receiveAll (show 0 < size by omega) _ (no_marker_append_tilde hmark)
  have hmarker := receive_marker hmark hhunt (by rwa [List.length_append])
  have hsize := wireSize_frame hshort
  have hframe := receiveAll_frame hsize.symm h3 hroom
  have hcall : wireSize (BitVec.ofNat 8 (payload.length / 256)) (BitVec.ofNat 8 payload.length) + 4 =
      BitVec.ofNat 16 (frame payload).length := by
    apply BitVec.eq_of_toNat_eq
    rw [BitVec.toNat_add, hsize, length_frame, BitVec.toNat_ofNat]
    rfl
  rw [frame_eq, ← List.append_assoc, receiveAll_append, hquiet, receiveAll, hmarker, hframe, hcall]
  rfl

theorem receiveAll_lost {size : Nat} {garbage payload : List Byte} {call : Call}
    (hmark : ¬ txstart <:+: garbage) (hsize : 0 < size) (hplace : (garbage.length + 1) % size = 0)
    (hcall : call ∈ (empty.receiveAll size (garbage ++ frame payload)).2) :
    call.tmp.length < (frame payload).length := by
  obtain ⟨hhunt, hquiet⟩ := hunting_receiveAll hsize _ (no_marker_append_tilde hmark)
  have hlost := receive_lost hhunt (by rwa [List.length_append])
  rw [frame_eq, ← List.append_assoc, receiveAll_append, hquiet, receiveAll, hlost] at hcall
  have hlen := (receiveAll_within size { empty with buf := [0x23] } _).calls call hcall
  rw [length_frame]
  simp only [List.length_append, List.length_cons, List.length_nil] at hlen
  omega

end Receiver

open Receiver in
/-- **A frame is received whole exactly if its marker does not straddle the end of the
buffer.** The full buffer is cleared between the two characters. -/
theorem frame_received_iff (garbage payload : List Byte) (hmark : ¬ txstart <:+: garbage)
    (h3 : 3 ≤ payload.length) (hmax : payload.length ≤ bufflen - 4) :
    empty.receiveAll bufflen (garbage ++ frame payload) =
        (empty, [{ tmp := frame payload, pSize := BitVec.ofNat 16 (frame payload).length }]) ↔
      garbage.length % bufflen ≠ bufflen - 1 := by
  have hplace : (garbage.length + 1) % bufflen = 0 ↔ garbage.length % bufflen = bufflen - 1 :=
    Nat.succ_mod_succ_eq_zero_iff
  have hroom : payload.length + 4 ≤ bufflen := by
    unfold bufflen at hmax ⊢
    omega
  rw [Ne, ← hplace]
  constructor
  · intro hreceived hlost
    have hcall : { tmp := frame payload, pSize := BitVec.ofNat 16 (frame payload).length } ∈
        (empty.receiveAll bufflen (garbage ++ frame payload)).2 := by
      rw [hreceived]
      exact List.mem_singleton_self _
    exact absurd (receiveAll_lost hmark (by decide) hlost hcall) (Nat.lt_irrefl _)
  · intro hfound
    refine receiveAll_found hmark h3 hroom ?_ hfound
    exact lt_of_le_of_lt hmax (by decide)

open Receiver in
/-- Garbage that ends in half a marker. -/
theorem frame_received_iff_short :
    empty.receiveAll bufflen ([0x41, 0x7e] ++ frame [1, 2, 3]) =
      (empty, [{ tmp := [0x7e, 0x23, 0, 3, 1, 2, 3], pSize := 7 }]) :=
  (frame_received_iff [0x41, 0x7e] [1, 2, 3] (by decide) (by decide) (by decide)).mpr (by decide)

open Receiver in
/-- After 4095 bytes of garbage no packet handed on is the frame. -/
theorem full_buffer_loses_frame :
    ¬ txstart <:+: List.replicate 4095 (0 : Byte) ∧
      ∀ call ∈ (empty.receiveAll bufflen (List.replicate 4095 0 ++ frame [1, 2, 3])).2,
        call.tmp ≠ frame [1, 2, 3] := by
  have hmark : ¬ txstart <:+: List.replicate 4095 (0 : Byte) := fun hin =>
    absurd (List.eq_of_mem_replicate (hin.subset (List.mem_cons_self ..))) (by decide)
  refine ⟨hmark, fun call hcall heq => ?_⟩
  have hplace : ((List.replicate 4095 (0 : Byte)).length + 1) % bufflen = 0 := by
    rw [List.length_replicate]
    rfl
  exact absurd (heq ▸ receiveAll_lost hmark (by decide) hplace hcall) (Nat.lt_irrefl _)

end RbFeeder.Airnav
