import RbFeeder.Lib.Base64
import RbFeeder.ModeS.Message

/-! What ANRB clients are sent: `airnav_anrb.c`.

A text is combined with the key by exclusive or, encoded, and ended with `~*`. Where a
character is that of the key, the result has a zero byte, so that its length is not that
of a C string any more. The packets of aircraft are encoded with the length of the text,
the greeting of a new connection up to the first zero byte. **Main theorem:**
`anrb_roundTrip_iff`.

The texts are those of small buffers; their lengths do not overflow. -/
namespace RbFeeder.Airnav
open ModeS (Byte byteAt)
open Base64 (Codec)

/-! ### Strings -/

/-- What stands in front of the terminating zero. -/
structure CString where
  bytes : List Byte
  no_nul : 0 ∉ bytes

/-- The string in memory. -/
def CString.memory (s : CString) : List Byte := s.bytes ++ [0]

/-- `strlen(memory)`. -/
def strlen (memory : List Byte) : Nat := (memory.takeWhile (· ≠ 0)).length

theorem takeWhile_memory {bytes : List Byte} (h : 0 ∉ bytes) (rest : List Byte) :
    (bytes ++ 0 :: rest).takeWhile (· ≠ 0) = bytes := by
  induction bytes with
  | nil => rfl
  | cons c bytes ih =>
    have hc : c ≠ 0 := fun hzero => h (hzero ▸ List.mem_cons_self)
    rw [List.cons_append, List.takeWhile_cons, if_pos (decide_eq_true hc),
      ih fun hmem => h (List.mem_cons_of_mem c hmem)]

theorem CString.strlen_memory (s : CString) : strlen s.memory = s.bytes.length :=
  congrArg List.length (takeWhile_memory s.no_nul [])

/-- A key has characters. -/
structure Key extends CString where
  ne_nil : bytes ≠ []

/-! ### Senders -/

/-- `anrb_xorencrypt(message, key)`, as it is in memory. -/
def anrb_xorencrypt (message key : List Byte) : List Byte :=
  (List.range (strlen message)).map (fun i => byteAt message i ^^^ byteAt key (i % strlen key)) ++ [0]

/-- `txend`. -/
def txend : List Byte := [0x7e, 0x2a]

section Senders
variable (base64 : Codec) (xorkey : List Byte)

/-- `g_base64_encode(data, len)`, as it is in memory. -/
def g_base64_encode (data : List Byte) (len : Nat) : List Byte := base64.encode (data.take len) ++ [0]

/-- The greeting of `anrb_handle`, of the version in `tmp_vers`: what is sent. -/
def sendVersion (tmp_vers : List Byte) : List Byte :=
  let ver := anrb_xorencrypt tmp_vers xorkey
  let base := g_base64_encode base64 ver (strlen ver)
  let tamanho := strlen base
  base.take tamanho ++ txend

/-- The end of `anrb_sendANRBPacket`, of the text in `buf_local`: what is sent. -/
def anrb_sendANRBPacket (buf_local : List Byte) : List Byte :=
  let tamanho := strlen buf_local
  let abc := anrb_xorencrypt buf_local xorkey
  let base := g_base64_encode base64 abc tamanho
  base.take (strlen base) ++ txend

end Senders

/-! ### A client -/

/-- What stands in front of the terminator. -/
def beforeTerminator : List Byte → Option (List Byte)
  | [] => none
  | c :: rest => if txend <+: c :: rest then some [] else (beforeTerminator rest).map (c :: ·)

/-- Exclusive or with the repeated key. -/
def xorRepeated (key bytes : List Byte) : List Byte :=
  (List.range bytes.length).map fun i => byteAt bytes i ^^^ byteAt key (i % key.length)

/-- What a client makes of the bytes it receives. -/
def readBack (base64 : Codec) (key sent : List Byte) : Option (List Byte) :=
  (beforeTerminator sent).map fun base => xorRepeated key (base64.decode base)

theorem beforeTerminator_append {base : List Byte} (h : 0x7e ∉ base) :
    beforeTerminator (base ++ txend) = some base := by
  induction base with
  | nil => rfl
  | cons c base ih =>
    have hno : ¬ txend <+: c :: (base ++ txend) := by
      intro hprefix
      obtain ⟨rfl, -⟩ := List.cons_prefix_cons.mp hprefix
      exact h List.mem_cons_self
    rw [List.cons_append, beforeTerminator, if_neg hno, ih fun hmem => h (List.mem_cons_of_mem c hmem)]
    rfl

section RoundTrip
variable (base64 : Codec) (key : Key) (text : CString)

/-- The text, with the key. -/
def CString.encrypted : List Byte :=
  (List.range text.bytes.length).map fun i => byteAt text.bytes i ^^^ byteAt key.bytes (i % key.bytes.length)

theorem byteAt_memory (s : CString) {i : Nat} (h : i < s.bytes.length) : byteAt s.memory i = byteAt s.bytes i := by
  rw [byteAt, byteAt, CString.memory, List.getD_append _ _ _ _ h]

theorem anrb_xorencrypt_eq : anrb_xorencrypt text.memory key.memory = text.encrypted key ++ [0] := by
  unfold anrb_xorencrypt CString.encrypted
  rw [text.strlen_memory, key.strlen_memory]
  congr 1
  refine List.map_congr_left fun i hi => ?_
  have hkey : i % key.bytes.length < key.bytes.length := Nat.mod_lt _ (List.length_pos_iff.mpr key.ne_nil)
  rw [byteAt_memory _ (List.mem_range.mp hi), byteAt_memory key.toCString hkey]

/-- A client reads what was encoded. -/
theorem readBack_sent (data : List Byte) (len : Nat) :
    readBack base64 key.bytes
        ((g_base64_encode base64 data len).take (strlen (g_base64_encode base64 data len)) ++ txend) =
      some (xorRepeated key.bytes (data.take len)) := by
  have hnul : 0 ∉ base64.encode (data.take len) := by
    intro hmem
    exact absurd (base64.printable _ 0 hmem).1 (by decide)
  have htilde : (0x7e : Byte) ∉ base64.encode (data.take len) := by
    intro hmem
    exact absurd (base64.printable _ _ hmem).2 (by decide)
  have hstring : (g_base64_encode base64 data len).take (strlen (g_base64_encode base64 data len)) =
      base64.encode (data.take len) := by
    have hlength : strlen (g_base64_encode base64 data len) = (base64.encode (data.take len)).length :=
      congrArg List.length (takeWhile_memory hnul [])
    rw [hlength, g_base64_encode, List.take_left]
  rw [hstring, readBack, beforeTerminator_append htilde, Option.map_some, base64.decode_encode]

theorem length_encrypted : (text.encrypted key).length = text.bytes.length := by
  rw [CString.encrypted, List.length_map, List.length_range]

/-- Combined with the key again, as much of it as there is, it is the text. -/
theorem xorRepeated_encrypted (n : Nat) :
    xorRepeated key.bytes ((text.encrypted key).take n) = text.bytes.take n := by
  have hlength : ((text.encrypted key).take n).length = (text.bytes.take n).length := by
    rw [List.length_take, List.length_take, length_encrypted]
  apply List.ext_getElem
  · rw [xorRepeated, List.length_map, List.length_range, hlength]
  · intro i hleft hright
    rw [List.length_take] at hright
    have hn : i < n := by omega
    have hi : i < text.bytes.length := by omega
    have hencrypted : byteAt ((text.encrypted key).take n) i =
        byteAt text.bytes i ^^^ byteAt key.bytes (i % key.bytes.length) := by
      rw [byteAt, List.getD_eq_getElem _ _ (by rw [List.length_take, length_encrypted]; omega), List.getElem_take]
      simp only [CString.encrypted, List.getElem_map, List.getElem_range]
    simp only [xorRepeated, List.getElem_map, List.getElem_range, hencrypted, List.getElem_take]
    rw [BitVec.xor_assoc, BitVec.xor_self, BitVec.xor_zero, byteAt, List.getD_eq_getElem _ _ hi]

/-- No character is that of the key at its place. -/
def Apart : Prop := ∀ i < text.bytes.length, byteAt text.bytes i ≠ byteAt key.bytes (i % key.bytes.length)

theorem strlen_le (bytes : List Byte) : strlen (bytes ++ [0]) ≤ bytes.length := by
  induction bytes with
  | nil => exact Nat.le_refl 0
  | cons c bytes ih =>
    unfold strlen at ih ⊢
    rw [List.cons_append, List.takeWhile_cons]
    split
    · exact Nat.succ_le_succ ih
    · exact Nat.zero_le _

/-- A string ends where it ends, if it has no zero byte. -/
theorem strlen_eq_iff (bytes : List Byte) : strlen (bytes ++ [0]) = bytes.length ↔ 0 ∉ bytes := by
  constructor
  · intro hlength hmem
    induction bytes with
    | nil => cases hmem
    | cons c bytes ih =>
      unfold strlen at hlength ih
      rw [List.cons_append, List.takeWhile_cons] at hlength
      split at hlength
      · next hc =>
        obtain hzero | hrest := List.mem_cons.mp hmem
        · exact of_decide_eq_true hc hzero.symm
        · exact ih (Nat.succ.inj hlength) hrest
      · cases hlength
  · intro h
    exact congrArg List.length (takeWhile_memory h [])

theorem apart_iff : Apart key text ↔ 0 ∉ text.encrypted key := by
  constructor
  · intro hapart hmem
    obtain ⟨i, hi, hzero⟩ := List.mem_map.mp hmem
    exact hapart i (List.mem_range.mp hi) (BitVec.xor_eq_zero_iff.mp hzero)
  · intro hno i hi heq
    exact hno (List.mem_map.mpr ⟨i, List.mem_range.mpr hi, BitVec.xor_eq_zero_iff.mpr heq⟩)

/-- A packet gives back its text. -/
theorem sendANRBPacket_readBack :
    readBack base64 key.bytes (anrb_sendANRBPacket base64 key.memory text.memory) = some text.bytes := by
  have htake : (text.encrypted key ++ [0]).take text.bytes.length = (text.encrypted key).take text.bytes.length :=
    List.take_append_of_le_length (length_encrypted key text).ge
  unfold anrb_sendANRBPacket
  dsimp only
  rw [readBack_sent, anrb_xorencrypt_eq, text.strlen_memory, htake, xorRepeated_encrypted, List.take_length]

/-- The greeting gives back its text up to the first zero byte. -/
theorem sendVersion_readBack :
    readBack base64 key.bytes (sendVersion base64 key.memory text.memory) =
      some (text.bytes.take (strlen (text.encrypted key ++ [0]))) := by
  have htake : (text.encrypted key ++ [0]).take (strlen (text.encrypted key ++ [0])) =
      (text.encrypted key).take (strlen (text.encrypted key ++ [0])) :=
    List.take_append_of_le_length (strlen_le (text.encrypted key))
  unfold sendVersion
  dsimp only
  rw [readBack_sent, anrb_xorencrypt_eq, htake, xorRepeated_encrypted]

/-- Both senders send what gives back the text. -/
def RoundTrips : Prop :=
  readBack base64 key.bytes (sendVersion base64 key.memory text.memory) = some text.bytes ∧
    readBack base64 key.bytes (anrb_sendANRBPacket base64 key.memory text.memory) = some text.bytes

/-- **Main theorem.** They do if and only if no character of the text is that of the key at its place. -/
theorem anrb_roundTrip_iff : RoundTrips base64 key text ↔ Apart key text := by
  rw [RoundTrips, and_iff_left (sendANRBPacket_readBack base64 key text), sendVersion_readBack, Option.some.injEq,
    List.take_eq_self_iff, apart_iff, ← strlen_eq_iff, length_encrypted]
  have hle := strlen_le (text.encrypted key)
  rw [length_encrypted] at hle
  omega

end RoundTrip

theorem version_no_nul : (0 : Byte) ∉ ([0x24, 0x56, 0x45, 0x52, 0x2c, 0x31] : List Byte) := by
  decide

theorem secret_no_nul : (0 : Byte) ∉ ([0x53, 0x45, 0x43, 0x52, 0x45, 0x54] : List Byte) := by
  decide

theorem secret_ne_nil : ([0x53, 0x45, 0x43, 0x52, 0x45, 0x54] : List Byte) ≠ [] := by
  decide

/-- `$VER,1`. -/
def version : CString := ⟨[0x24, 0x56, 0x45, 0x52, 0x2c, 0x31], version_no_nul⟩

/-- `SECRET`, of which the fourth letter is that of the text. -/
def secret : Key := ⟨⟨[0x53, 0x45, 0x43, 0x52, 0x45, 0x54], secret_no_nul⟩, secret_ne_nil⟩

/-- The client reads `$VE`. -/
theorem not_roundTrips_version : ¬ RoundTrips Base64.standard secret version := by
  intro h
  obtain ⟨hversion, -⟩ := h
  revert hversion
  decide +kernel

end RbFeeder.Airnav
