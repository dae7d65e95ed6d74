import RbFeeder.Net.AvrLine
import RbFeeder.Net.Forward

/-! The raw output: AVR lines, `modesSendRawOutput` of `net_io.c`.

The line is printed into a part of the writer's buffer, with a pointer that moves on by
fixed amounts. A timestamp of more than twelve digits is printed whole, and what follows
the twelve is overwritten; so the line keeps its length, but not the low digits of the
timestamp (`rawOutput_iff`). -/
namespace RbFeeder.Net
open ModeS (Byte Buffer)

/-! ### Printing -/

/-- The last `w` digits of a number. -/
def hexFixed : Nat → Nat → List Byte
  | 0, _ => []
  | w + 1, n => hexFixed w (n / 16) ++ [hexDigit (BitVec.ofNat 8 (n % 16))]

/-- The number of digits of a number. -/
def hexLength (n : Nat) : Nat := Nat.log 16 n + 1

/-- `%0<width>X`: all digits, and zeros in front up to the width. -/
def printHex (width n : Nat) : List Byte := hexFixed (max width (hexLength n)) n

/-- Bytes written to the buffer; `none` outside of it. -/
def writeAt (mem : List Byte) (p : Nat) (text : List Byte) : Option (List Byte) :=
  if p + text.length ≤ mem.length then some (mem.take p ++ text ++ mem.drop (p + text.length)) else none

/-- `sprintf(p, …)`, with the terminator. -/
def sprintf (mem : List Byte) (p : Nat) (text : List Byte) : Option (List Byte) := writeAt mem p (text ++ [0])

/-- The loop over the message: the buffer, and where the pointer is then. -/
def printMessage (mem : List Byte) (p : Nat) : List Byte → Option (List Byte × Nat)
  | [] => some (mem, p)
  | byte :: msg => do
    let mem ← sprintf mem p (printHex 2 byte.toNat)
    printMessage mem (p + 2) msg

/-- The time, or the character of a line without one. -/
def printHeader (mlat : Bool) (timestampMsg : BitVec 64) (mem : List Byte) : Option (List Byte × Nat) :=
  if mlat ∧ timestampMsg ≠ 0 then
    (sprintf mem 0 (0x40 :: printHex 12 timestampMsg.toNat)).map fun mem => (mem, 13)
  else (writeAt mem 0 [0x2a]).map fun mem => (mem, 1)

/-- What `modesSendRawOutput` does between `prepareWrite` and `completeWrite`, on the part
of the buffer that is reserved: what is in there then, and where `p` is. -/
def writeRawMessage (mlat : Bool) (timestampMsg : BitVec 64) (msg mem : List Byte) : Option (List Byte × Nat) := do
  let (mem, p) ← printHeader mlat timestampMsg mem
  let (mem, p) ← printMessage mem p msg
  let mem ← writeAt mem p [0x3b]
  let mem ← writeAt mem (p + 1) [newline]
  some (mem, p + 2)

/-- The length that `modesSendRawOutput` reserves. -/
def rawReserve (msgLen : Nat) : Nat := msgLen * 2 + 15

/-! ### Digits -/

@[simp] theorem length_hexFixed (w n : Nat) : (hexFixed w n).length = w := by
  induction w generalizing n with
  | zero => rfl
  | succ w ih => rw [hexFixed, List.length_append, ih, List.length_singleton]

/-- The first digits are those of a quotient. -/
theorem take_hexFixed (w k n : Nat) : (hexFixed (w + k) n).take w = hexFixed w (n / 16 ^ k) := by
  induction k generalizing n with
  | zero => rw [Nat.add_zero, pow_zero, Nat.div_one, List.take_of_length_le (length_hexFixed w n).le]
  | succ k ih =>
    rw [← Nat.add_assoc, hexFixed, List.take_append_of_le_length (by rw [length_hexFixed]; omega), ih,
      Nat.div_div_eq_div_mul, ← pow_succ']

theorem hexDigit_injective : ∀ a b : Fin 16, hexDigit (BitVec.ofNat 8 a) = hexDigit (BitVec.ofNat 8 b) → a = b := by
  decide +kernel

theorem hexFixed_eq_iff (w n m : Nat) : hexFixed w n = hexFixed w m ↔ n % 16 ^ w = m % 16 ^ w := by
  induction w generalizing n m with
  | zero => simp [hexFixed, Nat.mod_one]
  | succ w ih =>
    have hmod : ∀ n : Nat, n % 16 ^ (w + 1) = n % 16 + 16 * (n / 16 % 16 ^ w) := fun n => by
      rw [pow_succ', Nat.mod_mul]
    have hlast : hexDigit (BitVec.ofNat 8 (n % 16)) = hexDigit (BitVec.ofNat 8 (m % 16)) ↔ n % 16 = m % 16 :=
      ⟨fun h => congrArg Fin.val
          (hexDigit_injective ⟨_, Nat.mod_lt n (by decide)⟩ ⟨_, Nat.mod_lt m (by decide)⟩ h), fun h => by rw [h]⟩
    rw [hexFixed, hexFixed, hmod, hmod]
    constructor
    · intro h
      obtain ⟨hfirst, hdigit⟩ := List.append_inj' h rfl
      rw [(ih _ _).mp hfirst, hlast.mp (List.singleton_inj.mp hdigit)]
    · intro h
      have hdigit : n % 16 = m % 16 := by omega
      have hfirst : n / 16 % 16 ^ w = m / 16 % 16 ^ w := by omega
      rw [(ih _ _).mpr hfirst, hlast.mpr hdigit]

theorem hexDigits_append (a b : List Byte) : hexDigits (a ++ b) = hexDigits a ++ hexDigits b := List.flatMap_append

/-- Two digits a byte. -/
theorem hexFixed_bytes (k n : Nat) :
    hexFixed (2 * k) n = hexDigits ((List.range k).reverse.map fun i => BitVec.ofNat 8 (n / 256 ^ i)) := by
  have hbyte : ∀ n : Nat, [hexDigit (BitVec.ofNat 8 (n / 16 % 16)), hexDigit (BitVec.ofNat 8 (n % 16))] =
      hexDigits [BitVec.ofNat 8 n] := by
    intro n
    have hall : ∀ b : Byte, [hexDigit (BitVec.ofNat 8 (b.toNat / 16 % 16)), hexDigit (BitVec.ofNat 8 (b.toNat % 16))] =
        hexDigits [b] := by decide +kernel
    rw [← hall, BitVec.toNat_ofNat]
    have hhigh : n % 2 ^ 8 / 16 % 16 = n / 16 % 16 := by omega
    have hlow : n % 2 ^ 8 % 16 = n % 16 := by omega
    rw [hhigh, hlow]
  induction k generalizing n with
  | zero => rfl
  | succ k ih =>
    have hlist : (List.range (k + 1)).reverse.map (fun i => BitVec.ofNat 8 (n / 256 ^ i)) =
        (List.range k).reverse.map (fun i => BitVec.ofNat 8 (n / 256 / 256 ^ i)) ++ [BitVec.ofNat 8 n] := by
      rw [List.range_succ_eq_map, List.reverse_cons, List.map_append, ← List.map_reverse, List.map_map]
      refine congrArg₂ _ (List.map_congr_left fun i _ => ?_) (by simp)
      show BitVec.ofNat 8 (n / 256 ^ (i + 1)) = _
      rw [Nat.div_div_eq_div_mul, ← pow_succ']
    rw [Nat.mul_succ, hexFixed, hexFixed, List.append_assoc, Nat.div_div_eq_div_mul, ih, hlist, hexDigits_append]
    exact congrArg _ (hbyte n)

theorem hexDigits_timestampBytes (timestamp : BitVec 64) :
    hexDigits (timestampBytes timestamp) = hexFixed 12 (timestamp.toNat % 2 ^ 48) := by
  have hbytes : timestampBytes timestamp =
      (List.range 6).reverse.map fun i => BitVec.ofNat 8 (timestamp.toNat / 256 ^ i) := by
    have hbyte : ∀ i : Nat, (timestamp >>> (8 * i)).setWidth 8 = BitVec.ofNat 8 (timestamp.toNat / 256 ^ i) := by
      intro i
      refine BitVec.eq_of_toNat_eq ?_
      rw [BitVec.toNat_setWidth, BitVec.toNat_ushiftRight, BitVec.toNat_ofNat, Nat.shiftRight_eq_div_pow, pow_mul]
      rfl
    show ((List.range 6).reverse.map (8 * ·)).map (fun shift => (timestamp >>> shift).setWidth 8) = _
    rw [List.map_map]
    exact List.map_congr_left fun i _ => hbyte i
  rw [hbytes, ← hexFixed_bytes 6, hexFixed_eq_iff]
  exact (Nat.mod_mod _ _).symm

theorem printHex_byte (b : Byte) : printHex 2 b.toNat = hexDigits [b] := by
  have hlog : Nat.log 16 b.toNat < 2 := Nat.log_lt_of_lt_pow' (by decide) b.isLt
  rw [printHex, hexLength, max_eq_left (by omega), hexFixed_bytes 1]
  simp

/-! ### The buffer -/

/-- The buffer holds a text in front of the pointer. -/
structure Holds (mem : List Byte) (size : Nat) (text : List Byte) : Prop where
  length_mem : mem.length = size
  length_text : text.length ≤ size
  take_mem : mem.take text.length = text

theorem Holds.writeAt {mem text : List Byte} {size n : Nat} (h : Holds mem size text) (more : List Byte)
    (hfits : text.length + more.length ≤ size) (hn : n ≤ more.length) :
    ∃ mem', Net.writeAt mem text.length more = some mem' ∧ Holds mem' size (text ++ more.take n) := by
  obtain ⟨rfl, hle, htext⟩ := h
  refine ⟨_, if_pos hfits, ?_, ?_, ?_⟩
  · simp only [List.length_append, List.length_take, List.length_drop]
    omega
  · simp only [List.length_append, List.length_take]
    omega
  · rw [htext, List.append_assoc, List.length_append, List.take_append, List.take_of_length_le (by omega),
      Nat.add_sub_cancel_left, List.length_take, Nat.min_eq_left hn, List.take_append_of_le_length hn]

/-- The terminator, and what goes beyond the pointer, is overwritten. -/
theorem Holds.sprintf {mem text : List Byte} {size n : Nat} (h : Holds mem size text) (more : List Byte)
    (hfits : text.length + more.length < size) (hn : n ≤ more.length) :
    ∃ mem', Net.sprintf mem text.length more = some mem' ∧ Holds mem' size (text ++ more.take n) := by
  obtain ⟨mem', hwrite, hholds⟩ := h.writeAt (more ++ [0]) (n := n)
    (by rw [List.length_append, List.length_singleton]; omega) (by rw [List.length_append]; omega)
  rw [List.take_append_of_le_length hn] at hholds
  exact ⟨mem', hwrite, hholds⟩

theorem Holds.printMessage {mem text : List Byte} {size : Nat} (h : Holds mem size text) (msg : List Byte)
    (hfits : text.length + 2 * msg.length < size) :
    ∃ mem', Net.printMessage mem text.length msg = some (mem', (text ++ hexDigits msg).length) ∧
      Holds mem' size (text ++ hexDigits msg) := by
  induction msg generalizing mem text with
  | nil => exact ⟨mem, by rw [hexDigits]; simp [Net.printMessage], by rw [hexDigits]; simpa using h⟩
  | cons b msg ih =>
    rw [List.length_cons] at hfits
    have hlength : (hexDigits [b]).length = 2 := length_hexDigits [b]
    obtain ⟨mem₁, hprint, hholds⟩ := h.sprintf (hexDigits [b]) (n := 2) (by omega) hlength.ge
    rw [List.take_of_length_le hlength.le] at hholds
    have hnext : (text ++ hexDigits [b]).length = text.length + 2 := by rw [List.length_append, hlength]
    obtain ⟨mem', hrest, hholds'⟩ := ih hholds (by omega)
    have htext : text ++ hexDigits (b :: msg) = text ++ hexDigits [b] ++ hexDigits msg := by
      rw [List.append_assoc, ← hexDigits_append]
      rfl
    rw [htext]
    refine ⟨mem', ?_, hholds'⟩
    rw [Net.printMessage, printHex_byte, hprint, ← hrest, hnext]
    rfl

/-- The first part of the line. -/
def rawHeader (mlat : Bool) (timestampMsg : BitVec 64) : List Byte :=
  if mlat ∧ timestampMsg ≠ 0 then 0x40 :: (printHex 12 timestampMsg.toNat).take 12 else [0x2a]

theorem length_printHex (timestamp : BitVec 64) :
    12 ≤ (printHex 12 timestamp.toNat).length ∧ (printHex 12 timestamp.toNat).length ≤ 16 := by
  have hlog : Nat.log 16 timestamp.toNat < 16 := Nat.log_lt_of_lt_pow' (by decide) timestamp.isLt
  rw [printHex, length_hexFixed, hexLength]
  omega

theorem length_rawHeader (mlat : Bool) (timestampMsg : BitVec 64) :
    1 ≤ (rawHeader mlat timestampMsg).length ∧ (rawHeader mlat timestampMsg).length ≤ 13 := by
  unfold rawHeader
  split
  · rw [List.length_cons, List.length_take]
    omega
  · exact ⟨le_refl 1, by decide⟩

theorem printHeader_eq (mlat : Bool) (timestampMsg : BitVec 64) {mem : List Byte} {size : Nat} (hsize : 18 ≤ size)
    (hmem : mem.length = size) :
    ∃ mem', printHeader mlat timestampMsg mem = some (mem', (rawHeader mlat timestampMsg).length) ∧
      Holds mem' size (rawHeader mlat timestampMsg) := by
  have hempty : Holds mem size [] := ⟨hmem, Nat.zero_le _, rfl⟩
  have hlength := length_printHex timestampMsg
  unfold printHeader rawHeader
  split
  · obtain ⟨mem', hwrite, hholds⟩ := hempty.sprintf (0x40 :: printHex 12 timestampMsg.toNat) (n := 13)
      (by simp; omega) (by simp; omega)
    refine ⟨mem', ?_, hholds⟩
    rw [List.length_nil] at hwrite
    rw [hwrite, List.length_cons, List.length_take, Nat.min_eq_left hlength.1]
    rfl
  · obtain ⟨mem', hwrite, hholds⟩ := hempty.writeAt [0x2a] (n := 1) (by simp; omega) (by simp)
    refine ⟨mem', ?_, hholds⟩
    rw [List.length_nil] at hwrite
    rw [hwrite]
    rfl

/-- The line that is written. -/
def rawLine (mlat : Bool) (timestampMsg : BitVec 64) (msg : List Byte) : List Byte :=
  rawHeader mlat timestampMsg ++ (hexDigits msg ++ [0x3b])

/-- The line and its end are written within what is reserved for them. -/
theorem writeRawMessage_eq (mlat : Bool) (timestampMsg : BitVec 64) {msg mem : List Byte} (hlong : 2 ≤ msg.length)
    (hmem : mem.length = rawReserve msg.length) :
    ∃ mem', writeRawMessage mlat timestampMsg msg mem =
        some (mem', (rawLine mlat timestampMsg msg ++ [newline]).length) ∧
      Holds mem' (rawReserve msg.length) (rawLine mlat timestampMsg msg ++ [newline]) := by
  unfold rawReserve at hmem ⊢
  have hheaderLength := length_rawHeader mlat timestampMsg
  have hdigits := length_hexDigits msg
  obtain ⟨mem₁, hheader, hholds₁⟩ := printHeader_eq mlat timestampMsg (by omega) hmem
  obtain ⟨mem₂, hmessage, hholds₂⟩ := hholds₁.printMessage msg (by omega)
  have hlength : (rawHeader mlat timestampMsg ++ hexDigits msg).length =
      (rawHeader mlat timestampMsg).length + 2 * msg.length := by rw [List.length_append, hdigits]
  obtain ⟨mem₃, hsemicolon, hholds₃⟩ := hholds₂.writeAt [0x3b] (n := 1)
    (by rw [hlength, List.length_singleton]; omega) (le_refl _)
  rw [List.take_of_length_le (le_refl 1), List.append_assoc] at hholds₃
  have hnext : (rawHeader mlat timestampMsg ++ (hexDigits msg ++ [0x3b])).length =
      (rawHeader mlat timestampMsg ++ hexDigits msg).length + 1 := by
    rw [← List.append_assoc, List.length_append, List.length_singleton]
  obtain ⟨mem', hnewline, hholds'⟩ := hholds₃.writeAt [newline] (n := 1)
    (by rw [hnext, hlength, List.length_singleton]; omega) (le_refl _)
  rw [List.take_of_length_le (le_refl 1)] at hholds'
  refine ⟨mem', ?_, hholds'⟩
  unfold writeRawMessage
  rw [hheader]
  dsimp only [Option.bind_eq_bind, Option.bind_some]
  rw [hmessage]
  dsimp only [Option.bind_some]
  rw [hsemicolon]
  dsimp only [Option.bind_some]
  have hend : (rawLine mlat timestampMsg msg ++ [newline]).length =
      (rawHeader mlat timestampMsg ++ hexDigits msg).length + 2 := by
    rw [List.length_append, List.length_singleton, rawLine, hnext]
  rw [← hnext, hnewline, hend]
  rfl

/-! ### Reading the line -/

/-- The characters `0` to `9` and `A` to `F`. -/
theorem mem_hexFixed {w n : Nat} {c : Byte} (hc : c ∈ hexFixed w n) : ∃ v : Fin 16, c = hexDigit (BitVec.ofNat 8 v) := by
  induction w generalizing n with
  | zero => cases hc
  | succ w ih =>
    obtain hc | hc := List.mem_append.mp hc
    · exact ih hc
    · exact ⟨⟨n % 16, Nat.mod_lt n (by decide)⟩, List.mem_singleton.mp hc⟩

theorem hexDigit_printable : ∀ v : Fin 16, hexDigit (BitVec.ofNat 8 v) ≠ newline ∧ hexDigit (BitVec.ofNat 8 v) ≠ 0 := by
  decide

theorem hexDigits_eq_flatMap (msg : List Byte) : hexDigits msg = msg.flatMap fun b => hexFixed 2 b.toNat := by
  refine List.flatMap_congr fun b _ => ?_
  have hbyte := hexFixed_bytes 1 b.toNat
  simpa [hexDigits] using hbyte.symm

/-- The line has no end and no terminator within. -/
theorem rawLine_printable (mlat : Bool) (timestampMsg : BitVec 64) (msg : List Byte) {c : Byte}
    (hc : c ∈ rawLine mlat timestampMsg msg) : c ≠ newline ∧ c ≠ 0 := by
  have hdigit : ∀ {w n}, c ∈ hexFixed w n → c ≠ newline ∧ c ≠ 0 := by
    intro w n hmem
    obtain ⟨v, rfl⟩ := mem_hexFixed hmem
    exact hexDigit_printable v
  obtain hc | hc := List.mem_append.mp hc
  · unfold rawHeader at hc
    split at hc
    · obtain rfl | hc := List.mem_cons.mp hc
      · decide
      · exact hdigit (List.mem_of_mem_take hc)
    · obtain rfl := List.mem_singleton.mp hc
      decide
  obtain hc | hc := List.mem_append.mp hc
  · rw [hexDigits_eq_flatMap] at hc
    obtain ⟨b, -, hmem⟩ := List.mem_flatMap.mp hc
    exact hdigit hmem
  · obtain rfl := List.mem_singleton.mp hc
    decide

theorem hexOf_hexDigits (msg : List Byte) : HexOf (hexDigits msg) msg :=
  hexOf_iff.mpr ⟨length_hexDigits msg, hexBytes_hexDigits msg⟩

/-- There are no spaces around it. -/
theorem trimmed_rawLine (mlat : Bool) (timestampMsg : BitVec 64) (msg : List Byte) :
    trimmed (rawLine mlat timestampMsg msg) = rawLine mlat timestampMsg msg := by
  unfold trimmed rawLine
  rw [← List.append_assoc, List.rdropWhile_concat_neg _ _ _ (by decide)]
  unfold rawHeader
  split
  · exact List.dropWhile_cons_of_neg (by decide)
  · exact List.dropWhile_cons_of_neg (by decide)

theorem avrMessage_rawLine (mlat : Bool) (timestampMsg : BitVec 64) (msg : List Byte) :
    AvrMessage (rawLine mlat timestampMsg msg) 0 msg := by
  unfold rawLine rawHeader
  split
  · refine AvrMessage.timestamp (Or.inl rfl) ?_ (hexOf_hexDigits msg)
    rw [List.length_take, Nat.min_eq_left (length_printHex timestampMsg).1]
  · exact AvrMessage.raw (Or.inl rfl) (hexOf_hexDigits msg)

/-- The line is read as the message. -/
theorem decodeHexMessageAt_rawLine (mlat : Bool) (timestampMsg : BitVec 64) {msg : List Byte}
    (hsize : msg.length = ModeS.shortMsgBytes ∨ msg.length = ModeS.longMsgBytes) (mode_ac : Bool) :
    ∃ r, decodeHexMessageAt mode_ac (rawLine mlat timestampMsg msg) = some r ∧ r.Delivers 0 msg := by
  have htrimmed := trimmed_rawLine mlat timestampMsg msg
  have hover : ¬ Overread (rawLine mlat timestampMsg msg) := by
    unfold Overread
    rw [htrimmed]
    intro hover
    obtain hnil | ⟨-, hhead, -⟩ := hover
    · exact absurd hnil (by simp [rawLine])
    · unfold rawLine rawHeader at hhead
      split at hhead <;> cases hhead
  refine ⟨decodeHexMessage mode_ac (rawLine mlat timestampMsg msg), ?_, ?_⟩
  · rw [decodeHexMessageAt_eq, if_neg hover]
  · refine delivers_of_avrMessage (hsize.imp_right Or.inl) ?_
    rw [htrimmed]
    exact avrMessage_rawLine mlat timestampMsg msg

/-! ### The output -/

section Output
variable (mlat : Bool) (held : Nat → Byte)

theorem length_writeAt {mem mem' text : List Byte} {p : Nat} (h : writeAt mem p text = some mem') :
    mem'.length = mem.length := by
  unfold writeAt at h
  split at h
  · obtain rfl := Option.some.inj h
    simp only [List.length_append, List.length_take, List.length_drop]
    omega
  · cases h

theorem length_printMessage {mem mem' msg : List Byte} {p p' : Nat} (h : printMessage mem p msg = some (mem', p')) :
    mem'.length = mem.length := by
  induction msg generalizing mem p with
  | nil =>
    obtain ⟨rfl, -⟩ := Prod.mk.inj (Option.some.inj h)
    rfl
  | cons b msg ih =>
    obtain ⟨mem₁, hprint, hrest⟩ := Option.bind_eq_some_iff.mp h
    rw [ih hrest, length_writeAt hprint]

theorem length_printHeader {timestampMsg : BitVec 64} {mem mem' : List Byte} {p : Nat}
    (h : printHeader mlat timestampMsg mem = some (mem', p)) : mem'.length = mem.length := by
  unfold printHeader at h
  split at h
  · obtain ⟨mem₁, hprint, heq⟩ := Option.map_eq_some_iff.mp h
    obtain ⟨rfl, -⟩ := Prod.mk.inj heq
    exact length_writeAt hprint
  · obtain ⟨mem₁, hprint, heq⟩ := Option.map_eq_some_iff.mp h
    obtain ⟨rfl, -⟩ := Prod.mk.inj heq
    exact length_writeAt hprint

theorem length_writeRawMessage {timestampMsg : BitVec 64} {msg mem mem' : List Byte} {p : Nat}
    (h : writeRawMessage mlat timestampMsg msg mem = some (mem', p)) : mem'.length = mem.length := by
  obtain ⟨⟨mem₁, p₁⟩, hheader, h⟩ := Option.bind_eq_some_iff.mp h
  obtain ⟨⟨mem₂, p₂⟩, hmessage, h⟩ := Option.bind_eq_some_iff.mp h
  obtain ⟨mem₃, hsemicolon, h⟩ := Option.bind_eq_some_iff.mp h
  obtain ⟨mem₄, hnewline, h⟩ := Option.bind_eq_some_iff.mp h
  obtain ⟨rfl, -⟩ := Prod.mk.inj (Option.some.inj h)
  rw [length_writeAt hnewline, length_writeAt hsemicolon, length_printMessage hmessage, length_printHeader mlat hheader]

/-- What the reserved part of the buffer holds before. -/
def heldBytes (len : Nat) : List Byte := (List.range len).map held

theorem length_heldBytes (len : Nat) : (heldBytes held len).length = len := by
  rw [heldBytes, List.length_map, List.length_range]

/-- What `modesSendRawOutput` completes. -/
def rawBytes (timestampMsg : BitVec 64) (msg : List Byte) : Option (List Byte) :=
  (writeRawMessage mlat timestampMsg msg (heldBytes held (rawReserve msg.length))).map fun written =>
    written.1.take written.2

theorem length_rawBytes (timestampMsg : BitVec 64) (msg : List Byte) :
    ∀ frame ∈ rawBytes mlat held timestampMsg msg, frame.length ≤ rawReserve msg.length := by
  intro frame hframe
  obtain ⟨⟨mem, p⟩, hwrite, rfl⟩ := Option.map_eq_some_iff.mp hframe
  rw [← length_heldBytes held (rawReserve msg.length), ← length_writeRawMessage mlat hwrite]
  exact List.length_take_le' ..

/-- The line of a message as a frame of the output. -/
def rawFrame (timestampMsg : BitVec 64) (msg : List Byte) : Frame where
  reserve := rawReserve msg.length
  bytes := rawBytes mlat held timestampMsg msg
  fits := length_rawBytes mlat held timestampMsg msg

/-- `modesSendRawOutput(mm, a)`, with `reliable` of the aircraft if there is one. -/
def modesSendRawOutput (env : Environment) (x : OutputMessage) (reliable : Option Bool) (net : Network) : Network :=
  if x.FromMlat then net
  else if x.mm.correctedbits ≥ 2 then net
  else if reliable = some false ∧ ¬ (ModeS.bulkFields x.mm).reliable then net
  else net.queue env .rawOutput (rawFrame mlat held x.timestampMsg (x.mm.msg.bytes.take (x.mm.msgbits / 8)))

/-- The clients of the raw output are sent that line. -/
theorem modesSendRawOutput_line {env : Environment} {x : OutputMessage} {reliable : Option Bool} {net : Network}
    {c : ClientId} {out : List Byte} (hbits : x.mm.msgbits = 56 ∨ x.mm.msgbits = 112)
    (h : completed c .rawOutput (modesSendRawOutput mlat held env x reliable net).log =
      completed c .rawOutput net.log ++ [out]) :
    out = rawLine mlat x.timestampMsg (x.mm.msg.bytes.take (x.mm.msgbits / 8)) ++ [newline] := by
  unfold modesSendRawOutput at h
  split_ifs at h
  · exact absurd (List.self_eq_append_right.mp h) (List.cons_ne_nil _ _)
  · exact absurd (List.self_eq_append_right.mp h) (List.cons_ne_nil _ _)
  · exact absurd (List.self_eq_append_right.mp h) (List.cons_ne_nil _ _)
  have hlong : 2 ≤ (x.mm.msg.bytes.take (x.mm.msgbits / 8)).length := by
    rw [List.length_take, Buffer.length_bytes]
    omega
  obtain ⟨mem, hwrite, hholds⟩ := writeRawMessage_eq mlat x.timestampMsg hlong (length_heldBytes held _)
  have hframe : rawBytes mlat held x.timestampMsg (x.mm.msg.bytes.take (x.mm.msgbits / 8)) = some out :=
    written_of_queue h
  rw [rawBytes, hwrite] at hframe
  rw [← Option.some.inj hframe]
  exact hholds.take_mem

end Output

/-! ### The round trip -/

/-- A line that ends as it should and can be read back, with the time of the Beast output. -/
structure ReadsBack (timestampMsg : BitVec 64) (msg out : List Byte) : Prop where
  ends : out.drop (out.length - 2) = [0x3b, newline]
  line : newline ∉ out.dropLast ∧ 0 ∉ out
  parsed : ∀ mode_ac, ∃ r, decodeHexMessageAt mode_ac out.dropLast = some r ∧ r.Delivers 0 msg
  time : out.head? = some 0x40 → (out.drop 1).take 12 = hexFixed 12 (timestampMsg.toNat % 2 ^ 48) ∧
    (out.drop 1).take 12 = hexDigits (timestampBytes timestampMsg)

/-- The output of a message, whatever the buffer held: what is completed is a line that
reads back, with a time if there is one to be sent. -/
def RawRoundTrip (mlat : Bool) (timestampMsg : BitVec 64) (msg : List Byte) : Prop :=
  ∀ mem, mem.length = rawReserve msg.length → ∃ mem' p, writeRawMessage mlat timestampMsg msg mem = some (mem', p) ∧
    (mem'.take p).length = p ∧ ((mem'.take p).head? = some 0x40 ↔ mlat = true ∧ timestampMsg ≠ 0) ∧
      ReadsBack timestampMsg msg (mem'.take p)

/-- The first twelve digits of the time, that are all of it if there are no more. -/
def leadingDigits (timestampMsg : BitVec 64) : Nat := timestampMsg.toNat / 16 ^ (hexLength timestampMsg.toNat - 12)

theorem take_printHex (timestampMsg : BitVec 64) :
    (printHex 12 timestampMsg.toNat).take 12 = hexFixed 12 (leadingDigits timestampMsg) := by
  have hwidth : max 12 (hexLength timestampMsg.toNat) = 12 + (hexLength timestampMsg.toNat - 12) := by omega
  rw [printHex, leadingDigits, ← take_hexFixed, hwidth]

theorem leadingDigits_lt (timestampMsg : BitVec 64) : leadingDigits timestampMsg < 2 ^ 48 := by
  rw [leadingDigits, Nat.div_lt_iff_lt_mul (by positivity)]
  have hlength : timestampMsg.toNat < 16 ^ hexLength timestampMsg.toNat := Nat.lt_pow_succ_log_self (by decide) _
  refine hlength.trans_le ?_
  rw [show (2 : Nat) ^ 48 = 16 ^ 12 by norm_num, ← pow_add]
  exact Nat.pow_le_pow_right (by decide) (by omega)

/-- The two writers agree on the time. -/
theorem time_iff (timestampMsg : BitVec 64) :
    (printHex 12 timestampMsg.toNat).take 12 = hexFixed 12 (timestampMsg.toNat % 2 ^ 48) ↔
      leadingDigits timestampMsg = timestampMsg.toNat % 2 ^ 48 := by
  rw [take_printHex, hexFixed_eq_iff]
  have hmod : ∀ n : Nat, n < 2 ^ 48 → n % 16 ^ 12 = n := fun n hn => Nat.mod_eq_of_lt (hn.trans_eq (by norm_num))
  rw [hmod _ (leadingDigits_lt timestampMsg), hmod _ (Nat.mod_lt _ (by decide))]

/-- A line with a time, and one without. -/
theorem head_rawLine (mlat : Bool) (timestampMsg : BitVec 64) (msg rest : List Byte) :
    ((rawLine mlat timestampMsg msg ++ rest).head? = some 0x40 ↔ mlat = true ∧ timestampMsg ≠ 0) ∧
      ((mlat = true ∧ timestampMsg ≠ 0) →
        ((rawLine mlat timestampMsg msg ++ rest).drop 1).take 12 = (printHex 12 timestampMsg.toNat).take 12) := by
  unfold rawLine rawHeader
  by_cases htime : mlat = true ∧ timestampMsg ≠ 0
  · rw [if_pos htime]
    refine ⟨⟨fun _ => htime, fun _ => rfl⟩, fun _ => ?_⟩
    rw [List.cons_append, List.cons_append, List.drop_one, List.tail_cons, List.append_assoc, List.take_append,
      List.length_take, Nat.min_eq_left (length_printHex timestampMsg).1, List.take_take]
    simp
  · rw [if_neg htime]
    refine ⟨⟨fun hhead => ?_, fun h => absurd h htime⟩, fun h => absurd h htime⟩
    cases hhead

theorem leadingDigits_of_roundTrip {timestampMsg : BitVec 64} {msg : List Byte} (hlong : 2 ≤ msg.length)
    (h : RawRoundTrip true timestampMsg msg) : leadingDigits timestampMsg = timestampMsg.toNat % 2 ^ 48 := by
  by_cases hzero : timestampMsg = 0
  · subst hzero
    decide
  have hmem : (List.replicate (rawReserve msg.length) (0 : Byte)).length = rawReserve msg.length :=
    List.length_replicate ..
  obtain ⟨mem, p, hwrite, -, -, hback⟩ := h _ hmem
  obtain ⟨mem', hwrite', hholds⟩ := writeRawMessage_eq true timestampMsg hlong hmem
  obtain ⟨rfl, rfl⟩ := Prod.mk.inj (Option.some.inj (hwrite'.symm.trans hwrite))
  obtain ⟨hhead, htime⟩ := head_rawLine true timestampMsg msg [newline]
  rw [hholds.take_mem] at hback
  rw [← time_iff, ← htime ⟨rfl, hzero⟩]
  exact (hback.time (hhead.mpr ⟨rfl, hzero⟩)).1

theorem roundTrip_of_leadingDigits {mlat : Bool} {timestampMsg : BitVec 64} {msg : List Byte}
    (hsize : msg.length = ModeS.shortMsgBytes ∨ msg.length = ModeS.longMsgBytes)
    (h : mlat = true → leadingDigits timestampMsg = timestampMsg.toNat % 2 ^ 48) :
    RawRoundTrip mlat timestampMsg msg := by
  intro mem hmem
  have hlong : 2 ≤ msg.length := by
    obtain h | h := hsize <;> rw [h] <;> decide
  obtain ⟨mem', hwrite, hholds⟩ := writeRawMessage_eq mlat timestampMsg hlong hmem
  obtain ⟨hhead, htime⟩ := head_rawLine mlat timestampMsg msg [newline]
  refine ⟨mem', _, hwrite, ?_, ?_, ?_⟩
  · rw [hholds.take_mem]
  · rw [hholds.take_mem]
    exact hhead
  rw [hholds.take_mem]
  have hline : (rawLine mlat timestampMsg msg ++ [newline]).dropLast = rawLine mlat timestampMsg msg :=
    List.dropLast_concat
  refine ⟨?_, ⟨?_, ?_⟩, fun mode_ac => ?_, fun hat => ?_⟩
  · rw [rawLine, ← List.append_assoc, List.append_assoc _ [_], List.length_append]
    exact List.drop_left' (Nat.add_sub_cancel ..).symm
  · rw [hline]
    exact fun hmem => (rawLine_printable mlat timestampMsg msg hmem).1 rfl
  · intro hmem
    obtain hmem | hmem := List.mem_append.mp hmem
    · exact (rawLine_printable mlat timestampMsg msg hmem).2 rfl
    · cases List.mem_singleton.mp hmem
  · rw [hline]
    exact decodeHexMessageAt_rawLine mlat timestampMsg hsize mode_ac
  · have hsent := hhead.mp hat
    rw [hexDigits_timestampBytes, htime hsent, and_self]
    exact (time_iff timestampMsg).mpr (h hsent.1)

/-- **Main theorem.** Every message is sent as a line of the accounted length that gives
back its bytes. The time in the line is that of the Beast output exactly if the first
twelve digits of the time are the last twelve, as they are below `2 ^ 48`. -/
theorem rawOutput_iff (mlat : Bool) (timestampMsg : BitVec 64) {msg : List Byte}
    (hsize : msg.length = ModeS.shortMsgBytes ∨ msg.length = ModeS.longMsgBytes) :
    RawRoundTrip mlat timestampMsg msg ↔ (mlat = true → leadingDigits timestampMsg = timestampMsg.toNat % 2 ^ 48) := by
  refine ⟨fun h hmlat => ?_, roundTrip_of_leadingDigits hsize⟩
  subst hmlat
  refine leadingDigits_of_roundTrip ?_ h
  obtain hsize | hsize := hsize <;> rw [hsize] <;> decide

theorem leadingDigits_of_lt {timestampMsg : BitVec 64} (h : timestampMsg.toNat < 2 ^ 48) :
    leadingDigits timestampMsg = timestampMsg.toNat % 2 ^ 48 := by
  have hlog : Nat.log 16 timestampMsg.toNat < 12 := Nat.log_lt_of_lt_pow' (by decide) (h.trans_eq (by norm_num))
  rw [leadingDigits, hexLength, show Nat.log 16 timestampMsg.toNat + 1 - 12 = 0 by omega, pow_zero, Nat.div_one,
    Nat.mod_eq_of_lt h]

/-- The squitter, a second after the start of the clock. -/
theorem rawOutput_squitter : RawRoundTrip true 12000000 squitterBytes :=
  (rawOutput_iff true 12000000 (Or.inr rfl)).mpr fun _ => leadingDigits_of_lt (by decide)

/-- The squitter, when the clock needs a thirteenth digit. -/
theorem not_rawRoundTrip : ¬ RawRoundTrip true 0x1000000000000 squitterBytes := by
  intro h
  have hdigits := leadingDigits_of_roundTrip (show 2 ≤ squitterBytes.length by decide) h
  have hlog : Nat.log 16 (0x1000000000000 : BitVec 64).toNat = 12 := Nat.log_pow (by decide) 12
  rw [leadingDigits, hexLength, hlog] at hdigits
  exact absurd hdigits (by decide)

end RbFeeder.Net
