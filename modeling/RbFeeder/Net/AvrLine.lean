import RbFeeder.Net.Avr

/-! AVR lines in memory, and the lines that are messages.

`decodeHexMessage`, of `net_io.c` and once more of `airnav_net.c`, moves a pointer and a
length over the line it is given. What it reads is `none` here outside the line and its
terminator; the rest is the decoder over lists (`decodeHexMessageAt_eq`). A line that is
read within its bounds is passed on exactly if it is a message, unless its signal level
is not in hexadecimal digits (`parsedExactly_iff`). -/
namespace RbFeeder.Net
open ModeS (Byte)

/-! ### The line in memory -/

/-- `hex[i]`. -/
def charAt (mem : List Byte) (i : ℤ) : Option Byte := if 0 ≤ i then mem[i.toNat]? else none

/-- Remove spaces on the right. -/
def trimRight (mem : List Byte) : Nat → Option (List Byte × Nat)
  | 0 => some (mem, 0)
  | l + 1 => do
    let c ← charAt mem l
    if isspace c then trimRight (mem.set l 0) l else some (mem, l + 1)

/-- Remove spaces on the left: the pointer and the length. -/
def trimLeft (mem : List Byte) : Nat → ℤ → ℤ → Option (ℤ × ℤ)
  | 0, _, _ => none
  | steps + 1, hex, l => do
    let c ← charAt mem hex
    if isspace c then trimLeft mem steps (hex + 1) (l - 1) else some (hex, l)

/-- The `switch (hex[0])`: the signal level, and how many characters precede the digits. -/
def readHeader (mem : List Byte) (hex : ℤ) : Option (Option (BitVec 32 × Nat)) := do
  let c ← charAt mem hex
  if c = 0x3c then do
    let high ← charAt mem (hex + 13)
    let low ← charAt mem (hex + 14)
    some (some (hexDigitVal high <<< 4 ||| hexDigitVal low, 15))
  else if c = 0x40 ∨ c = 0x25 then some (some (0, 13))
  else if c = 0x2a ∨ c = 0x3a then some (some (0, 1))
  else some none

/-- The loop over the digits of `n` bytes; at a character that is none it is left. -/
def readDigits (mem : List Byte) (hex : ℤ) : Nat → Option (Option (List Byte))
  | 0 => some (some [])
  | n + 1 => do
    let hi ← charAt mem hex
    let lo ← charAt mem (hex + 1)
    let high := hexDigitVal hi
    let low := hexDigitVal lo
    if high = -1 ∨ low = -1 then some none
    else do
      let rest ← readDigits mem (hex + 2) n
      some (rest.map ((high <<< 4 ||| low).setWidth 8 :: ·))

/-- The end of `decodeHexMessage`: the length and the digits, with the pointer on them. -/
def decodeDigitsAt (mode_ac : Bool) (mem : List Byte) (hex l : ℤ) (signal : BitVec 32) : Option HexMessage :=
  if l ≠ 2 * modeacMsgBytes ∧ l ≠ 2 * ModeS.shortMsgBytes ∧ l ≠ 2 * ModeS.longMsgBytes then some .ignored
  else if ¬ mode_ac ∧ l = 2 * modeacMsgBytes then some .ignored
  else do
    match ← readDigits mem hex (l.toNat / 2) with
    | none => some .ignored
    | some msg => some (if l = 2 * modeacMsgBytes then .modeAC signal msg else .modeS signal msg)

/-- `decodeHexMessage(c, hex)`, of the characters before the terminator. -/
def decodeHexMessageAt (mode_ac : Bool) (line : List Byte) : Option HexMessage := do
  let (mem, l) ← trimRight (line ++ [0]) line.length
  let (hex, l) ← trimLeft mem mem.length 0 l
  let last ← charAt mem (hex + l - 1)
  if last ≠ 0x3b then some .ignored
  else do
    match ← readHeader mem hex with
    | none => some .ignored
    | some (signal, skip) => decodeDigitsAt mode_ac mem (hex + skip) (l - (skip + 1)) signal

/-! ### Reads -/

section Reads
variable {mem : List Byte} {line : List Byte}

theorem charAt_natCast (mem : List Byte) (i : Nat) : charAt mem i = mem[i]? := by
  rw [charAt, if_pos (Int.natCast_nonneg i), Int.toNat_natCast]

/-- Spaces at the end are overwritten one by one. -/
theorem trimRight_spaces (front : List Byte) {spaces : List Byte} (hspaces : ∀ c ∈ spaces, isspace c = true)
    (rest : List Byte) :
    trimRight (front ++ spaces ++ rest) (front ++ spaces).length =
      trimRight (front ++ (List.replicate spaces.length 0 ++ rest)) front.length := by
  induction spaces using List.reverseRecOn generalizing rest with
  | nil => simp
  | append_singleton spaces c ih =>
    have hlength : (front ++ (spaces ++ [c])).length = (front ++ spaces).length + 1 := by
      simp [Nat.add_assoc]
    have hread : charAt (front ++ (spaces ++ [c]) ++ rest) (front ++ spaces).length = some c := by
      rw [charAt_natCast, ← List.append_assoc front, List.append_assoc (front ++ spaces),
        List.getElem?_append_right (le_refl _), Nat.sub_self]
      rfl
    have hset : (front ++ (spaces ++ [c]) ++ rest).set (front ++ spaces).length 0 = front ++ spaces ++ (0 :: rest) := by
      rw [← List.append_assoc front, List.append_assoc (front ++ spaces), List.set_append_right _ _ (le_refl _),
        Nat.sub_self]
      rfl
    rw [hlength, trimRight, hread]
    dsimp only [Option.bind_eq_bind, Option.bind_some]
    rw [if_pos (hspaces c (by simp)), hset, ih (fun d hd => hspaces d (List.mem_append_left _ hd)),
      List.length_append, List.length_singleton, List.replicate_succ', List.append_assoc]
    rfl

theorem trimRight_stop {front : List Byte} (hlast : ∀ c, front.getLast? = some c → isspace c = false)
    (rest : List Byte) : trimRight (front ++ rest) front.length = some (front ++ rest, front.length) := by
  induction front using List.reverseRecOn with
  | nil => rfl
  | append_singleton front c ih =>
    have hread : charAt (front ++ [c] ++ rest) front.length = some c := by
      rw [charAt_natCast, List.append_assoc, List.getElem?_append_right (le_refl _), Nat.sub_self]
      rfl
    rw [List.length_append, List.length_singleton, trimRight, hread]
    dsimp only [Option.bind_eq_bind, Option.bind_some]
    rw [hlast c List.getLast?_concat, if_neg Bool.false_ne_true]

/-- The pointer moves to the first character that is no space. -/
theorem trimLeft_spaces {spaces : List Byte} (hspaces : ∀ c ∈ spaces, isspace c = true) (front : List Byte)
    {c : Byte} (hc : isspace c = false) (rest : List Byte) (l : ℤ) {steps : Nat} (hsteps : spaces.length < steps) :
    trimLeft (front ++ (spaces ++ c :: rest)) steps front.length l =
      some ((front.length + spaces.length : ℤ), l - spaces.length) := by
  induction spaces generalizing front l steps with
  | nil =>
    obtain ⟨steps, rfl⟩ : ∃ k, steps = k + 1 := ⟨steps - 1, by simp at hsteps; omega⟩
    have hread : charAt (front ++ c :: rest) front.length = some c := by
      rw [charAt_natCast, List.getElem?_append_right (le_refl _), Nat.sub_self]
      rfl
    rw [List.nil_append, trimLeft, hread]
    dsimp only [Option.bind_eq_bind, Option.bind_some]
    rw [hc, if_neg Bool.false_ne_true]
    simp
  | cons d spaces ih =>
    obtain ⟨steps, rfl⟩ : ∃ k, steps = k + 1 := ⟨steps - 1, by simp at hsteps; omega⟩
    have hread : charAt (front ++ (d :: spaces ++ c :: rest)) front.length = some d := by
      rw [charAt_natCast, List.getElem?_append_right (le_refl _), Nat.sub_self]
      rfl
    have hmove : front ++ (d :: spaces ++ c :: rest) = (front ++ [d]) ++ (spaces ++ c :: rest) := by simp
    rw [trimLeft, hread]
    dsimp only [Option.bind_eq_bind, Option.bind_some]
    have hih := ih (fun x hx => hspaces x (List.mem_cons_of_mem d hx)) (front ++ [d]) (l - 1)
      (show spaces.length < steps by simp at hsteps; omega)
    rw [if_pos (hspaces d List.mem_cons_self), hmove]
    rw [List.length_append, List.length_singleton] at hih
    push_cast at hih
    rw [hih, List.length_cons]
    push_cast
    refine congrArg some (Prod.ext ?_ ?_) <;> ring

/-- The digits, if they are there to be read. -/
theorem readDigits_eq {hex : ℤ} (n : Nat) {digits : List Byte} (hlength : digits.length = 2 * n)
    (hread : ∀ k < 2 * n, charAt mem (hex + k) = digits[k]?) : readDigits mem hex n = some (hexBytes digits) := by
  induction n generalizing hex digits with
  | zero =>
    obtain rfl := List.length_eq_zero_iff.mp hlength
    rfl
  | succ n ih =>
    match digits, hlength with
    | hi :: lo :: digits, hlength =>
      have hhi := hread 0 (by omega)
      have hlo := hread 1 (by omega)
      have hrest : readDigits mem (hex + 2) n = some (hexBytes digits) := by
        refine ih (by simp at hlength; omega) fun k hk => ?_
        have hnext := hread (k + 2) (by omega)
        rw [List.getElem?_cons_succ, List.getElem?_cons_succ] at hnext
        rw [← hnext]
        congr 1
        push_cast
        ring
      rw [readDigits]
      simp only [Nat.cast_zero, add_zero, Nat.cast_one] at hhi hlo
      rw [hhi, hlo]
      dsimp only [Option.bind_eq_bind, Option.bind_some, List.getElem?_cons_zero, List.getElem?_cons_succ]
      rw [hexBytes]
      split
      · rfl
      · rw [hrest]
        rfl

end Reads

/-! ### Trimming -/

/-- The line without spaces on both sides. -/
def trimmed (line : List Byte) : List Byte := (line.rdropWhile isspace).dropWhile isspace

/-- The number of spaces on the left. -/
def indent (line : List Byte) : Nat := ((line.rdropWhile isspace).takeWhile isspace).length

/-- The spaces, the characters between them and what stands in memory behind these. -/
structure Split (line lead trail : List Byte) : Prop where
  line_eq : line = lead ++ trimmed line ++ trail
  lead_spaces : ∀ c ∈ lead, isspace c = true
  trail_spaces : ∀ c ∈ trail, isspace c = true
  length_lead : lead.length = indent line
  last : ∀ c, (lead ++ trimmed line).getLast? = some c → isspace c = false
  head : ∀ c, (trimmed line).head? = some c → isspace c = false

theorem exists_split (line : List Byte) : ∃ lead trail, Split line lead trail := by
  refine ⟨(line.rdropWhile isspace).takeWhile isspace, line.rtakeWhile isspace, ?_, ?_, ?_, rfl, ?_, ?_⟩
  · rw [trimmed, List.takeWhile_append_dropWhile, List.rdropWhile_append_rtakeWhile]
  · exact fun c hc => List.all_eq_true.mp List.all_takeWhile c hc
  · exact fun c hc => List.mem_rtakeWhile_imp hc
  · intro c hc
    rw [trimmed, List.takeWhile_append_dropWhile] at hc
    have hne : line.rdropWhile isspace ≠ [] := fun hnil => by rw [hnil] at hc; cases hc
    have hlast := List.rdropWhile_last_not isspace line hne
    rw [List.getLast?_eq_some_getLast hne] at hc
    rw [Option.some.inj hc] at hlast
    exact Bool.eq_false_iff.mpr hlast
  · intro c hc
    have hnot := List.head?_dropWhile_not isspace (line.rdropWhile isspace)
    rw [show (line.rdropWhile isspace).dropWhile isspace = trimmed line from rfl, hc] at hnot
    exact hnot

namespace Split
variable {line lead trail : List Byte}

/-- What stands in memory from the first character on. -/
def after (line trail : List Byte) : List Byte := trimmed line ++ (List.replicate trail.length 0 ++ [0])

theorem trimRight_eq (h : Split line lead trail) :
    trimRight (line ++ [0]) line.length = some (lead ++ after line trail, (lead ++ trimmed line).length) := by
  have hspaces := trimRight_spaces (lead ++ trimmed line) h.trail_spaces [0]
  rw [← h.line_eq] at hspaces
  rw [hspaces, trimRight_stop h.last, List.append_assoc lead]
  rfl

theorem lead_eq_nil (h : Split line lead trail) (hempty : trimmed line = []) : lead = [] := by
  cases hlast : lead.getLast? with
  | none => exact List.getLast?_eq_none_iff.mp hlast
  | some c =>
    have hspace := h.lead_spaces c (List.mem_of_getLast? hlast)
    have hnot := h.last c (by rw [hempty, List.append_nil]; exact hlast)
    exact absurd (hspace.symm.trans hnot) (by decide)

theorem trimLeft_eq (h : Split line lead trail) :
    trimLeft (lead ++ after line trail) (lead ++ after line trail).length 0 (lead ++ trimmed line).length =
      some ((lead.length : ℤ), ((trimmed line).length : ℤ)) := by
  obtain ⟨c, rest, hafter, hc⟩ : ∃ c rest, after line trail = c :: rest ∧ isspace c = false := by
    unfold after
    cases hline : trimmed line with
    | nil =>
      cases trail with
      | nil => exact ⟨0, [], rfl, by decide⟩
      | cons d trail => exact ⟨0, _, rfl, by decide⟩
    | cons c rest => exact ⟨c, _, rfl, h.head c (by rw [hline]; rfl)⟩
  have hspaces := trimLeft_spaces h.lead_spaces [] hc rest (lead ++ trimmed line).length
    (show lead.length < (lead ++ after line trail).length by rw [hafter]; simp)
  rw [← hafter] at hspaces
  refine hspaces.trans (congrArg some (Prod.ext ?_ ?_))
  · simp
  · simp

theorem charAt_eq (k : Nat) : charAt (lead ++ after line trail) (lead.length + k) = (after line trail)[k]? := by
  rw [← Nat.cast_add, charAt_natCast, List.getElem?_append_right (Nat.le_add_right _ _), Nat.add_sub_cancel_left]

theorem charAt_trimmed (_ : Split line lead trail) {k : Nat} (hk : k < (trimmed line).length) :
    charAt (lead ++ after line trail) (lead.length + k) = (trimmed line)[k]? := by
  rw [charAt_eq, after, List.getElem?_append_left hk]

/-- Behind the characters there are the terminators, as far as the line went. -/
theorem charAt_getD (h : Split line lead trail) (k : Nat) :
    charAt (lead ++ after line trail) (lead.length + k) =
      if indent line + k ≤ line.length then some ((trimmed line).getD k 0) else none := by
  have hlength := congrArg List.length h.line_eq
  rw [List.length_append, List.length_append, h.length_lead] at hlength
  rw [charAt_eq, after]
  by_cases hk : k < (trimmed line).length
  · rw [if_pos (by omega), List.getElem?_append_left hk, List.getD_eq_getElem _ _ hk, List.getElem?_eq_getElem hk]
  · have hzero : ∀ n i : Nat, i ≤ n → (List.replicate n (0 : Byte) ++ [0])[i]? = some 0 := by
      intro n i hi
      rw [← List.replicate_succ', List.getElem?_replicate, if_pos (by omega)]
    rw [List.getElem?_append_right (by omega), List.getD_eq_default _ _ (by omega)]
    split
    · exact hzero _ _ (by omega)
    · exact List.getElem?_eq_none (by simp; omega)

end Split

/-- The line is read before its first character or behind its terminator. -/
def Overread (line : List Byte) : Prop :=
  trimmed line = [] ∨
    (trimmed line).getLast? = some 0x3b ∧ (trimmed line).head? = some 0x3c ∧ line.length < indent line + 14

instance (line : List Byte) : Decidable (Overread line) := inferInstanceAs (Decidable (_ ∨ _))

theorem readHeader_eq {line lead trail : List Byte} (h : Split line lead trail) (hsome : trimmed line ≠ []) :
    readHeader (lead ++ Split.after line trail) lead.length =
      if (trimmed line).head? = some 0x3c ∧ line.length < indent line + 14 then none
      else some (avrHeader (trimmed line)) := by
  obtain ⟨c, rest, hline⟩ := List.exists_cons_of_ne_nil hsome
  have hfirst : charAt (lead ++ Split.after line trail) lead.length = some c := by
    have hread := h.charAt_trimmed (List.length_pos_iff.mpr hsome)
    rw [hline] at hread
    simpa using hread
  have h13 := h.charAt_getD 13
  have h14 := h.charAt_getD 14
  rw [Nat.cast_ofNat] at h13 h14
  unfold readHeader avrHeader
  rw [hfirst, hline]
  dsimp only [Option.bind_eq_bind, Option.bind_some, List.headD_cons]
  by_cases hc : c = 0x3c
  · subst hc
    rw [if_pos rfl, h13, h14, hline, if_pos rfl]
    by_cases hshort : line.length < indent line + 14
    · have hover : (0x3c :: rest : List Byte).head? = some 0x3c ∧ line.length < indent line + 14 := ⟨rfl, hshort⟩
      rw [if_pos hover, if_neg (show ¬ indent line + 14 ≤ line.length by omega)]
      cases (if indent line + 13 ≤ line.length then some ((0x3c :: rest).getD 13 0) else none) <;> rfl
    · have hover : ¬ ((0x3c :: rest : List Byte).head? = some 0x3c ∧ line.length < indent line + 14) :=
        fun hover => hshort hover.2
      rw [if_neg hover, if_pos (show indent line + 13 ≤ line.length by omega),
        if_pos (show indent line + 14 ≤ line.length by omega)]
      rfl
  · have hover : ¬ ((c :: rest).head? = some 0x3c ∧ line.length < indent line + 14) :=
      fun hover => hc (Option.some.inj hover.1)
    rw [if_neg hc, if_neg hc, if_neg hover]
    split
    · rfl
    · split <;> rfl

/-- The digits of a line behind its header. -/
def decodeDigits (mode_ac : Bool) (hex : List Byte) (signal : BitVec 32) (skip : Nat) : HexMessage :=
  let l := hex.length - (skip + 1)
  if l ≠ 2 * modeacMsgBytes ∧ l ≠ 2 * ModeS.shortMsgBytes ∧ l ≠ 2 * ModeS.longMsgBytes then .ignored
  else if ¬ mode_ac ∧ l = 2 * modeacMsgBytes then .ignored
  else
    match hexBytes ((hex.drop skip).take l) with
    | none => .ignored
    | some msg => if l = 2 * modeacMsgBytes then .modeAC signal msg else .modeS signal msg

theorem decodeHexMessage_eq (mode_ac : Bool) (line : List Byte) :
    decodeHexMessage mode_ac line =
      if (trimmed line).getLast? ≠ some 0x3b then .ignored
      else ((avrHeader (trimmed line)).map fun header =>
        decodeDigits mode_ac (trimmed line) header.1 header.2).getD .ignored := by
  unfold decodeHexMessage
  dsimp only
  change (if (trimmed line).getLast? ≠ some 0x3b then _ else _) = _
  refine if_congr Iff.rfl rfl ?_
  show _ = ((avrHeader (trimmed line)).map _).getD _
  change _ = ((avrHeader ((line.rdropWhile isspace).dropWhile isspace)).map _).getD _
  cases avrHeader ((line.rdropWhile isspace).dropWhile isspace) with
  | none => rfl
  | some header => rfl

theorem decodeDigitsAt_eq {line lead trail : List Byte} (h : Split line lead trail) (mode_ac : Bool)
    (signal : BitVec 32) (skip : Nat) :
    decodeDigitsAt mode_ac (lead ++ Split.after line trail) (lead.length + skip)
        ((trimmed line).length - (skip + 1)) signal =
      some (decodeDigits mode_ac (trimmed line) signal skip) := by
  unfold decodeDigitsAt decodeDigits modeacMsgBytes ModeS.shortMsgBytes ModeS.longMsgBytes
  dsimp only
  by_cases hsize : (trimmed line).length - (skip + 1) ∈ [4, 14, 28]
  swap
  · simp only [List.mem_cons, List.not_mem_nil, or_false] at hsize
    rw [if_pos (by omega), if_pos (by omega)]
  simp only [List.mem_cons, List.not_mem_nil, or_false] at hsize
  have hl : ((trimmed line).length : ℤ) - (skip + 1) = ((trimmed line).length - (skip + 1) : Nat) := by omega
  have hread : readDigits (lead ++ Split.after line trail) (lead.length + skip)
      (((trimmed line).length - (skip + 1)) / 2) =
        some (hexBytes (((trimmed line).drop skip).take ((trimmed line).length - (skip + 1)))) := by
    refine readDigits_eq _ (by rw [List.length_take, List.length_drop]; omega) fun k hk => ?_
    have hin : skip + k < (trimmed line).length := by omega
    have hchar := h.charAt_trimmed hin
    rw [Nat.cast_add, ← add_assoc] at hchar
    rw [List.getElem?_take_of_lt (by omega), List.getElem?_drop, ← hchar]
  generalize (trimmed line).length - (skip + 1) = n at hsize hl hread ⊢
  have hlong : ¬ ((n : ℤ) ≠ 2 * (2 : Nat) ∧ (n : ℤ) ≠ 2 * (7 : Nat) ∧ (n : ℤ) ≠ 2 * (14 : Nat)) := by omega
  have hlong' : ¬ (n ≠ 2 * 2 ∧ n ≠ 2 * 7 ∧ n ≠ 2 * 14) := by omega
  have hfour : (n : ℤ) = 2 * (2 : Nat) ↔ n = 2 * 2 := by omega
  rw [hl, Int.toNat_natCast, if_neg hlong, if_neg hlong']
  by_cases hmode : ¬ mode_ac = true ∧ n = 2 * 2
  · rw [if_pos hmode, if_pos (show ¬ mode_ac = true ∧ (n : ℤ) = 2 * (2 : Nat) from ⟨hmode.1, hfour.mpr hmode.2⟩)]
  have hmode' : ¬ (¬ mode_ac = true ∧ (n : ℤ) = 2 * (2 : Nat)) := fun h => hmode ⟨h.1, hfour.mp h.2⟩
  rw [if_neg hmode, if_neg hmode', hread]
  dsimp only [Option.bind_eq_bind, Option.bind_some]
  cases hexBytes (((trimmed line).drop skip).take n) with
  | none => rfl
  | some msg => exact congrArg some (if_congr hfour rfl rfl)

/-- **What is read.** Within its bounds, the line is decoded as a list. -/
theorem decodeHexMessageAt_eq (mode_ac : Bool) (line : List Byte) :
    decodeHexMessageAt mode_ac line =
      if Overread line then none else some (decodeHexMessage mode_ac line) := by
  obtain ⟨lead, trail, h⟩ := exists_split line
  unfold decodeHexMessageAt
  rw [h.trimRight_eq, decodeHexMessage_eq]
  dsimp only [Option.bind_eq_bind, Option.bind_some]
  rw [h.trimLeft_eq]
  dsimp only [Option.bind_some]
  by_cases hempty : trimmed line = []
  · rw [if_pos (show Overread line from Or.inl hempty), h.lead_eq_nil hempty, hempty]
    rfl
  have hpos := List.length_pos_iff.mpr hempty
  have hlast : charAt (lead ++ Split.after line trail) (lead.length + (trimmed line).length - 1) =
      (trimmed line).getLast? := by
    have hread := h.charAt_trimmed
      (show (trimmed line).length - 1 < (trimmed line).length by omega)
    rw [← List.getLast?_eq_getElem?, Nat.cast_sub (by omega), Nat.cast_one, ← add_sub_assoc] at hread
    exact hread
  obtain ⟨last, hgetLast⟩ : ∃ last, (trimmed line).getLast? = some last :=
    ⟨_, List.getLast?_eq_some_getLast hempty⟩
  rw [hlast, hgetLast]
  dsimp only [Option.bind_some]
  by_cases hsemicolon : last = 0x3b
  swap
  · have hover : ¬ Overread line := by
      intro hover
      obtain hnil | ⟨hend, -⟩ := hover
      · exact hempty hnil
      · exact hsemicolon (Option.some.inj (hgetLast.symm.trans hend))
    rw [if_pos hsemicolon, if_neg hover, if_pos fun heq => hsemicolon (Option.some.inj heq)]
  subst hsemicolon
  have hover : Overread line ↔ (trimmed line).head? = some 0x3c ∧ line.length < indent line + 14 :=
    ⟨fun hover => (hover.resolve_left hempty).2, fun hshort => Or.inr ⟨hgetLast, hshort⟩⟩
  rw [if_neg (not_not.mpr rfl), if_neg (not_not.mpr rfl), readHeader_eq h hempty]
  by_cases hshort : (trimmed line).head? = some 0x3c ∧ line.length < indent line + 14
  · rw [if_pos hshort, if_pos (hover.mpr hshort)]
    rfl
  rw [if_neg hshort, if_neg fun h => hshort (hover.mp h)]
  dsimp only [Option.bind_some]
  cases avrHeader (trimmed line) with
  | none => rfl
  | some header => exact decodeDigitsAt_eq h mode_ac header.1 header.2

/-! ### Messages -/

/-- The digit of a value, in upper or lower case. -/
def IsHexDigit (c : Byte) (v : Fin 16) : Prop :=
  (v.val < 10 ∧ c.toNat = 0x30 + v) ∨ (10 ≤ v.val ∧ (c.toNat = 0x41 + (v - 10) ∨ c.toNat = 0x61 + (v - 10)))

instance (c : Byte) (v : Fin 16) : Decidable (IsHexDigit c v) := inferInstanceAs (Decidable (_ ∨ _))

/-- Bytes in hexadecimal digits, two for each. -/
inductive HexOf : List Byte → List Byte → Prop
  | nil : HexOf [] []
  | cons {hi lo : Byte} {high low : Fin 16} {digits msg : List Byte} (hhi : IsHexDigit hi high)
      (hlo : IsHexDigit lo low) (rest : HexOf digits msg) :
      HexOf (hi :: lo :: digits) (BitVec.ofNat 8 (16 * high + low) :: msg)

/-- The number of bytes of a message. -/
def Sized (mode_ac : Bool) (msg : List Byte) : Prop :=
  msg.length = ModeS.shortMsgBytes ∨ msg.length = ModeS.longMsgBytes ∨
    mode_ac = true ∧ msg.length = modeacMsgBytes

/-- Lines that are messages, with their signal level. -/
inductive AvrMessage : List Byte → ℚ → List Byte → Prop
  | raw {c : Byte} {digits msg : List Byte} (hc : c = 0x2a ∨ c = 0x3a) (hdigits : HexOf digits msg) :
      AvrMessage (c :: (digits ++ [0x3b])) 0 msg
  | timestamp {c : Byte} {time digits msg : List Byte} (hc : c = 0x40 ∨ c = 0x25) (htime : time.length = 12)
      (hdigits : HexOf digits msg) : AvrMessage (c :: (time ++ (digits ++ [0x3b]))) 0 msg
  | signal {time level digits msg : List Byte} {s : Byte} (htime : time.length = 12) (hlevel : HexOf level [s])
      (hdigits : HexOf digits msg) :
      AvrMessage (0x3c :: (time ++ (level ++ (digits ++ [0x3b])))) ((s.toNat / 255 : ℚ) ^ 2) msg

/-- `mm.signalLevel`. -/
def signalLevel (signal : BitVec 32) : ℚ := (signal.toInt / 255 : ℚ) ^ 2

/-- The message is handed to the decoder for messages of its length, with this signal level. -/
def HexMessage.Delivers (r : HexMessage) (level : ℚ) (msg : List Byte) : Prop :=
  ∃ signal, signalLevel signal = level ∧
    r = if msg.length = modeacMsgBytes then .modeAC signal msg else .modeS signal msg

theorem hexDigitVal_cases : ∀ c : Byte, (hexDigitVal c = -1 ∧ ∀ v, ¬ IsHexDigit c v) ∨
    ∃ v : Fin 16, IsHexDigit c v ∧ hexDigitVal c = BitVec.ofNat 32 v := by
  decide +kernel

theorem hexDigitVal_of_isHexDigit : ∀ (c : Byte) (v : Fin 16), IsHexDigit c v → hexDigitVal c = BitVec.ofNat 32 v := by
  decide +kernel

theorem signal_of_digits : ∀ high low : Fin 16, BitVec.ofNat 32 high <<< 4 ||| BitVec.ofNat 32 low =
    BitVec.ofNat 32 (16 * high + low) := by
  decide +kernel

theorem byte_of_digits : ∀ high low : Fin 16, (BitVec.ofNat 32 high <<< 4 ||| BitVec.ofNat 32 low).setWidth 8 =
    BitVec.ofNat 8 (16 * high + low) := by
  decide +kernel

theorem ofNat_ne_minusOne : ∀ v : Fin 16, BitVec.ofNat 32 v ≠ -1 := by decide

theorem hexOf_iff {digits msg : List Byte} :
    HexOf digits msg ↔ digits.length = 2 * msg.length ∧ hexBytes digits = some msg := by
  constructor
  · intro h
    induction h with
    | nil => exact ⟨rfl, rfl⟩
    | @cons hi lo high low digits msg hhi hlo rest ih =>
      refine ⟨by simp [ih.1]; omega, ?_⟩
      rw [hexBytes, hexDigitVal_of_isHexDigit _ _ hhi, hexDigitVal_of_isHexDigit _ _ hlo,
        if_neg fun hbad => hbad.elim (ofNat_ne_minusOne high) (ofNat_ne_minusOne low), ih.2, byte_of_digits]
      rfl
  · intro h
    obtain ⟨hlength, hbytes⟩ := h
    induction msg generalizing digits with
    | nil =>
      obtain rfl := List.length_eq_zero_iff.mp hlength
      exact HexOf.nil
    | cons b msg ih =>
      rcases digits with _ | ⟨hi, _ | ⟨lo, digits⟩⟩
      · cases hlength
      · cases hbytes
      rw [hexBytes] at hbytes
      obtain ⟨hbad, -⟩ | ⟨high, hhi, hhigh⟩ := hexDigitVal_cases hi
      · rw [if_pos (Or.inl hbad)] at hbytes
        cases hbytes
      obtain ⟨hbad, -⟩ | ⟨low, hlo, hlow⟩ := hexDigitVal_cases lo
      · rw [if_pos (Or.inr hbad)] at hbytes
        cases hbytes
      rw [hhigh, hlow, if_neg fun hbad => hbad.elim (ofNat_ne_minusOne high) (ofNat_ne_minusOne low),
        byte_of_digits] at hbytes
      obtain ⟨rest, hrest, heq⟩ := Option.map_eq_some_iff.mp hbytes
      obtain ⟨rfl, rfl⟩ := List.cons.inj heq
      exact HexOf.cons hhi hlo (ih (by simp at hlength; omega) hrest)

theorem length_hexBytes : ∀ {digits bytes : List Byte}, hexBytes digits = some bytes →
    bytes.length = digits.length / 2
  | [], _, h => by
    obtain rfl := Option.some.inj h
    rfl
  | [_], _, h => by
    obtain rfl := Option.some.inj h
    simp
  | hi :: lo :: digits, bytes, h => by
    rw [hexBytes] at h
    split at h
    · cases h
    · obtain ⟨rest, hrest, rfl⟩ := Option.map_eq_some_iff.mp h
      rw [List.length_cons, length_hexBytes hrest, List.length_cons, List.length_cons]
      omega

/-- The signal level in digits. -/
theorem signalLevel_of_hexOf {hi lo s : Byte} (h : HexOf [hi, lo] [s]) :
    signalLevel (hexDigitVal hi <<< 4 ||| hexDigitVal lo) = (s.toNat / 255 : ℚ) ^ 2 := by
  cases h with
  | @cons _ _ high low _ _ hhi hlo rest =>
    have hvalue : ∀ high low : Fin 16, (BitVec.ofNat 32 (16 * high + low)).toInt =
        ((BitVec.ofNat 8 (16 * high + low)).toNat : ℤ) := by decide +kernel
    rw [hexDigitVal_of_isHexDigit _ _ hhi, hexDigitVal_of_isHexDigit _ _ hlo, signal_of_digits, signalLevel,
      hvalue, Int.cast_natCast]

/-! ### The digits of a line -/

theorem ignored_delivers (level : ℚ) (msg : List Byte) : ¬ HexMessage.ignored.Delivers level msg := by
  intro h
  obtain ⟨signal, -, heq⟩ := h
  split at heq <;> cases heq

theorem decodeDigits_delivers {mode_ac : Bool} {body : List Byte} {signal : BitVec 32} {skip : Nat} {level : ℚ}
    {msg : List Byte} :
    (decodeDigits mode_ac (body ++ [0x3b]) signal skip).Delivers level msg ↔
      HexOf (body.drop skip) msg ∧ Sized mode_ac msg ∧ signalLevel signal = level := by
  have hl : (body ++ [(0x3b : Byte)]).length - (skip + 1) = (body.drop skip).length := by
    rw [List.length_append, List.length_drop, List.length_singleton, Nat.add_sub_add_right]
  have hdigits : ((body ++ [(0x3b : Byte)]).drop skip).take (body.drop skip).length = body.drop skip := by
    rw [List.drop_append, List.take_left]
  unfold decodeDigits Sized
  dsimp only
  rw [hl, hdigits, hexOf_iff]
  generalize body.drop skip = digits
  unfold modeacMsgBytes ModeS.shortMsgBytes ModeS.longMsgBytes
  by_cases hsize : digits.length ≠ 2 * 2 ∧ digits.length ≠ 2 * 7 ∧ digits.length ≠ 2 * 14
  · rw [if_pos hsize]
    exact ⟨fun h => absurd h (ignored_delivers level msg), fun h => by omega⟩
  rw [if_neg hsize]
  by_cases hmode : ¬ mode_ac = true ∧ digits.length = 2 * 2
  · rw [if_pos hmode]
    refine ⟨fun h => absurd h (ignored_delivers level msg), fun h => ?_⟩
    obtain ⟨⟨hlength, -⟩, hsized | hsized | ⟨henabled, -⟩, -⟩ := h
    · omega
    · omega
    · exact absurd henabled hmode.1
  rw [if_neg hmode]
  cases hbytes : hexBytes digits with
  | none => exact ⟨fun h => absurd h (ignored_delivers level msg), fun h => by cases h.1.2⟩
  | some bytes =>
    have hlength := length_hexBytes hbytes
    have hkind : digits.length = 2 * 2 ↔ bytes.length = 2 := by omega
    dsimp only
    constructor
    · intro h
      obtain ⟨signal', hlevel, heq⟩ := h
      obtain ⟨rfl, rfl⟩ : signal = signal' ∧ bytes = msg := by
        split at heq <;> split at heq <;> cases heq <;> exact ⟨rfl, rfl⟩
      refine ⟨⟨by omega, rfl⟩, ?_, hlevel⟩
      by_cases hfour : digits.length = 2 * 2
      · refine Or.inr (Or.inr ⟨?_, hkind.mp hfour⟩)
        by_contra hoff
        exact hmode ⟨hoff, hfour⟩
      · omega
    · intro h
      obtain ⟨⟨-, heq⟩, -, hlevel⟩ := h
      obtain rfl := Option.some.inj heq
      exact ⟨signal, hlevel, if_congr hkind rfl rfl⟩

theorem delivers_iff {mode_ac : Bool} {line : List Byte} {level : ℚ} {msg : List Byte} :
    (decodeHexMessage mode_ac line).Delivers level msg ↔
      ∃ body signal skip, trimmed line = body ++ [0x3b] ∧ avrHeader (trimmed line) = some (signal, skip) ∧
        HexOf (body.drop skip) msg ∧ Sized mode_ac msg ∧ signalLevel signal = level := by
  rw [decodeHexMessage_eq]
  by_cases hlast : (trimmed line).getLast? = some 0x3b
  swap
  · rw [if_pos hlast]
    refine ⟨fun h => absurd h (ignored_delivers level msg), fun h => ?_⟩
    obtain ⟨body, -, -, hline, -⟩ := h
    exact absurd (hline ▸ List.getLast?_concat) hlast
  rw [if_neg (not_not.mpr hlast)]
  obtain ⟨body, hline⟩ := List.getLast?_eq_some_iff.mp hlast
  rw [hline]
  cases hheader : avrHeader (body ++ [0x3b]) with
  | none =>
    refine ⟨fun h => absurd h (ignored_delivers level msg), fun h => ?_⟩
    obtain ⟨_, _, _, -, hnone, -⟩ := h
    cases hnone
  | some header =>
    obtain ⟨signal, skip⟩ := header
    refine decodeDigits_delivers.trans ⟨fun h => ⟨body, signal, skip, rfl, rfl, h⟩, fun h => ?_⟩
    obtain ⟨body', signal', skip', heq, hheader', h⟩ := h
    obtain ⟨rfl, rfl⟩ := Prod.mk.inj (Option.some.inj hheader')
    obtain rfl := List.append_cancel_right heq
    exact h

/-! ### What is passed on -/

/-- The characters of the signal level are digits, where there is one. -/
def LevelDigits (text : List Byte) : Prop :=
  text.head? = some 0x3c → ∃ s, HexOf [text.getD 13 0, text.getD 14 0] [s]

theorem level_chars {time level : List Byte} (rest : List Byte) (htime : time.length = 12) (hlevel : level.length = 2) :
    [(0x3c :: (time ++ (level ++ rest))).getD 13 0, (0x3c :: (time ++ (level ++ rest))).getD 14 0] = level := by
  match level, hlevel with
  | [hi, lo], _ =>
    have hchar : ∀ k, (0x3c :: (time ++ ([hi, lo] ++ rest))).getD (k + 1 + 12) 0 = (hi :: lo :: rest).getD k 0 := by
      intro k
      rw [show k + 1 + 12 = k + 12 + 1 by omega, List.getD_cons_succ, List.getD_append_right _ _ _ _ (by omega), htime,
        Nat.add_sub_cancel]
      rfl
    exact congrArg₂ (fun a b => [a, b]) (hchar 0) (hchar 1)

theorem exists_level {body : List Byte} (hlong : 14 ≤ body.length) :
    ∃ time level, time.length = 12 ∧ level.length = 2 ∧
      body ++ [0x3b] = time ++ (level ++ (body.drop 14 ++ [(0x3b : Byte)])) := by
  refine ⟨body.take 12, (body.drop 12).take 2, by rw [List.length_take]; omega,
    by rw [List.length_take, List.length_drop]; omega, ?_⟩
  rw [← List.append_assoc (List.take 2 _), ← List.append_assoc (List.take 12 _), show 14 = 12 + 2 from rfl,
    ← List.drop_drop, List.take_append_drop, List.take_append_drop]

theorem signalLevel_zero : signalLevel 0 = 0 := by
  simp [signalLevel]

/-- A message, by its header and its digits. -/
theorem avrMessage_iff {text : List Byte} {level : ℚ} {msg : List Byte} :
    AvrMessage text level msg ↔
      ∃ body signal skip, text = body ++ [0x3b] ∧ avrHeader text = some (signal, skip) ∧ skip ≤ body.length ∧
        HexOf (body.drop skip) msg ∧ signalLevel signal = level ∧ LevelDigits text := by
  constructor
  · intro h
    cases h with
    | @raw c digits msg hc hdigits =>
      refine ⟨c :: digits, 0, 1, rfl, ?_, by simp, hdigits, signalLevel_zero, fun hhead => ?_⟩
      · obtain rfl | rfl := hc <;> rfl
      · obtain rfl | rfl := hc <;> cases hhead
    | @timestamp c time digits msg hc htime hdigits =>
      refine ⟨c :: (time ++ digits), 0, 13, by simp, ?_, by simp [htime], ?_, signalLevel_zero, fun hhead => ?_⟩
      · obtain rfl | rfl := hc <;> rfl
      · rw [List.drop_succ_cons, ← htime, List.drop_left]
        exact hdigits
      · obtain rfl | rfl := hc <;> cases hhead
    | @signal time level digits msg s htime hlevel hdigits =>
      have hlength : level.length = 2 := (hexOf_iff.mp hlevel).1
      have hchars := level_chars (digits ++ [0x3b]) htime hlength
      refine ⟨0x3c :: (time ++ (level ++ digits)), _, 15, by simp, rfl, by simp [htime, hlength]; omega, ?_, ?_,
        fun _ => ⟨s, ?_⟩⟩
      · rw [List.drop_succ_cons, ← List.append_assoc,
          show 14 = (time ++ level).length by rw [List.length_append, htime, hlength], List.drop_left]
        exact hdigits
      · rw [← hchars] at hlevel
        exact signalLevel_of_hexOf hlevel
      · rw [hchars]
        exact hlevel
  · intro h
    obtain ⟨body, signal, skip, rfl, hheader, hskip, hdigits, rfl, hlevel⟩ := h
    cases body with
    | nil => cases hheader
    | cons c body =>
      unfold avrHeader at hheader
      rw [List.cons_append, List.headD_cons] at hheader
      dsimp only at hheader
      split at hheader
      · next hc =>
        subst hc
        obtain ⟨rfl, rfl⟩ := Prod.mk.inj (Option.some.inj hheader)
        have hlong : 14 ≤ body.length := by simpa using hskip
        obtain ⟨time, level, htime, hchars, hbody⟩ := exists_level hlong
        obtain ⟨s, hs⟩ := hlevel rfl
        rw [List.cons_append] at hs
        rw [List.cons_append, signalLevel_of_hexOf hs]
        rw [hbody, level_chars _ htime hchars] at hs
        rw [hbody]
        exact AvrMessage.signal htime hs hdigits
      · split at hheader
        · next hc =>
          obtain ⟨rfl, rfl⟩ := Prod.mk.inj (Option.some.inj hheader)
          have hlong : 12 ≤ body.length := by simpa using hskip
          have htime : (body.take 12).length = 12 := by rw [List.length_take]; omega
          have htext : c :: body ++ [0x3b] = c :: (body.take 12 ++ (body.drop 12 ++ [(0x3b : Byte)])) := by
            rw [List.cons_append, ← List.append_assoc, List.take_append_drop]
          rw [htext, signalLevel_zero]
          exact AvrMessage.timestamp hc htime hdigits
        · split at hheader
          · next hc =>
            obtain ⟨rfl, rfl⟩ := Prod.mk.inj (Option.some.inj hheader)
            rw [signalLevel_zero]
            exact AvrMessage.raw hc hdigits
          · cases hheader

/-- Messages are passed on. -/
theorem delivers_of_avrMessage {mode_ac : Bool} {line : List Byte} {level : ℚ} {msg : List Byte}
    (hsized : Sized mode_ac msg) (h : AvrMessage (trimmed line) level msg) :
    (decodeHexMessage mode_ac line).Delivers level msg := by
  obtain ⟨body, signal, skip, hline, hheader, -, hdigits, hlevel, -⟩ := avrMessage_iff.mp h
  exact delivers_iff.mpr ⟨body, signal, skip, hline, hheader, hdigits, hsized, hlevel⟩

/-- The signal level of a message is in digits, if all else is as it should be. -/
def LevelReadable (mode_ac : Bool) (line : List Byte) : Prop :=
  ∀ time level digits msg, time.length = 12 → level.length = 2 → HexOf digits msg → Sized mode_ac msg →
    trimmed line = 0x3c :: (time ++ (level ++ (digits ++ [0x3b]))) → ∃ s, HexOf level [s]

/-- Nothing outside the line is read, and what is passed on are the messages. -/
def ParsedExactly (mode_ac : Bool) (line : List Byte) : Prop :=
  ∃ r, decodeHexMessageAt mode_ac line = some r ∧
    ∀ level msg, r.Delivers level msg ↔ Sized mode_ac msg ∧ AvrMessage (trimmed line) level msg

/-- **Main theorem.** A line is read within its bounds and passed on exactly if it is a message, if and only if
there is something in it, the signal level is not expected behind its end, and is in digits if all else is as
it should be. -/
theorem parsedExactly_iff (mode_ac : Bool) (line : List Byte) :
    ParsedExactly mode_ac line ↔ ¬ Overread line ∧ LevelReadable mode_ac line := by
  constructor
  · intro h
    obtain ⟨r, hr, hdelivers⟩ := h
    rw [decodeHexMessageAt_eq] at hr
    split at hr
    · cases hr
    · next hover =>
      obtain rfl := Option.some.inj hr
      refine ⟨hover, fun time level digits msg htime hlevel hdigits hsized hline => ?_⟩
      have hbody : 0x3c :: (time ++ (level ++ (digits ++ [0x3b]))) =
          0x3c :: (time ++ (level ++ digits)) ++ [(0x3b : Byte)] := by simp
      have hdrop : (0x3c :: (time ++ (level ++ digits))).drop 15 = digits := by
        rw [List.drop_succ_cons, ← List.append_assoc,
          show 14 = (time ++ level).length by rw [List.length_append, htime, hlevel], List.drop_left]
      have hmessage := ((hdelivers _ msg).mp (delivers_iff.mpr ⟨_, _, _, hline.trans hbody,
        by rw [hline]; rfl, hdrop.symm ▸ hdigits, hsized, rfl⟩)).2
      obtain ⟨_, _, _, -, -, -, -, -, hchars⟩ := avrMessage_iff.mp hmessage
      rw [hline] at hchars
      obtain ⟨s, hs⟩ := hchars rfl
      rw [level_chars (digits ++ [0x3b]) htime hlevel] at hs
      exact ⟨s, hs⟩
  · intro h
    obtain ⟨hover, hreadable⟩ := h
    refine ⟨decodeHexMessage mode_ac line, ?_, fun level msg => ?_⟩
    · rw [decodeHexMessageAt_eq, if_neg hover]
    constructor
    · intro hdelivers
      obtain ⟨body, signal, skip, hline, hheader, hdigits, hsized, hlevel⟩ := delivers_iff.mp hdelivers
      have hskip : skip < body.length := by
        have hlength := (hexOf_iff.mp hdigits).1
        rw [List.length_drop] at hlength
        unfold Sized ModeS.shortMsgBytes ModeS.longMsgBytes modeacMsgBytes at hsized
        omega
      refine ⟨hsized, avrMessage_iff.mpr ⟨body, signal, skip, hline, hheader, hskip.le, hdigits, hlevel, fun hhead => ?_⟩⟩
      -- a signal level that is passed on is one that is readable
      cases body with
      | nil => cases hskip
      | cons c body =>
        rw [hline] at hhead hheader
        obtain rfl := Option.some.inj hhead
        obtain ⟨-, rfl⟩ := Prod.mk.inj (Option.some.inj hheader)
        obtain ⟨time, chars, htime, hchars, hbody⟩ := exists_level (show 14 ≤ body.length by simp at hskip; omega)
        rw [List.cons_append, hbody] at hline
        obtain ⟨s, hs⟩ := hreadable time chars _ msg htime hchars hdigits hsized hline
        exact ⟨s, by rw [hline, level_chars _ htime hchars]; exact hs⟩
    · exact fun hmessage => delivers_of_avrMessage hmessage.1 hmessage.2

/-- An extended squitter. -/
def squitterBytes : List Byte :=
  [0x8D, 0x48, 0x40, 0xD6, 0x20, 0x2C, 0xC3, 0x71, 0xC3, 0x2C, 0xE0, 0x57, 0x60, 0x98]

/-- `<000000000000zz…;`, with the digits of the squitter. -/
def unreadableLevel : List Byte :=
  0x3c :: (List.replicate 12 0x30 ++ ([0x7a, 0x7a] ++ (hexDigits squitterBytes ++ [0x3b])))

/-- The empty line, `<;`, and a message without a signal level. -/
theorem not_parsedExactly : ¬ ParsedExactly false [] ∧ ¬ ParsedExactly false [0x3c, 0x3b] ∧
    ¬ ParsedExactly false unreadableLevel := by
  refine ⟨fun h => ?_, fun h => ?_, fun h => ?_⟩
  · obtain ⟨r, hr, -⟩ := h
    have hnone : decodeHexMessageAt false [] = none := by decide
    cases hnone.symm.trans hr
  · obtain ⟨r, hr, -⟩ := h
    have hnone : decodeHexMessageAt false [0x3c, 0x3b] = none := by decide +kernel
    cases hnone.symm.trans hr
  · obtain ⟨r, hr, hdelivers⟩ := h
    have hpassed : decodeHexMessageAt false unreadableLevel = some (.modeS (-1) squitterBytes) := by decide +kernel
    obtain rfl := Option.some.inj (hpassed.symm.trans hr)
    have hmessage := ((hdelivers (signalLevel (-1)) squitterBytes).mp ⟨-1, rfl, rfl⟩).2
    obtain ⟨_, _, _, -, -, -, -, -, hchars⟩ := avrMessage_iff.mp hmessage
    obtain ⟨s, hs⟩ := hchars (by decide +kernel)
    have hbytes : hexBytes [(trimmed unreadableLevel).getD 13 0, (trimmed unreadableLevel).getD 14 0] = none := by
      decide +kernel
    cases hbytes.symm.trans (hexOf_iff.mp hs).2

end RbFeeder.Net
