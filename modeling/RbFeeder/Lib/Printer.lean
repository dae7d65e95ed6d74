import Mathlib

/-! Printing into a buffer of limited size.

A `Step` prints at a position and moves it on by all that it had to print, also where
the buffer is at its end. What every step of a sequence would print does not depend on
the buffer then (`Appends`); the buffer has it if there is room for it and a terminator.
A write outside of the buffer makes a step fail. -/
namespace Printing

/-- A buffer, and the position behind what was printed. -/
structure Writer (α : Type*) where
  mem : Nat → α
  p : Nat
  /-- `none` for a buffer without end. -/
  size : Option Nat

abbrev Step (α : Type*) := Writer α → Option (Writer α)

variable {α : Type*}

namespace Writer
variable (w : Writer α)

def text : List α := (List.range w.p).map w.mem

/-- There is room for this many characters and a terminator. -/
def Fits (len : Nat) : Prop := ∀ n ∈ w.size, w.p + len < n

/-- Characters written at the position; `none` if one of them is outside of the buffer. -/
def store (chars : List α) : Option (Writer α) :=
  if ∀ n ∈ w.size, chars.length = 0 ∨ w.p + chars.length ≤ n then
    some { w with mem := fun i => if w.p ≤ i then (chars[i - w.p]?).getD (w.mem i) else w.mem i }
  else none

end Writer

/-- What is written of a text: as much as there is room for before the terminator. -/
def truncated (nul : α) (text : List α) : Option Nat → List α
  | none => text ++ [nul]
  | some 0 => []
  | some (n + 1) => text.take n ++ [nul]

/-- `p += vsnprintf(p, end - p, …)`, with nothing written from the end on. -/
def snprintf (nul : α) (text : List α) : Step α := fun w =>
  (w.store (truncated nul text (w.size.map (· - w.p)))).map fun w => { w with p := w.p + text.length }

/-- `*p++ = c`. -/
def put (c : α) : Step α := fun w => (w.store [c]).map fun w => { w with p := w.p + 1 }

def onlyIf (b : Bool) (f : Step α) : Step α := if b then f else some

def seq : List (Step α) → Step α
  | [] => some
  | f :: fs => fun w => (f w).bind (seq fs)

/-! ### Writing -/

section Write
variable {w w' : Writer α}

@[simp] theorem Writer.length_text (w : Writer α) : w.text.length = w.p := by
  rw [Writer.text, List.length_map, List.length_range]

theorem Writer.fits_of_none (h : w.size = none) (len : Nat) : w.Fits len := fun n hn => by
  rw [h] at hn
  cases hn

theorem Writer.Fits.mono {len len' : Nat} (h : w.Fits len) (hle : len' ≤ len) : w.Fits len' :=
  fun n hn => by
    have := h n hn
    omega

/-- The text up to the position stays; behind it are the characters that were written. -/
theorem text_of_store {chars : List α} (h : w.store chars = some w') {len : Nat} (hlen : len ≤ chars.length) :
    ({ w' with p := w.p + len } : Writer α).text = w.text ++ chars.take len := by
  unfold Writer.store at h
  split at h
  swap
  · cases h
  obtain rfl := Option.some.inj h
  unfold Writer.text
  dsimp only
  rw [List.range_add, List.map_append, List.map_map]
  refine congrArg₂ _ (List.map_congr_left fun i hi => ?_) (List.ext_getElem ?_ fun i hi hi' => ?_)
  · exact if_neg (Nat.not_le.mpr (List.mem_range.mp hi))
  · simp [hlen]
  · have hin : i < chars.length := by
      rw [List.length_take] at hi'
      omega
    simp [hin]

theorem take_text_of_store {chars : List α} (h : w.store chars = some w') (len : Nat) :
    ({ w' with p := w.p + len } : Writer α).text.take w.p = w.text := by
  have hold := text_of_store h (Nat.zero_le _)
  rw [List.take_zero, List.append_nil, Nat.add_zero] at hold
  rw [← hold]
  unfold Writer.text
  dsimp only
  rw [← List.map_take, List.take_range, Nat.min_eq_left (Nat.le_add_right _ _)]

theorem size_of_store {chars : List α} (h : w.store chars = some w') : w'.size = w.size ∧ w'.p = w.p := by
  unfold Writer.store at h
  split at h
  · obtain rfl := Option.some.inj h
    exact ⟨rfl, rfl⟩
  · cases h

theorem exists_store {chars : List α} (h : ∀ n ∈ w.size, chars.length = 0 ∨ w.p + chars.length ≤ n) :
    ∃ w', w.store chars = some w' := ⟨_, if_pos h⟩

end Write

/-! ### Texts -/

/-- What became of a buffer when a text was printed. -/
structure Extends (w w' : Writer α) (text : List α) : Prop where
  size : w'.size = w.size
  p : w'.p = w.p + text.length
  before : w'.text.take w.p = w.text
  text : w.Fits text.length → w'.text = w.text ++ text

theorem Extends.refl (w : Writer α) : Extends w w [] where
  size := rfl
  p := rfl
  before := List.take_of_length_le w.length_text.le
  text _ := (List.append_nil _).symm

theorem Extends.trans {w w₁ w₂ : Writer α} {s t : List α} (h₁ : Extends w w₁ s) (h₂ : Extends w₁ w₂ t) :
    Extends w w₂ (s ++ t) where
  size := h₂.size.trans h₁.size
  p := by rw [h₂.p, h₁.p, List.length_append, Nat.add_assoc]
  before := by
    rw [← h₁.before, ← h₂.before, List.take_take, Nat.min_eq_left]
    rw [h₁.p]
    exact Nat.le_add_right _ _
  text hfits := by
    rw [List.length_append] at hfits
    have hfits₂ : w₁.Fits t.length := fun n hn => by
      rw [h₁.size] at hn
      have := hfits n hn
      rw [h₁.p]
      omega
    rw [h₂.text hfits₂, h₁.text (hfits.mono (Nat.le_add_right _ _)), List.append_assoc]

/-- The step prints the text, whatever the buffer. -/
def Appends (f : Step α) (text : List α) : Prop := ∀ w, ∃ w', f w = some w' ∧ Extends w w' text

theorem length_truncated (nul : α) (text : List α) (n : Nat) : (truncated nul text (some n)).length ≤ n := by
  cases n with
  | zero => exact Nat.zero_le _
  | succ n =>
    rw [truncated, List.length_append, List.length_take, List.length_singleton]
    omega

theorem truncated_of_lt (nul : α) {text : List α} {room : Option Nat} (h : ∀ n ∈ room, text.length < n) :
    truncated nul text room = text ++ [nul] := by
  match room with
  | none => rfl
  | some 0 => exact absurd (h 0 rfl) (Nat.not_lt_zero _)
  | some (n + 1) => rw [truncated, List.take_of_length_le (Nat.lt_succ_iff.mp (h _ rfl))]

theorem appends_snprintf (nul : α) (text : List α) : Appends (snprintf nul text) text := by
  intro w
  obtain ⟨w', hstore⟩ : ∃ w', w.store (truncated nul text (w.size.map (· - w.p))) = some w' := by
    refine exists_store fun n hn => ?_
    rw [Option.mem_def.mp hn, Option.map_some]
    have hlength := length_truncated nul text (n - w.p)
    omega
  obtain ⟨hsize, hp⟩ := size_of_store hstore
  refine ⟨{ w' with p := w.p + text.length }, ?_, hsize, rfl, take_text_of_store hstore _, fun hfits => ?_⟩
  · rw [snprintf, hstore, Option.map_some, hp]
  have hroom : ∀ n ∈ w.size.map (· - w.p), text.length < n := by
    intro n hn
    obtain ⟨size, hsize, rfl⟩ := Option.map_eq_some_iff.mp hn
    have := hfits size hsize
    omega
  rw [truncated_of_lt nul hroom] at hstore
  rw [text_of_store hstore (by rw [List.length_append]; exact Nat.le_add_right _ _), List.take_left]

theorem Appends.onlyIf {f : Step α} {text : List α} (h : Appends f text) (b : Bool) :
    Appends (onlyIf b f) (if b then text else []) := by
  intro w
  cases b with
  | true => exact h w
  | false => exact ⟨w, rfl, Extends.refl w⟩

theorem appends_seq {fs : List (Step α)} {texts : List (List α)} (h : List.Forall₂ Appends fs texts) :
    Appends (seq fs) texts.flatten := by
  induction h with
  | nil => exact fun w => ⟨w, rfl, Extends.refl w⟩
  | @cons f text fs texts hf _ ih =>
    intro w
    obtain ⟨w₁, hrun₁, h₁⟩ := hf w
    obtain ⟨w₂, hrun₂, h₂⟩ := ih w₁
    refine ⟨w₂, ?_, h₁.trans h₂⟩
    show (f w).bind (seq fs) = some w₂
    rw [hrun₁, Option.bind_some, hrun₂]

/-- A character is put into the buffer or the step fails. -/
theorem put_eq {w : Writer α} (c : α) (h : w.Fits 0) : ∃ w', put c w = some w' ∧ Extends w w' [c] := by
  obtain ⟨w', hstore⟩ : ∃ w', w.store [c] = some w' := exists_store fun n hn => Or.inr (h n hn)
  obtain ⟨hsize, hp⟩ := size_of_store hstore
  refine ⟨{ w' with p := w.p + 1 }, ?_, hsize, rfl, take_text_of_store hstore _, fun _ => ?_⟩
  · rw [put, hstore, Option.map_some, hp]
  · exact text_of_store hstore (le_refl 1)

/-! ### Taking back a character -/

/-- After some printing the last character is taken back, if there is one, and printing
goes on there. -/
def overLast (f g : Step α) : Step α := fun w =>
  (f w).bind fun w' => g (if w'.p ≠ w.p then { w' with p := w'.p - 1 } else w')

/-- The text up to an earlier position, whatever the size of the buffer is then. -/
theorem text_back {w : Writer α} (n : Nat) (hn : n ≤ w.p) (size : Option Nat) :
    (⟨w.mem, n, size⟩ : Writer α).text = w.text.take n := by
  unfold Writer.text
  dsimp only
  rw [← List.map_take, List.take_range, Nat.min_eq_left hn]

/-- There is room for the character that is taken back, if there is for the one after it. -/
theorem Appends.overLast {f g : Step α} {s t : List α} (hf : Appends f s) (hg : Appends g t) (ht : t ≠ []) :
    Appends (overLast f g) (s.dropLast ++ t) := by
  intro w
  obtain ⟨w₁, hrun₁, h₁⟩ := hf w
  have hpos := List.length_pos_iff.mpr ht
  by_cases hs : s = []
  · subst hs
    obtain ⟨w₂, hrun₂, h₂⟩ := hg w₁
    refine ⟨w₂, ?_, h₁.trans h₂⟩
    rw [Printing.overLast, hrun₁, Option.bind_some, if_neg (by rw [h₁.p]; simp), hrun₂]
  have hlength := List.length_pos_iff.mpr hs
  have hne : w₁.p ≠ w.p := by
    rw [h₁.p]
    omega
  have hp : w₁.p - 1 = w.p + s.dropLast.length := by
    rw [h₁.p, List.length_dropLast]
    omega
  obtain ⟨w₂, hrun₂, h₂⟩ := hg { w₁ with p := w₁.p - 1 }
  have hback : Extends w { w₁ with p := w₁.p - 1 } s.dropLast ∨ ¬ w.Fits (s.dropLast ++ t).length := by
    by_cases hfits : w.Fits s.length
    · refine Or.inl ⟨h₁.size, hp, ?_, fun _ => ?_⟩
      · rw [text_back _ (Nat.sub_le _ _) _, List.take_take, Nat.min_eq_left (by omega), h₁.before]
      · rw [text_back _ (Nat.sub_le _ _) _, h₁.text hfits, hp, List.take_append, List.take_of_length_le (by simp),
          Writer.length_text, Nat.add_sub_cancel_left, List.length_dropLast, ← List.dropLast_eq_take]
    · refine Or.inr fun h => hfits (h.mono ?_)
      rw [List.length_append, List.length_dropLast]
      omega
  refine ⟨w₂, ?_, ?_⟩
  · rw [Printing.overLast, hrun₁, Option.bind_some, if_pos hne, hrun₂]
  obtain hback | hfull := hback
  · exact hback.trans h₂
  refine ⟨h₂.size.trans h₁.size, ?_, ?_, fun h => absurd h hfull⟩
  · rw [h₂.p, List.length_append]
    dsimp only
    rw [hp, Nat.add_assoc]
  · have hbefore := h₂.before
    dsimp only at hbefore
    rw [← h₁.before, ← Nat.min_eq_left (show w.p ≤ w₁.p - 1 by omega), ← List.take_take, hbefore,
      text_back _ (Nat.sub_le _ _) _, List.take_take, Nat.min_eq_left (show w.p ≤ w₁.p - 1 by omega)]

/-! ### Printed texts -/

/-- What a step prints into a buffer without end. -/
def printed (nul : α) (f : Step α) : List α := ((f ⟨fun _ => nul, 0, none⟩).map Writer.text).getD []

theorem Appends.printed_eq {f : Step α} {text : List α} (h : Appends f text) (nul : α) : printed nul f = text := by
  obtain ⟨w', hrun, hextends⟩ := h ⟨fun _ => nul, 0, none⟩
  rw [printed, hrun]
  exact hextends.text (Writer.fits_of_none rfl _)

/-- The step prints the same whatever the buffer. -/
def Printer (nul : α) (f : Step α) : Prop := Appends f (printed nul f)

theorem Appends.printer {f : Step α} {text : List α} (h : Appends f text) (nul : α) : Printer nul f := by
  rw [Printer, h.printed_eq nul]
  exact h

section Printer
variable {nul : α} {f g : Step α}

theorem printer_snprintf (text : List α) : Printer nul (snprintf nul text) := (appends_snprintf nul text).printer nul

theorem Printer.onlyIf (h : Printer nul f) (b : Bool) : Printer nul (onlyIf b f) := (Appends.onlyIf h b).printer nul

theorem appends_printed {fs : List (Step α)} (h : ∀ f ∈ fs, Printer nul f) :
    Appends (seq fs) (fs.map (printed nul)).flatten := by
  refine appends_seq ?_
  rw [List.forall₂_map_right_iff, List.forall₂_same]
  exact h

theorem printer_seq {fs : List (Step α)} (h : ∀ f ∈ fs, Printer nul f) : Printer nul (seq fs) :=
  (appends_printed h).printer nul

theorem printed_seq {fs : List (Step α)} (h : ∀ f ∈ fs, Printer nul f) :
    printed nul (seq fs) = (fs.map (printed nul)).flatten := (appends_printed h).printed_eq nul

@[simp] theorem printed_snprintf (text : List α) : printed nul (snprintf nul text) = text :=
  (appends_snprintf nul text).printed_eq nul

end Printer

end Printing
