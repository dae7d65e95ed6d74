import Mathlib

/-! Framing a stream that arrives in pieces.

A `Framer` looks at what is buffered and either consumes some of it, perhaps
emitting messages, or asks for more. What it decided stays decided when more
arrives (`stable`), so the messages of a stream do not depend on where it was cut:
scanning a prefix and then what is left of it together with the rest is scanning
the whole (`scan_append`). A reader with a buffer of limited size may throw away a
buffer that is full and still undecided; that goes unnoticed if such a buffer could
never have contributed to a message (`Inert`, `messages_read`). -/
namespace Framing

structure Framer (α β : Type*) where
  /-- Messages and what remains, or `none` for more input. -/
  next : List α → Option (List β × List α)
  /-- A decision stands whatever arrives later. -/
  stable : ∀ {a m r} (b : List α), next a = some (m, r) → next (a ++ b) = some (m, r ++ b)
  /-- A decision consumes something. -/
  shrinks : ∀ {a m r}, next a = some (m, r) → r.length < a.length

namespace Framer
variable {α β : Type*} (F : Framer α β)

/-- All messages in the buffer, and what is left of it. -/
def scan (a : List α) : List β × List α :=
  match _h : F.next a with
  | none => ([], a)
  | some (m, r) => (m ++ (scan r).1, (scan r).2)
termination_by a.length
decreasing_by all_goals exact F.shrinks ‹_›

theorem scan_of_none {a : List α} (h : F.next a = none) : F.scan a = ([], a) := by
  rw [scan]
  split
  · rfl
  · next heq => rw [h] at heq; cases heq

theorem scan_of_some {a r : List α} {m : List β} (h : F.next a = some (m, r)) :
    F.scan a = (m ++ (F.scan r).1, (F.scan r).2) := by
  rw [scan]
  split
  · next heq => rw [h] at heq; cases heq
  · next m' r' heq =>
    rw [h] at heq
    obtain ⟨rfl, rfl⟩ := Prod.mk.inj (Option.some.inj heq)
    rfl

@[simp] theorem next_nil : F.next [] = none := by
  cases h : F.next [] with
  | none => rfl
  | some result => exact absurd (F.shrinks h) (Nat.not_lt_zero _)

/-- To reason about a scan: the undecided buffer, and one decision at a time. -/
theorem scan_induction {P : List α → Prop} (waits : ∀ a, F.next a = none → P a)
    (decides : ∀ a m r, F.next a = some (m, r) → P r → P a) (a : List α) : P a := by
  induction hlen : a.length using Nat.strongRecOn generalizing a with
  | _ n ih =>
    cases h : F.next a with
    | none => exact waits a h
    | some result =>
      obtain ⟨m, r⟩ := result
      exact decides a m r h (ih r.length (hlen ▸ F.shrinks h) r rfl)

/-- What a scan leaves is undecided. -/
theorem next_scan (a : List α) : F.next (F.scan a).2 = none := by
  induction a using F.scan_induction with
  | waits a h => rwa [F.scan_of_none h]
  | decides a m r h ih => rwa [F.scan_of_some h]

/-- A scan can be interrupted anywhere. -/
theorem scan_append (a b : List α) :
    F.scan (a ++ b) =
      ((F.scan a).1 ++ (F.scan ((F.scan a).2 ++ b)).1, (F.scan ((F.scan a).2 ++ b)).2) := by
  induction a using F.scan_induction with
  | waits a h => rw [F.scan_of_none h, List.nil_append]
  | decides a m r h ih => rw [F.scan_of_some h, F.scan_of_some (F.stable b h), ih, List.append_assoc]

/-- A buffer that will never be part of a message. -/
def Inert (r : List α) : Prop := ∀ b, (F.scan (r ++ b)).1 = (F.scan b).1

/-- Reading pieces one after the other. `keep` says what is kept of the buffer
before a piece is added. -/
def read (keep : List α → List α) : List α → List (List α) → List β × List α
  | buf, [] => ([], buf)
  | buf, piece :: pieces =>
    let (m, r) := F.scan (keep buf ++ piece)
    (m ++ (read keep r pieces).1, (read keep r pieces).2)

theorem read_append (keep : List α → List α) (buf : List α) (pieces pieces' : List (List α)) :
    F.read keep buf (pieces ++ pieces') =
      ((F.read keep buf pieces).1 ++ (F.read keep (F.read keep buf pieces).2 pieces').1,
        (F.read keep (F.read keep buf pieces).2 pieces').2) := by
  induction pieces generalizing buf with
  | nil => rfl
  | cons piece pieces ih => simp only [List.cons_append, read, ih, List.append_assoc]

/-- **Where the stream was cut does not show**, if what is thrown away is inert. -/
theorem messages_read (keep : List α → List α)
    (hkeep : ∀ buf, F.next buf = none → keep buf = buf ∨ (keep buf = [] ∧ F.Inert buf))
    (pieces : List (List α)) (buf : List α) (hbuf : F.next buf = none) :
    (F.read keep buf pieces).1 = (F.scan (buf ++ pieces.flatten)).1 := by
  induction pieces generalizing buf with
  | nil => rw [read, List.flatten_nil, List.append_nil, F.scan_of_none hbuf]
  | cons piece pieces ih =>
    have hkept : (F.scan (keep buf ++ (piece ++ pieces.flatten))).1 =
        (F.scan (buf ++ (piece ++ pieces.flatten))).1 := by
      rcases hkeep buf hbuf with hsame | ⟨hnil, hinert⟩
      · rw [hsame]
      · rw [hnil, List.nil_append, hinert]
    rw [List.flatten_cons, ← hkept, ← List.append_assoc, F.scan_append]
    simp only [read]
    rw [ih _ (F.next_scan _)]

end Framer

end Framing
