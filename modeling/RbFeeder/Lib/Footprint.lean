import Mathlib

/-! Blocks with footprints.

A program runs blocks one after the other. Each has a footprint, the locations that it may
change; it leaves the others alone (`Local`). If the footprints of all blocks are disjoint,
then a location belongs to one block: what is found there in the end is what this block
makes of what was found there at first (`runAll_turn`). A flag that blocks can only raise is
up in the end if one of them raised it (`runAll_flag`). -/
namespace RbFeeder.Footprint

variable {B S L : Type} {V : L → Type}

/-- The blocks leave what is outside their footprints alone. -/
def Local (run : B → S → S) (look : S → (l : L) → V l) (touches : B → List L) : Prop :=
  ∀ b s l, l ∉ touches b → look (run b s) l = look s l

/-- The blocks, one after the other. -/
def runAll (run : B → S → S) (blocks : List B) (s : S) : S := blocks.foldl (fun s b => run b s) s

variable {run : B → S → S} {look : S → (l : L) → V l} {touches : B → List L}

theorem runAll_append (before after : List B) (s : S) :
    runAll run (before ++ after) s = runAll run after (runAll run before s) := List.foldl_append

theorem runAll_look (h : Local run look touches) {blocks : List B} {l : L} (hl : ∀ b ∈ blocks, l ∉ touches b)
    (s : S) : look (runAll run blocks s) l = look s l := by
  induction blocks generalizing s with
  | nil => rfl
  | cons b blocks ih =>
    have hrest : ∀ c ∈ blocks, l ∉ touches c := fun c hc => hl c (List.mem_cons_of_mem b hc)
    exact (ih hrest (run b s)).trans (h b s l (hl b List.mem_cons_self))

/-- What is found in the footprint of a block, before its turn and in the end. -/
theorem runAll_turn (h : Local run look touches) {blocks before after : List B} {b : B}
    (hdisjoint : blocks.Pairwise fun b c => ∀ l ∈ touches b, l ∉ touches c)
    (hblocks : blocks = before ++ b :: after) (s : S) {l : L} (hl : l ∈ touches b) :
    look (runAll run before s) l = look s l ∧
      look (runAll run blocks s) l = look (run b (runAll run before s)) l := by
  subst hblocks
  obtain ⟨-, hafter, hbefore⟩ := List.pairwise_append.mp hdisjoint
  have hmiss : ∀ c ∈ before, l ∉ touches c := fun c hc hlc => hbefore c hc b List.mem_cons_self l hlc hl
  have hmiss' : ∀ c ∈ after, l ∉ touches c := fun c hc => (List.pairwise_cons.mp hafter).1 c hc l hl
  refine ⟨runAll_look h hmiss s, ?_⟩
  rw [runAll_append]
  exact runAll_look h hmiss' (run b (runAll run before s))

/-- **A flag.** Each block raises it under a condition of its own, and none lowers it. -/
theorem runAll_flag (flag : S → Prop) (raises : B → Prop) {blocks : List B} {s : S}
    (h : ∀ before b after, blocks = before ++ b :: after →
      (flag (run b (runAll run before s)) ↔ flag (runAll run before s) ∨ raises b)) :
    flag (runAll run blocks s) ↔ flag s ∨ ∃ b ∈ blocks, raises b := by
  induction blocks using List.reverseRecOn with
  | nil => simp [runAll]
  | append_singleton blocks b ih =>
    have hstep := h blocks b [] rfl
    have hrest := ih fun before c after hblocks => h before c (after ++ [b]) (by rw [hblocks]; simp)
    rw [runAll_append]
    refine hstep.trans ?_
    rw [hrest]
    simp only [List.mem_append, List.mem_singleton, or_and_right, exists_or, exists_eq_left, or_assoc]

end RbFeeder.Footprint
