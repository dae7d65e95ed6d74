import RbFeeder.Tracker.Lifetime
import RbFeeder.Lib.LinkedList

/-! The removal loop of `trackRemoveStaleAircraft`, on the linked list itself.

The loop goes from node to node with the last node that it kept, and writes the link of
that node, or the head of the list, to take a node out. What it leaves is the list of
the records that `trackRemoveStaleAircraft` leaves of the list of records. -/
namespace RbFeeder.Tracker
open Track (Millis)
open LinkedList

variable {κ : Type} [DecidableEq κ]

/-- The list from `Modes.aircrafts` on, in memory. -/
structure Nodes (κ : Type) where
  aircrafts : Option κ
  next : κ → Option κ
  record : κ → Aircraft

namespace Nodes

/-- `a` is removed; `prev` is the node before it, if it is not the first one. -/
def remove (s : Nodes κ) (prev : Option κ) (a : κ) : Nodes κ :=
  match prev with
  | none => { s with aircrafts := s.next a }
  | some p => { s with next := Function.update s.next p (s.next a) }

/-- The data of `a` expires. -/
def expire (s : Nodes κ) (now : Millis) (a : κ) : Nodes κ :=
  { s with record := Function.update s.record a ((s.record a).expire now) }

/-- The loop, for at most so many nodes. -/
def removeStale (now : Millis) : Nat → Option κ → Option κ → Nodes κ → Nodes κ
  | 0, _, _, s => s
  | _ + 1, _, none, s => s
  | n + 1, prev, some a, s =>
    if (s.record a).Stale now then removeStale now n prev (s.next a) (s.remove prev a)
    else removeStale now n (some a) (s.next a) (s.expire now a)

/-- The nodes of a list without the one that comes after those kept. -/
theorem remove_isList {s : Nodes κ} {kept rest : List κ} {a : κ}
    (h : IsList s.next s.aircrafts (kept ++ a :: rest)) (hnodup : (kept ++ a :: rest).Nodup) :
    IsList (s.remove kept.getLast? a).next (s.remove kept.getLast? a).aircrafts (kept ++ rest) := by
  induction kept using List.reverseRecOn with
  | nil => exact h.2
  | append_singleton kept p _ =>
    rw [List.append_assoc, List.singleton_append] at h hnodup ⊢
    rw [List.getLast?_concat]
    exact h.unlink hnodup

theorem remove_record (s : Nodes κ) (prev : Option κ) (a : κ) : (s.remove prev a).record = s.record := by
  cases prev <;> rfl

theorem expire_record_of_ne {s : Nodes κ} {now : Millis} {a k : κ} (h : k ≠ a) :
    (s.expire now a).record k = s.record k := Function.update_of_ne h ..

/-- The loop from some node on: the nodes kept so far stay, and of the others those stay
that are not stale. -/
theorem removeStale_from (now : Millis) {s : Nodes κ} (kept : List κ) {rest : List κ} {n : Nat}
    (h : IsList s.next s.aircrafts (kept ++ rest)) (hnodup : (kept ++ rest).Nodup)
    (hn : rest.length ≤ n) :
    ∃ left, left.Sublist rest ∧
      IsList (removeStale now n kept.getLast? rest.head? s).next
        (removeStale now n kept.getLast? rest.head? s).aircrafts (kept ++ left) ∧
      left.map (removeStale now n kept.getLast? rest.head? s).record =
        trackRemoveStaleAircraft now (rest.map s.record) ∧
      ∀ k, k ∉ rest → (removeStale now n kept.getLast? rest.head? s).record k = s.record k := by
  induction rest generalizing s kept n with
  | nil => cases n <;> exact ⟨[], List.Sublist.refl [], h, rfl, fun _ _ => rfl⟩
  | cons a rest ih =>
    obtain _ | n := n
    · exact absurd hn (by simp)
    have hnext : s.next a = rest.head? := h.next_eq
    have hn' : rest.length ≤ n := Nat.le_of_succ_le_succ hn
    rw [List.head?_cons, removeStale, hnext, List.map_cons, trackRemoveStaleAircraft]
    by_cases hstale : (s.record a).Stale now
    · rw [if_pos hstale, if_pos hstale]
      have hsub : (kept ++ rest).Nodup := hnodup.sublist ((List.sublist_cons_self a rest).append_left kept)
      obtain ⟨left, hleft, hlist, hrecords, hothers⟩ := ih _ (remove_isList h hnodup) hsub hn'
      rw [remove_record] at hrecords
      refine ⟨left, hleft.cons a, hlist, hrecords, fun k hk => ?_⟩
      rw [hothers k fun hmem => hk (List.mem_cons_of_mem a hmem), remove_record]
    · rw [if_neg hstale, if_neg hstale]
      have happend : kept ++ a :: rest = (kept ++ [a]) ++ rest := by simp
      have hlast : (kept ++ [a]).getLast? = some a := List.getLast?_concat
      have hnotin : a ∉ rest := (List.nodup_cons.mp (List.nodup_append.mp hnodup).2.1).1
      rw [happend] at h hnodup
      have hexpired : IsList (s.expire now a).next (s.expire now a).aircrafts ((kept ++ [a]) ++ rest) := h
      obtain ⟨left, hleft, hlist, hrecords, hothers⟩ := ih _ hexpired hnodup hn'
      rw [hlast] at hlist hrecords hothers
      have hsame : rest.map (s.expire now a).record = rest.map s.record :=
        List.map_congr_left fun k hk => expire_record_of_ne fun heq => hnotin (heq ▸ hk)
      refine ⟨a :: left, hleft.cons_cons a, by simpa using hlist, ?_, fun k hk => ?_⟩
      · rw [List.map_cons, hrecords, hsame, hothers a hnotin]
        exact congrArg (· :: _) (Function.update_self ..)
      · obtain ⟨hne, hk⟩ : k ≠ a ∧ k ∉ rest := by simpa using hk
        rw [hothers k hk, expire_record_of_ne hne]

/-- **The loop over the whole list.** -/
theorem removeStale_list (now : Millis) {s : Nodes κ} {nodes : List κ}
    (h : IsList s.next s.aircrafts nodes) (hnodup : nodes.Nodup) :
    ∃ left, left.Sublist nodes ∧
      IsList (removeStale now nodes.length none s.aircrafts s).next
        (removeStale now nodes.length none s.aircrafts s).aircrafts left ∧
      left.map (removeStale now nodes.length none s.aircrafts s).record =
        trackRemoveStaleAircraft now (nodes.map s.record) := by
  rw [h.head_eq]
  obtain ⟨left, hleft, hlist, hrecords, -⟩ := removeStale_from now [] h hnodup (le_refl _)
  exact ⟨left, hleft, hlist, hrecords⟩

end Nodes
end RbFeeder.Tracker
