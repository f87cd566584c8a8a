import Mathlib
import CatalogSync.Engine.Permits

/-!
# Accounting for permits

Every ticket that is out waits in the queue or has a permit, and the permits that no ticket has are free; none is free while a ticket
waits (`Permits.Balanced`). Asking for a permit and giving one back keep this up.
-/

namespace CatalogSync.Engine.Permits

/-- How a number of permits is accounted for, given the tickets that are out. -/
structure Balanced (p : Permits) (n : Nat) (tickets : List Nat) : Prop where
  /-- Each ticket waits or has a permit, and the other permits are free. -/
  holders : ∃ holders, tickets.Perm (p.queue ++ holders) ∧ p.free + holders.length = n
  nodup : tickets.Nodup
  old : ∀ ticket ∈ tickets, ticket < p.next
  /-- No permit is free while a ticket waits. -/
  greedy : p.queue = [] ∨ p.free = 0

variable {p : Permits} {n : Nat} {tickets : List Nat}

theorem balanced_ofNat (n : Nat) : (ofNat n).Balanced n [] := ⟨⟨[], .nil, rfl⟩, .nil, by simp, Or.inl rfl⟩

theorem Balanced.perm (h : p.Balanced n tickets) {tickets' : List Nat} (hp : tickets.Perm tickets') : p.Balanced n tickets' := by
  obtain ⟨holders, hperm, hn⟩ := h.holders
  exact ⟨⟨holders, hp.symm.trans hperm, hn⟩, hp.nodup_iff.1 h.nodup, fun ticket ht => h.old ticket (hp.mem_iff.2 ht), h.greedy⟩

/-- A new ticket gets a free permit, or waits behind the others. -/
theorem Balanced.ask (h : p.Balanced n tickets) : p.ask.2.Balanced n (p.ask.1 :: tickets) := by
  obtain ⟨holders, hperm, hn⟩ := h.holders
  have hnext : p.ask.1 = p.next ∧ p.ask.2.next = p.next + 1 := by
    unfold Permits.ask
    split <;> exact ⟨rfl, rfl⟩
  refine ⟨?_, ?_, ?_, ?_⟩
  · rw [hnext.1]
    unfold Permits.ask
    split
    · refine ⟨holders, ?_, hn⟩
      rw [List.append_assoc]
      exact (hperm.cons p.next).trans List.perm_middle.symm
    · refine ⟨p.next :: holders, ?_, ?_⟩
      · exact (hperm.cons p.next).trans List.perm_middle.symm
      · simp only [List.length_cons]
        omega
  · rw [hnext.1]
    exact List.nodup_cons.2 ⟨fun ht => Nat.lt_irrefl _ (h.old _ ht), h.nodup⟩
  · rw [hnext.1, hnext.2]
    intro ticket ht
    rcases List.mem_cons.1 ht with rfl | ht
    · exact Nat.lt_succ_self _
    · exact Nat.lt_succ_of_lt (h.old ticket ht)
  · unfold Permits.ask
    split
    · rename_i hfree
      exact Or.inr hfree
    · rename_i hfree
      exact Or.inl (h.greedy.resolve_right hfree)

/-- A permit that is given back goes to the ticket that has waited longest, or is free again. -/
theorem Balanced.release {ticket : Nat} (h : p.Balanced n (ticket :: tickets)) (hq : ticket ∉ p.queue) :
    p.release.Balanced n tickets := by
  obtain ⟨holders, hperm, hn⟩ := h.holders
  obtain ⟨hnot, hnodup⟩ := List.nodup_cons.1 h.nodup
  have hold : ∀ t ∈ tickets, t < p.next := fun t ht => h.old t (List.mem_cons_of_mem _ ht)
  -- the ticket is one of those that have a permit
  have hmem : ticket ∈ holders := (List.mem_append.1 (hperm.subset List.mem_cons_self)).resolve_left hq
  obtain ⟨before, after, rfl⟩ := List.append_of_mem hmem
  have hrest : tickets.Perm (p.queue ++ (before ++ after)) := by
    refine List.Perm.cons_inv (hperm.trans ?_)
    rw [← List.append_assoc, ← List.append_assoc]
    exact List.perm_middle
  have hlength : p.free + (before ++ after).length + 1 = n := by
    rw [← hn]
    simp only [List.length_append, List.length_cons]
    omega
  unfold Permits.release
  split
  · rename_i hempty
    rw [hempty] at hrest
    refine ⟨⟨before ++ after, ?_, ?_⟩, hnodup, hold, Or.inl hempty⟩
    · rw [hempty]
      exact hrest
    · show p.free + 1 + (before ++ after).length = n
      omega
  · rename_i first rest hqueue
    rw [hqueue] at hrest
    have hfree : p.free = 0 := h.greedy.resolve_left (by rw [hqueue]; exact List.cons_ne_nil _ _)
    refine ⟨⟨first :: (before ++ after), hrest.trans List.perm_middle.symm, ?_⟩, hnodup, hold, Or.inr hfree⟩
    simp only [List.length_cons]
    omega

/-- A ticket that has its permit keeps it when others ask for theirs. -/
theorem Balanced.not_mem_ask (h : p.Balanced n tickets) {ticket : Nat} (ht : ticket ∈ tickets) (hq : ticket ∉ p.queue) :
    ticket ∉ p.ask.2.queue := by
  unfold Permits.ask
  split
  · intro hm
    rcases List.mem_append.1 hm with hm | hm
    · exact hq hm
    · exact Nat.ne_of_lt (h.old ticket ht) (List.mem_singleton.1 hm)
  · exact hq

/-- So it does when permits are given back. -/
theorem not_mem_release {ticket : Nat} (hq : ticket ∉ p.queue) : ticket ∉ p.release.queue := by
  unfold Permits.release
  split
  · exact hq
  · rename_i first rest hqueue
    rw [hqueue] at hq
    exact fun hm => hq (List.mem_cons_of_mem _ hm)

/-- Each permit is free or granted to a ticket. -/
theorem Balanced.free_add_countP (h : p.Balanced n tickets) : p.free + tickets.countP p.granted = n := by
  obtain ⟨holders, hperm, hn⟩ := h.holders
  have hdisjoint := (List.nodup_append.1 (hperm.nodup_iff.1 h.nodup)).2.2
  have hqueue : p.queue.countP p.granted = 0 := List.countP_eq_zero.2 fun ticket ht => by simp [granted, ht]
  have hholders : holders.countP p.granted = holders.length := by
    refine List.countP_eq_length.2 fun ticket ht => ?_
    have hnot : ticket ∉ p.queue := fun hq => hdisjoint ticket hq ticket ht rfl
    simp [granted, hnot]
  rw [hperm.countP_eq, List.countP_append, hqueue, hholders, Nat.zero_add, hn]

/-- Where no ticket is out, every permit is free. -/
theorem Balanced.of_nil (h : p.Balanced n []) : p.free = n ∧ p.queue = [] := by
  obtain ⟨holders, hperm, hn⟩ := h.holders
  obtain ⟨hqueue, rfl⟩ := List.append_eq_nil_iff.1 hperm.symm.eq_nil
  exact ⟨hn, hqueue⟩

end CatalogSync.Engine.Permits
