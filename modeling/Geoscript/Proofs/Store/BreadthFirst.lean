import Mathlib.Logic.Relation
import Geoscript.Proofs.Text.Replace

/-! Breadth-first orders: a start and all that can be reached from it, each once and in the order in which they are
first met while the list itself is gone through. -/

namespace Geoscript.Store
open List
variable {α : Type} [BEq α] [LawfulBEq α]

/-- The order of a breadth-first walk from `x`: the start and the successors of everything listed, each
where it is met first, and all but the start met before their turn. -/
structure BreadthFirst (next : α → List α) (x : α) (order : List α) : Prop where
  met : order = (x :: order.flatMap next).eraseDups
  found : ∀ before m rest, order = before ++ m :: rest → m = x ∨ ∃ p ∈ before, m ∈ next p

namespace BreadthFirst
variable {next : α → List α} {x : α} {order : List α}

theorem nodup (h : BreadthFirst next x order) : order.Nodup := by
  rw [h.met]
  exact Text.nodup_eraseDups _

theorem mem_of_next (h : BreadthFirst next x order) {p m : α} (hp : p ∈ order) (hm : m ∈ next p) : m ∈ order := by
  rw [h.met, mem_eraseDups]
  exact mem_cons_of_mem _ (mem_flatMap.mpr ⟨p, hp, hm⟩)

theorem start_mem (h : BreadthFirst next x order) : x ∈ order := by
  rw [h.met, mem_eraseDups]
  exact mem_cons_self

theorem mem_iff (h : BreadthFirst next x order) {m : α} :
    m ∈ order ↔ Relation.ReflTransGen (fun p q => q ∈ next p) x m := by
  constructor
  · -- Each element is found from one listed before it: induction on what stands before it.
    suffices reached : ∀ (before : List α) (m : α) (rest : List α), order = before ++ m :: rest →
        Relation.ReflTransGen (fun p q => q ∈ next p) x m by
      intro hm
      obtain ⟨before, rest, ho⟩ := append_of_mem hm
      exact reached before m rest ho
    intro before
    induction hn : before.length using Nat.strongRecOn generalizing before with
    | ind n ih =>
      intro m rest ho
      rcases h.found before m rest ho with rfl | ⟨p, hp, hm⟩
      · exact .refl
      · obtain ⟨front, back, rfl⟩ := append_of_mem hp
        refine .tail (ih front.length ?_ front rfl p (back ++ m :: rest) ?_) hm
        · rw [← hn, length_append, length_cons]
          omega
        · rw [ho, append_assoc, cons_append]
  · intro hr
    induction hr with
    | refl => exact h.start_mem
    | tail _ hq ih => exact h.mem_of_next ih hq

end BreadthFirst

end Geoscript.Store
