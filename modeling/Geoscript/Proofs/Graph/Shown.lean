import Geoscript.Graph.Numbering
import Geoscript.Proofs.Graph.Meaning
import Mathlib.Logic.Relation

/-! A graph is shown from its results. The search goes from a list that is closed under references to another one
(`Visited`), so all that a result leads to is shown. -/

namespace Geoscript.Graph
open List Recording
variable {s : Recording} {items : Array Item} {seen seen' targets : List Nat} {fuel i j : Nat}

def Refers (items : Array Item) (i j : Nat) : Prop :=
  ∃ item, items[i]? = some item ∧ j ∈ item.node.references

def Closed (items : Array Item) (seen : List Nat) : Prop :=
  ∀ i ∈ seen, ∀ j, Refers items i j → j ∈ seen

/-- From one list of nodes to a later one, on which the targets have been met. -/
structure Visited (items : Array Item) (seen seen' targets : List Nat) : Prop where
  kept : ∀ i ∈ seen, i ∈ seen'
  met : ∀ i ∈ targets, i < items.size → i ∈ seen'
  closed : Closed items seen → Closed items seen'

theorem foldl_visited {f : List Nat → Nat → List Nat}
    (h : ∀ i ∈ targets, ∀ seen, Visited items seen (f seen i) [i]) :
    Visited items seen (targets.foldl f seen) targets := by
  induction targets generalizing seen with
  | nil => exact ⟨fun _ hi => hi, fun _ hi => absurd hi not_mem_nil, fun hc => hc⟩
  | cons i targets ih =>
    rw [forall_mem_cons] at h
    have hfirst := h.1 seen
    have hrest := @ih (f seen i) h.2
    refine ⟨fun k hk => hrest.kept k (hfirst.kept k hk), fun k hk hlt => ?_, fun hc => hrest.closed (hfirst.closed hc)⟩
    rcases mem_cons.mp hk with rfl | hk
    · exact hrest.kept k (hfirst.met k mem_cons_self hlt)
    · exact hrest.met k hk hlt

theorem visit_visited (hs : s.Ordered) (hfuel : i < fuel ∨ s.items.size ≤ i) :
    Visited s.items seen (visit s.items fuel seen i) [i] := by
  induction fuel generalizing seen i with
  | zero =>
    refine ⟨fun _ hk => hk, fun k hk hlt => ?_, fun hc => hc⟩
    obtain rfl := mem_singleton.mp hk
    omega
  | succ fuel ih =>
    rw [visit]
    split
    · next hseen =>
      refine ⟨fun _ hk => hk, fun k hk _ => ?_, fun hc => hc⟩
      obtain rfl := mem_singleton.mp hk
      exact contains_iff_mem.mp hseen
    · cases hitem : s.items[i]? with
      | none =>
        refine ⟨fun _ hk => hk, fun k hk hlt => ?_, fun hc => hc⟩
        obtain rfl := mem_singleton.mp hk
        exact absurd hlt (Nat.not_lt.mpr (Array.getElem?_eq_none_iff.mp hitem))
      | some item =>
        have hi := (Array.getElem?_eq_some_iff.mp hitem).1
        have hrefs : Visited s.items seen (item.node.references.foldl (visit s.items fuel) seen)
            item.node.references :=
          foldl_visited fun j hj _ => ih (.inl (by have := hs hitem j hj; omega))
        refine ⟨fun k hk => mem_cons_of_mem i (hrefs.kept k hk), fun k hk _ => ?_, fun hc k hk j hj => ?_⟩
        · obtain rfl := mem_singleton.mp hk
          exact mem_cons_self
        · rcases mem_cons.mp hk with rfl | hk
          · obtain ⟨item', hitem', hmem⟩ := hj
            obtain rfl := Option.some.inj (hitem.symm.trans hitem')
            exact mem_cons_of_mem k (hrefs.met j hmem (Nat.lt_trans (hs hitem j hmem) hi))
          · exact mem_cons_of_mem i (hrefs.closed hc k hk j hj)

theorem Closed.leads (h : Closed items seen) (hi : i ∈ seen) (hij : Relation.ReflTransGen (Refers items) i j) :
    j ∈ seen := by
  induction hij with
  | refl => exact hi
  | tail _ hstep ih => exact h _ ih _ hstep

theorem mem_reachable (hs : s.Ordered) {roots : List Value} (hi : i ∈ Value.referencesList roots)
    (hlt : i < s.items.size) (hij : Relation.ReflTransGen (Refers s.items) i j) :
    j ∈ reachable s.items roots := by
  have hvisited : Visited s.items [] ((Value.referencesList roots).foldl (visit s.items (s.items.size + 1)) [])
      (Value.referencesList roots) :=
    foldl_visited fun k _ _ => visit_visited hs (by omega)
  have hclosed := hvisited.closed fun _ hk => nomatch hk
  exact mem_reverse.mpr (hclosed.leads (hvisited.met i hi hlt) hij)

theorem mem_shown (hs : s.Ordered) {v : Value} {item : Item} (hi : i ∈ v.references) (hlt : i < s.items.size)
    (hij : Relation.ReflTransGen (Refers s.items) i j) (hj : s.items[j]? = some item) :
    ∃ number, item.node.renumber number ∈ (s.shown v).nodes := by
  have hroot : i ∈ Value.referencesList (v.canonical :: s.started) := by
    rw [Value.referencesList, mem_append, mem_references_canonical]
    exact .inl hi
  have hmem := mem_reachable hs hroot hlt hij
  exact ⟨_, mem_filterMap.mpr ⟨j, hmem, by rw [hj]; rfl⟩⟩

theorem exists_of_mem_shown {v : Value} {node : Node} (h : node ∈ (s.shown v).nodes) :
    ∃ item ∈ s.items, ∃ number, node = item.node.renumber number := by
  obtain ⟨i, -, hi⟩ := mem_filterMap.mp h
  obtain ⟨item, hitem, rfl⟩ := Option.map_eq_some_iff.mp hi
  exact ⟨item, Array.mem_of_getElem? hitem, _, rfl⟩

end Geoscript.Graph
