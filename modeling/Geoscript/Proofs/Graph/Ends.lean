import Geoscript.Proofs.Graph.Meaning

/-! Computations that do not fail: what holds of the answer and of the recording at the end (`Ends`). What is recorded
keeps its place (`Recording.Extends`). -/

namespace Geoscript.Graph
open List Build

/-- The second recording has every node of the first at its place. -/
def Recording.Extends (s s' : Recording) : Prop :=
  ∀ ⦃i : Nat⦄ ⦃item : Item⦄, s.items[i]? = some item → s'.items[i]? = some item

section
variable {α β : Type} {env : Surroundings} {s s' s'' : Recording} {b : Build α} {f : α → Build β}
  {Q : Recording → α → Prop} {R : Recording → β → Prop}

theorem Recording.Extends.refl (s : Recording) : s.Extends s := fun _ _ h => h

theorem Recording.Extends.trans (h : s.Extends s') (h' : s'.Extends s'') : s.Extends s'' := fun _ _ hi => h' (h hi)

/-- The computation gives an answer for which `Q` holds, with what is recorded then. -/
def Ends (env : Surroundings) (s : Recording) (b : Build α) (Q : Recording → α → Prop) : Prop :=
  ∃ a s', b.outcome env s = (.ok a, s') ∧ s.Extends s' ∧ Q s' a

theorem ends_pure {a : α} (h : Q s a) : Ends env s (pure a) Q :=
  ⟨a, s, rfl, .refl s, h⟩

theorem ends_lift {e : Except Failure α} {a : α} (he : e = .ok a) (h : Q s a) : Ends env s (lift e) Q :=
  ⟨a, s, by rw [he]; rfl, .refl s, h⟩

theorem Ends.bind (hb : Ends env s b Q) (hf : ∀ s' a, s.Extends s' → Q s' a → Ends env s' (f a) R) :
    Ends env s (b >>= f) R := by
  obtain ⟨a, s₁, ha, hs₁, hQ⟩ := hb
  obtain ⟨c, s₂, hc, hs₂, hR⟩ := hf s₁ a hs₁ hQ
  exact ⟨c, s₂, (outcome_bind_ok ha).trans hc, hs₁.trans hs₂, hR⟩

theorem Ends.imp {Q' : Recording → α → Prop} (hb : Ends env s b Q) (h : ∀ s' a, s.Extends s' → Q s' a → Q' s' a) :
    Ends env s b Q' := by
  obtain ⟨a, s', ha, hs', hQ⟩ := hb
  exact ⟨a, s', ha, hs', h s' a hs' hQ⟩

theorem ends_modify {g : Recording → Recording} (hg : (g s).items = s.items) :
    Ends env s (modify g) fun s' _ => s' = g s :=
  ⟨(), g s, rfl, fun _ _ hi => hg ▸ hi, rfl⟩

end

variable {env : Surroundings} {s : Recording} {i : Nat} {item : Item}

theorem ends_intern (item : Item) :
    Ends env s (intern item) fun s' v => ∃ j, v = .node j ∧ s'.items[j]? = some item := by
  cases hfind : s.items.findIdx? (· == item) with
  | some j =>
    obtain ⟨hj, heq, -⟩ := Array.findIdx?_eq_some_iff_getElem.mp hfind
    refine ⟨.node j, s, ?_, .refl s, j, rfl, by rw [Array.getElem?_eq_getElem hj, eq_of_beq heq]⟩
    rw [intern, outcome_get_bind, hfind]
    rfl
  | none =>
    refine ⟨.node s.items.size, { s with items := s.items.push item }, ?_, fun i old hi => ?_, _, rfl, by simp⟩
    · rw [intern, outcome_get_bind, hfind]
      rfl
    · have hlt := (Array.getElem?_eq_some_iff.mp hi).1
      show (s.items.push item)[i]? = some old
      rw [Array.getElem?_push_lt hlt, ← Array.getElem?_eq_getElem hlt, hi]

/-- A request to a recorded object is recorded with the values of the arguments. -/
theorem ends_call {args : List Term} {Q : Recording → List Value → Prop} (name : String)
    (hitem : s.items[i]? = some item) (hargs : Ends env s (evalAll args) Q) :
    Ends env s ((Term.ofValue (.node i)).call name args) fun s' v => ∃ s₁ vs j, s₁.Extends s' ∧ Q s₁ vs ∧ v = .node j ∧
      s'.items[j]? = some ⟨.method i name (Value.canonicalList vs) [], item.kind.afterMethod name⟩ := by
  refine hargs.bind fun s₁ vs hs₁ hQ => ?_
  obtain ⟨v, s', hv, hs', j, hj, hnew⟩ := @ends_intern env s₁
    ⟨.method i name (Value.canonicalList vs) [], item.kind.afterMethod name⟩
  refine ⟨v, s', ?_, hs', s₁, vs, j, hs', hQ, hj, hnew⟩
  have hnamed : (evalNamed []).outcome env s₁ = (.ok [], s₁) := rfl
  rw [outcome_bind_ok hnamed, outcome_get_bind, hs₁ hitem]
  exact hv

theorem outcome_values (vs : List Value) : (evalAll (vs.map Term.ofValue)).outcome env s = (.ok vs, s) := by
  induction vs with
  | nil => rfl
  | cons v vs ih =>
    have hv : (Term.ofValue v).outcome env s = (.ok v, s) := rfl
    rw [map_cons, evalAll, outcome_bind_ok hv, outcome_bind_ok ih, outcome_pure]

theorem ends_call_values (name : String) (vs : List Value) (hitem : s.items[i]? = some item) :
    Ends env s ((Term.ofValue (.node i)).call name (vs.map Term.ofValue)) fun s' v => ∃ j, v = .node j ∧
      s'.items[j]? = some ⟨.method i name (Value.canonicalList vs) [], item.kind.afterMethod name⟩ := by
  have hargs : Ends env s (evalAll (vs.map Term.ofValue)) fun _ us => us = vs :=
    ⟨vs, s, outcome_values vs, .refl s, rfl⟩
  refine (ends_call name hitem hargs).imp fun s' v _ h => ?_
  obtain ⟨-, us, j, -, rfl, hj, hnew⟩ := h
  exact ⟨j, hj, hnew⟩

/-- An object that is itself asked for first. -/
theorem Ends.call {t : Term} {args : List Term} {name : String} {Q R : Recording → Value → Prop} (ht : Ends env s t Q)
    (h : ∀ s' v, s.Extends s' → Q s' v → Ends env s' ((Term.ofValue v).call name args) R) :
    Ends env s (t.call name args) R :=
  (ht.bind h : Ends env s (t >>= fun v => (Term.ofValue v).call name args) R)

/-- Named terms give an entry each, with what is known of the term. -/
theorem ends_evalNamed {ι : Type} {l : List ι} {t : ι → Term} (Q : ι → Value → Prop) (key : ι → String)
    (ht : ∀ a ∈ l, ∀ s', s.Extends s' → Ends env s' (t a) fun _ => Q a) :
    Ends env s (evalNamed (l.map fun a => (key a, t a))) fun _ es =>
      es.map Prod.fst = l.map key ∧ ∀ e ∈ es, ∃ a ∈ l, key a = e.1 ∧ Q a e.2 := by
  induction l generalizing s with
  | nil => exact ends_pure ⟨rfl, fun e he => absurd he not_mem_nil⟩
  | cons a l ih =>
    rw [forall_mem_cons] at ht
    refine (ht.1 s (.refl s)).bind fun s₁ v hs₁ hv => ?_
    refine (ih fun a ha s' hs' => ht.2 a ha s' (hs₁.trans hs')).bind fun s₂ es _ hes => ends_pure ?_
    refine ⟨by rw [map_cons, map_cons, hes.1], forall_mem_cons.mpr ⟨⟨a, mem_cons_self, rfl, hv⟩, fun e he => ?_⟩⟩
    obtain ⟨b, hb, hkey, hQ⟩ := hes.2 e he
    exact ⟨b, mem_cons_of_mem a hb, hkey, hQ⟩

end Geoscript.Graph
