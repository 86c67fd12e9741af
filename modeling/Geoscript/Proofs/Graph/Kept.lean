import Geoscript.Proofs.Graph.Meaning

/-! A computation keeps a property of the recorded nodes if every node that it adds has it, whether the computation
ends or stops (`Keeps`). -/

namespace Geoscript.Graph
open Build
variable {α β : Type} {P : Node → Prop} {b : Build α} {t : Term}

/-- All recorded nodes have the property when the computation ends or stops, if they had it before. -/
def Keeps (P : Node → Prop) (b : Build α) : Prop :=
  ∀ env s, (∀ item ∈ s.items, P item.node) → ∀ item ∈ (b.outcome env s).2.items, P item.node

theorem keeps_pure (a : α) : Keeps P (pure a : Build α) :=
  fun _ _ hs => hs

theorem keeps_fail (e : Failure) : Keeps P (fail e : Build α) :=
  fun _ _ hs => hs

theorem keeps_value (v : Value) : Keeps P (Term.ofValue v) :=
  keeps_pure v

theorem Keeps.bind {f : α → Build β} (hb : Keeps P b) (hf : ∀ a, Keeps P (f a)) : Keeps P (b >>= f) := by
  intro env s hs
  have hafter := hb env s hs
  rcases hrun : b.outcome env s with ⟨r, s'⟩
  rw [hrun] at hafter
  cases r with
  | ok a =>
    rw [outcome_bind_ok hrun]
    exact hf a env s' hafter
  | error e =>
    rw [outcome_bind_error hrun]
    exact hafter

theorem keeps_get_bind {g : Recording → Build β} (hg : ∀ s, Keeps P (g s)) : Keeps P (get >>= g) :=
  fun env s hs => hg s env s hs

theorem keeps_intern {item : Item} (h : P item.node) : Keeps P (intern item) := by
  intro env s hs
  rw [intern, outcome_get_bind]
  cases s.items.findIdx? (· == item) with
  | some i => exact hs
  | none =>
    intro new hnew
    rcases Array.mem_push.mp hnew with hold | rfl
    · exact hs new hold
    · exact h

theorem keeps_evalAll {ts : List Term} (h : ∀ t ∈ ts, Keeps P t) : Keeps P (evalAll ts) := by
  induction ts with
  | nil => exact keeps_pure []
  | cons t ts ih =>
    rw [List.forall_mem_cons] at h
    exact h.1.bind fun _ => (ih h.2).bind fun _ => keeps_pure _

theorem keeps_evalNamed {named : List (String × Term)} (h : ∀ e ∈ named, Keeps P e.2) : Keeps P (evalNamed named) := by
  induction named with
  | nil => exact keeps_pure []
  | cons e named ih =>
    rw [List.forall_mem_cons] at h
    exact h.1.bind fun _ => (ih h.2).bind fun _ => keeps_pure _

theorem keeps_callWith {name : String} {args : List Term} {named : List (String × Term)}
    (hP : ∀ i vs es, P (.method i name vs es)) (ht : Keeps P t) (hargs : ∀ a ∈ args, Keeps P a)
    (hnamed : ∀ e ∈ named, Keeps P e.2) : Keeps P (t.callWith name args named) := by
  refine ht.bind fun v => ?_
  cases v with
  | node i =>
    refine (keeps_evalAll hargs).bind fun vs => (keeps_evalNamed hnamed).bind fun es => ?_
    exact keeps_get_bind fun _ => keeps_intern (hP i _ _)
  | _ => exact keeps_fail _

theorem keeps_server {function : String} {args : List Term} (hP : ∀ vs es, P (.call ("ee." ++ function) vs es))
    (hargs : ∀ a ∈ args, Keeps P a) : Keeps P (server function args) :=
  (keeps_evalAll hargs).bind fun _ =>
    (keeps_evalNamed fun _ he => absurd he List.not_mem_nil).bind fun _ => keeps_intern (hP _ _)

theorem Keeps.share {k : Term → Build α} (ht : Keeps P t) (hk : ∀ x, Keeps P x → Keeps P (k x)) :
    Keeps P (t.share >>= k) := by
  intro env s hs
  have hafter := ht env s hs
  rcases hrun : t.outcome env s with ⟨r, s'⟩
  rw [hrun] at hafter
  cases r with
  | ok v =>
    rw [outcome_bind_ok (outcome_share_ok hrun)]
    exact hk _ (keeps_value v) env s' hafter
  | error e =>
    rw [outcome_bind_error (outcome_share_error hrun)]
    exact hafter

end Geoscript.Graph
