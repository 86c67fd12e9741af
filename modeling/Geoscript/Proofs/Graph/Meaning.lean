import Geoscript.Graph.Recording
import Mathlib.Data.List.Forall2

/-! What a recorded graph means. A recording only grows, and its nodes refer to earlier ones (`Recording.Grows`), so a
way to read single requests (`Reading`) gives every node a meaning that no later node changes. `Reading.Gives` follows
a term through what its parts mean. -/

namespace Geoscript.Graph
open List

/-! ### Outcomes -/

namespace Build
variable {α β : Type} {b : Build α} {f : α → Build β} {env : Surroundings} {s s' : Recording}

/-- What a computation gives, and what is recorded then. -/
def outcome (b : Build α) (env : Surroundings) (s : Recording) : Except Failure α × Recording :=
  b env s

theorem outcome_pure (a : α) : (pure a : Build α).outcome env s = (.ok a, s) := rfl

theorem outcome_fail (e : Failure) : (fail e : Build α).outcome env s = (.error e, s) := rfl

theorem outcome_get_bind (g : Recording → Build α) : (get >>= g).outcome env s = (g s).outcome env s := rfl

theorem outcome_bind_ok {a : α} (h : b.outcome env s = (.ok a, s')) :
    (b >>= f).outcome env s = (f a).outcome env s' := by
  have h' : b env s = (.ok a, s') := h
  show (ExceptT.bind (b env) fun a => f a env) s = f a env s'
  simp only [ExceptT.bind, ExceptT.mk, bind, StateT.bind, h']
  rfl

theorem outcome_bind_error {e : Failure} (h : b.outcome env s = (.error e, s')) :
    (b >>= f).outcome env s = (.error e, s') := by
  have h' : b env s = (.error e, s') := h
  show (ExceptT.bind (b env) fun a => f a env) s = (.error e, s')
  simp only [ExceptT.bind, ExceptT.mk, bind, StateT.bind, h']
  rfl

theorem outcome_share_ok {t : Term} {v : Value} (h : t.outcome env s = (.ok v, s')) :
    t.share.outcome env s = (.ok (Term.ofValue v), s') := by
  rw [Term.share, outcome_bind_ok h, outcome_pure]

theorem outcome_share_error {t : Term} {e : Failure} (h : t.outcome env s = (.error e, s')) :
    t.share.outcome env s = (.error e, s') := by
  rw [Term.share, outcome_bind_error h]

end Build

/-! ### References -/

theorem mem_referencesList {v : Value} {vs : List Value} (hv : v ∈ vs) {j : Nat} (hj : j ∈ v.references) :
    j ∈ Value.referencesList vs := by
  induction vs with
  | nil => cases hv
  | cons w vs ih =>
    rw [Value.referencesList, mem_append]
    rcases mem_cons.mp hv with rfl | hv
    · exact .inl hj
    · exact .inr (ih hv)

theorem mem_referencesEntries_insertSorted {k : String} {v : Value} {es : Entries} {j : Nat} :
    j ∈ Value.referencesEntries (Value.insertSorted k v es) ↔ j ∈ v.references ∨ j ∈ Value.referencesEntries es := by
  induction es with
  | nil => simp [Value.insertSorted, Value.referencesEntries]
  | cons e es ih =>
    obtain ⟨l, w⟩ := e
    rw [Value.insertSorted]
    split
    · simp only [Value.referencesEntries, mem_append, ih]
      exact or_left_comm
    · simp [Value.referencesEntries]

mutual

theorem mem_references_canonical {j : Nat} : ∀ v : Value, j ∈ v.canonical.references ↔ j ∈ v.references
  | .null => .rfl
  | .bool _ => .rfl
  | .int _ => .rfl
  | .float _ => .rfl
  | .str _ => .rfl
  | .node _ => .rfl
  | .list items => mem_referencesList_canonical items
  | .dict entries => mem_referencesEntries_canonical entries

theorem mem_referencesList_canonical {j : Nat} :
    ∀ vs : List Value, j ∈ Value.referencesList (Value.canonicalList vs) ↔ j ∈ Value.referencesList vs
  | [] => .rfl
  | v :: vs => by
    simp only [Value.canonicalList, Value.referencesList, mem_append, mem_references_canonical v,
      mem_referencesList_canonical vs]

theorem mem_referencesEntries_canonical {j : Nat} :
    ∀ es : Entries, j ∈ Value.referencesEntries (Value.canonicalEntries es) ↔ j ∈ Value.referencesEntries es
  | [] => .rfl
  | (k, v) :: rest => by
    simp only [Value.canonicalEntries, Value.referencesEntries, mem_referencesEntries_insertSorted, mem_append,
      mem_references_canonical v, mem_referencesEntries_canonical rest]

end

/-! ### Growing recordings -/

namespace Recording
variable {s s' s'' : Recording}

def Ordered (s : Recording) : Prop :=
  ∀ ⦃i : Nat⦄ ⦃item : Item⦄, s.items[i]? = some item → ∀ j ∈ item.node.references, j < i

/-- The second recording is ordered and has all nodes of the first, in their places. -/
structure Grows (s s' : Recording) : Prop where
  kept : ∀ ⦃i : Nat⦄ ⦃item : Item⦄, s.items[i]? = some item → s'.items[i]? = some item
  ordered : s'.Ordered

theorem Grows.refl (h : s.Ordered) : s.Grows s :=
  ⟨fun _ _ hi => hi, h⟩

theorem Grows.trans (h : s.Grows s') (h' : s'.Grows s'') : s.Grows s'' :=
  ⟨fun _ _ hi => h'.kept (h.kept hi), h'.ordered⟩

theorem Grows.lt (h : s.Grows s') {i : Nat} (hi : i < s.items.size) : i < s'.items.size :=
  (Array.getElem?_eq_some_iff.mp (h.kept (Array.getElem?_eq_getElem hi))).1

theorem Grows.push (h : s.Ordered) {item : Item} (hitem : ∀ j ∈ item.node.references, j < s.items.size) :
    s.Grows { s with items := s.items.push item } where
  kept i old hi := by
    have hlt := (Array.getElem?_eq_some_iff.mp hi).1
    show (s.items.push item)[i]? = some old
    rw [Array.getElem?_push_lt hlt, ← Array.getElem?_eq_getElem hlt]
    exact hi
  ordered i new hi := by
    have hi : (s.items.push item)[i]? = some new := hi
    rw [Array.getElem?_push] at hi
    split at hi
    · next heq =>
      cases hi
      exact heq ▸ hitem
    · exact h hi

end Recording

open Build Recording
variable {M : Type} {env : Surroundings} {s s' s₁ : Recording}

theorem outcome_intern (env : Surroundings) {item : Item} (hs : s.Ordered)
    (hitem : ∀ j ∈ item.node.references, j < s.items.size) :
    ∃ i s', (intern item).outcome env s = (.ok (.node i), s') ∧ s.Grows s' ∧ s'.items[i]? = some item := by
  rw [intern, outcome_get_bind]
  cases hfind : s.items.findIdx? (· == item) with
  | some i =>
    obtain ⟨hi, heq, -⟩ := Array.findIdx?_eq_some_iff_getElem.mp hfind
    refine ⟨i, s, rfl, .refl hs, ?_⟩
    rw [Array.getElem?_eq_getElem hi, eq_of_beq heq]
  | none =>
    exact ⟨s.items.size, { s with items := s.items.push item }, rfl, .push hs hitem, by simp⟩

/-! ### Readings -/

/-- An argument of a request: what an object means, or plain data. -/
inductive Operand (M : Type) where
  | object (m : M)
  | plain (v : Value)

/-- A request with what its objects mean in place of their numbers. Named arguments are passed on as they are
written. -/
inductive Request (M : Type) where
  | input (kind : Kind) (name : String)
  | call (function : String) (args : List (Operand M)) (named : Entries)
  | method (object : M) (name : String) (args : List (Operand M)) (named : Entries)
  | function (depth arity : Nat) (body : Operand M)
  | parameter (depth index : Nat)

/-- A way to read requests, with a meaning for what is not in the graph. -/
structure Reading (M : Type) where
  unknown : M
  of : Request M → M

def Operand.of (known : Nat → M) : Value → Operand M
  | .node i => .object (known i)
  | v => .plain v

def Request.of (known : Nat → M) : Node → Request M
  | .input kind name => .input kind name
  | .call fn args named => .call fn (args.map (Operand.of known)) named
  | .method object name args named => .method (known object) name (args.map (Operand.of known)) named
  | .function depth arity body => .function depth arity (Operand.of known body)
  | .parameter depth index => .parameter depth index

theorem Operand.of_congr {f g : Nat → M} {v : Value} (h : ∀ j ∈ v.references, f j = g j) :
    Operand.of f v = Operand.of g v := by
  cases v with
  | node i => exact congrArg Operand.object (h i (by simp [Value.references]))
  | _ => rfl

theorem Operand.map_of_congr {f g : Nat → M} {vs : List Value} (h : ∀ j ∈ Value.referencesList vs, f j = g j) :
    vs.map (Operand.of f) = vs.map (Operand.of g) :=
  map_congr_left fun _ hv => Operand.of_congr fun j hj => h j (mem_referencesList hv hj)

theorem Request.of_congr {f g : Nat → M} {node : Node} (h : ∀ j ∈ node.references, f j = g j) :
    Request.of f node = Request.of g node := by
  cases node with
  | input kind name => rfl
  | call fn args named =>
    simp only [Request.of, Operand.map_of_congr fun j hj => h j (mem_append_left _ hj)]
  | method object name args named =>
    have hargs := Operand.map_of_congr fun j hj =>
      h j (mem_cons_of_mem object (mem_append_left (Value.referencesEntries named) hj))
    simp only [Request.of, hargs, h object mem_cons_self]
  | function depth arity body => simp only [Request.of, Operand.of_congr h]
  | parameter depth index => rfl

namespace Reading
variable {R : Reading M} {m : M} {o : Operand M} {v : Value} {t : Term}

def meaning (R : Reading M) (items : Array Item) (i : Nat) : M :=
  match items[i]? with
  | none => R.unknown
  | some item => R.of (Request.of (fun j => if j < i then R.meaning items j else R.unknown) item.node)
termination_by i

theorem meaning_eq (hs : s.Ordered) {i : Nat} {item : Item} (hi : s.items[i]? = some item) :
    R.meaning s.items i = R.of (Request.of (R.meaning s.items) item.node) := by
  rw [meaning, hi]
  exact congrArg R.of (Request.of_congr fun j hj => if_pos (hs hi j hj))

theorem meaning_grows (h : s.Grows s') {i : Nat} (hi : i < s.items.size) :
    R.meaning s'.items i = R.meaning s.items i := by
  -- Strong induction: a node keeps its request, and so do the earlier ones.
  induction i using Nat.strongRecOn with
  | ind i ih =>
    have hitem := Array.getElem?_eq_getElem hi
    rw [meaning, meaning, h.kept hitem, hitem]
    refine congrArg (fun known => R.of (Request.of known s.items[i].node)) (funext fun j => ?_)
    split
    · next hj => exact ih j hj (Nat.lt_trans hj hi)
    · rfl

/-- A value stands for an object or for plain data. -/
structure Stands (R : Reading M) (s : Recording) (v : Value) (o : Operand M) : Prop where
  means : Operand.of (R.meaning s.items) v = o
  canonical : v.canonical = v
  known : ∀ j ∈ v.references, j < s.items.size

theorem Stands.grows (h : R.Stands s v o) (hs : s.Grows s') : R.Stands s' v o where
  means := h.means ▸ Operand.of_congr fun j hj => meaning_grows hs (h.known j hj)
  canonical := h.canonical
  known j hj := hs.lt (h.known j hj)

theorem Stands.eq_node (h : R.Stands s v (.object m)) :
    ∃ i, v = .node i ∧ i < s.items.size ∧ R.meaning s.items i = m := by
  obtain ⟨hmeans, -, hknown⟩ := h
  cases v with
  | node i => exact ⟨i, rfl, hknown i (by simp [Value.references]), Operand.object.inj hmeans⟩
  | _ => cases hmeans

theorem stands_node {i : Nat} (hi : i < s.items.size) : R.Stands s (.node i) (.object (R.meaning s.items i)) :=
  ⟨rfl, rfl, fun j hj => by
    obtain rfl : j = i := by simpa [Value.references] using hj
    exact hi⟩

theorem map_of_stands {vs : List Value} {os : List (Operand M)} (h : Forall₂ (R.Stands s) vs os) :
    vs.map (Operand.of (R.meaning s.items)) = os ∧ Value.canonicalList vs = vs ∧
      ∀ j ∈ Value.referencesList vs, j < s.items.size := by
  induction h with
  | nil => exact ⟨rfl, rfl, fun j hj => nomatch hj⟩
  | @cons v o vs os hv hvs ih =>
    refine ⟨by rw [map_cons, hv.means, ih.1], by rw [Value.canonicalList, hv.canonical, ih.2.1], ?_⟩
    intro j hj
    rw [Value.referencesList, mem_append] at hj
    exact hj.elim (hv.known j) (ih.2.2 j)

/-! ### What terms give -/

/-- A term evaluates to a value that stands for an operand, whatever has been recorded since `s`. -/
def Gives (R : Reading M) (s : Recording) (t : Term) (o : Operand M) : Prop :=
  ∀ (env : Surroundings) ⦃s₁ : Recording⦄, s.Grows s₁ →
    ∃ v s₂, t.outcome env s₁ = (.ok v, s₂) ∧ s₁.Grows s₂ ∧ R.Stands s₂ v o

def GivesNamed (s : Recording) (named : List (String × Term)) (P : Entries → Prop) : Prop :=
  ∀ (env : Surroundings) ⦃s₁ : Recording⦄, s.Grows s₁ →
    ∃ es s₂, (evalNamed named).outcome env s₁ = (.ok es, s₂) ∧ s₁.Grows s₂ ∧ P es ∧
      ∀ j ∈ Value.referencesEntries es, j < s₂.items.size

def Fails (s : Recording) (t : Term) (e : Failure) : Prop :=
  ∀ (env : Surroundings) ⦃s₁ : Recording⦄, s.Grows s₁ → ∃ s₂, t.outcome env s₁ = (.error e, s₂)

theorem Gives.grows (h : R.Gives s t o) (hs : s.Grows s') : R.Gives s' t o :=
  fun env _ hs₁ => h env (hs.trans hs₁)

theorem gives_value (h : R.Stands s v o) : R.Gives s (Term.ofValue v) o :=
  fun _ s₁ hs₁ => ⟨v, s₁, rfl, .refl hs₁.ordered, h.grows hs₁⟩

theorem gives_int (i : Int) : R.Gives s (Term.int i) (.plain (.int i)) :=
  gives_value ⟨rfl, rfl, fun _ hj => nomatch hj⟩

theorem gives_str (text : String) : R.Gives s (Term.ofValue (.str text)) (.plain (.str text)) :=
  gives_value ⟨rfl, rfl, fun _ hj => nomatch hj⟩

theorem outcome_evalAll (env : Surroundings) {ts : List Term} {os : List (Operand M)}
    (h : Forall₂ (R.Gives s) ts os) (hs : s.Grows s₁) :
    ∃ vs s₂, (evalAll ts).outcome env s₁ = (.ok vs, s₂) ∧ s₁.Grows s₂ ∧ Forall₂ (R.Stands s₂) vs os := by
  induction h generalizing s₁ with
  | nil => exact ⟨[], s₁, rfl, .refl hs.ordered, .nil⟩
  | @cons t o ts os ht _ ih =>
    obtain ⟨v, s₂, hv, hs₂, hstands⟩ := ht env hs
    obtain ⟨vs, s₃, hvs, hs₃, hall⟩ := ih (hs.trans hs₂)
    refine ⟨v :: vs, s₃, ?_, hs₂.trans hs₃, .cons (hstands.grows hs₃) hall⟩
    rw [evalAll, outcome_bind_ok hv, outcome_bind_ok hvs, outcome_pure]

theorem givesNamed_nil : GivesNamed s [] (· = []) :=
  fun _ s₁ hs₁ => ⟨[], s₁, rfl, .refl hs₁.ordered, rfl, fun _ hj => nomatch hj⟩

theorem givesNamed_cons {k : String} {named : List (String × Term)} {P : Entries → Prop} (h : R.Gives s t o)
    (hnamed : GivesNamed s named P) :
    GivesNamed s ((k, t) :: named) fun es => ∃ v rest, es = (k, v) :: rest ∧ P rest := by
  intro env s₁ hs₁
  obtain ⟨v, s₂, hv, hs₂, hstands⟩ := h env hs₁
  obtain ⟨es, s₃, hes, hs₃, hP, hknown⟩ := hnamed env (hs₁.trans hs₂)
  refine ⟨(k, v) :: es, s₃, ?_, hs₂.trans hs₃, ⟨v, es, rfl, hP⟩, fun j hj => ?_⟩
  · rw [evalNamed, outcome_bind_ok hv, outcome_bind_ok hes, outcome_pure]
  · rw [Value.referencesEntries, mem_append] at hj
    exact hj.elim (fun hj => hs₃.lt (hstands.known j hj)) (hknown j)

theorem outcome_evalNamed_values (es : Entries) :
    (evalNamed (es.map fun (k, v) => (k, Term.ofValue v))).outcome env s = (.ok es, s) := by
  induction es with
  | nil => rfl
  | cons e es ih =>
    have hv : (Term.ofValue e.2).outcome env s = (.ok e.2, s) := rfl
    rw [map_cons, evalNamed, outcome_bind_ok hv, outcome_bind_ok ih, outcome_pure]

theorem givesNamed_values {es : Entries} (h : ∀ j ∈ Value.referencesEntries es, j < s.items.size) :
    GivesNamed s (es.map fun (k, v) => (k, Term.ofValue v)) (· = es) :=
  fun _ s₁ hs₁ => ⟨es, s₁, outcome_evalNamed_values es, .refl hs₁.ordered, rfl, fun j hj => hs₁.lt (h j hj)⟩

/-! ### Requests -/

theorem Gives.callWith {name : String} {args : List Term} {named : List (String × Term)} {os : List (Operand M)}
    {P : Entries → Prop} {m' : M} (ht : R.Gives s t (.object m)) (hargs : Forall₂ (R.Gives s) args os)
    (hnamed : GivesNamed s named P) (hm : ∀ es, P es → R.of (.method m name os (Value.canonicalEntries es)) = m') :
    R.Gives s (t.callWith name args named) (.object m') := by
  intro env s₁ hs₁
  obtain ⟨v, s₂, hv, hs₂, hstands⟩ := ht env hs₁
  obtain ⟨i, rfl, hi, hmeaning⟩ := hstands.eq_node
  obtain ⟨vs, s₃, hvs, hs₃, hall⟩ := outcome_evalAll env hargs (hs₁.trans hs₂)
  obtain ⟨es, s₄, hes, hs₄, hP, hknown⟩ := hnamed env ((hs₁.trans hs₂).trans hs₃)
  obtain ⟨hmap, hcanonical, hrefs⟩ := map_of_stands (hall.imp fun _ _ h => h.grows hs₄)
  have hi₄ : i < s₄.items.size := hs₄.lt (hs₃.lt hi)
  obtain ⟨n, s₅, hn, hs₅, hitem⟩ := @outcome_intern s₄ env
    ⟨.method i name (Value.canonicalList vs) (Value.canonicalEntries es),
      (((s₄.items[i]?).map Item.kind).getD Kind.parameter).afterMethod name⟩ hs₄.ordered (by
        intro j hj
        rcases mem_cons.mp hj with rfl | hj
        · exact hi₄
        · rcases mem_append.mp hj with hj | hj
          · exact hrefs j (hcanonical ▸ hj)
          · exact hknown j ((mem_referencesEntries_canonical es).mp hj))
  have hlt := (Array.getElem?_eq_some_iff.mp hitem).1
  have hmeans : R.meaning s₅.items n = m' := by
    have hobject : R.meaning s₅.items i = m := by
      rw [meaning_grows hs₅ hi₄, meaning_grows (hs₃.trans hs₄) hi, hmeaning]
    have hargs' := (map_of_stands (hall.imp fun _ _ h => h.grows (hs₄.trans hs₅))).1
    rw [meaning_eq hs₅.ordered hitem]
    simp only [Request.of, hcanonical, hobject, hargs']
    exact hm es hP
  refine ⟨.node n, s₅, ?_, ((hs₂.trans hs₃).trans hs₄).trans hs₅, hmeans ▸ stands_node hlt⟩
  rw [Term.callWith, outcome_bind_ok hv]
  show (evalAll args >>= _).outcome env s₂ = _
  rw [outcome_bind_ok hvs, outcome_bind_ok hes, outcome_get_bind, hn]

theorem Gives.call {name : String} {args : List Term} {os : List (Operand M)} (ht : R.Gives s t (.object m))
    (hargs : Forall₂ (R.Gives s) args os) :
    R.Gives s (t.call name args) (.object (R.of (.method m name os []))) :=
  ht.callWith hargs givesNamed_nil (by rintro _ rfl; rfl)

theorem gives_server (function : String) {args : List Term} {os : List (Operand M)}
    (hargs : Forall₂ (R.Gives s) args os) :
    R.Gives s (server function args) (.object (R.of (.call ("ee." ++ function) os []))) := by
  intro env s₁ hs₁
  obtain ⟨vs, s₂, hvs, hs₂, hall⟩ := outcome_evalAll env hargs hs₁
  obtain ⟨-, hcanonical, hrefs⟩ := map_of_stands hall
  obtain ⟨n, s₃, hn, hs₃, hitem⟩ := @outcome_intern s₂ env
    ⟨.call ("ee." ++ function) (Value.canonicalList vs) (Value.canonicalEntries []), Kind.ofFunction function⟩
    hs₂.ordered (by
      intro j hj
      rcases mem_append.mp hj with hj | hj
      · exact hrefs j (hcanonical ▸ hj)
      · cases hj)
  have hlt := (Array.getElem?_eq_some_iff.mp hitem).1
  have hmeans : R.meaning s₃.items n = R.of (.call ("ee." ++ function) os []) := by
    have hargs' := (map_of_stands (hall.imp fun _ _ h => h.grows hs₃)).1
    rw [meaning_eq hs₃.ordered hitem]
    simp only [Request.of, hcanonical, hargs']
    rfl
  have hempty : (evalNamed []).outcome env s₂ = (.ok [], s₂) := rfl
  refine ⟨.node n, s₃, ?_, hs₂.trans hs₃, hmeans ▸ stands_node hlt⟩
  rw [server, serverWith, outcome_bind_ok hvs, outcome_bind_ok hempty, hn]

theorem Gives.share {k : Term → Term} {o' : Operand M} (ht : R.Gives s t o)
    (hk : ∀ x s', s.Grows s' → R.Gives s' x o → R.Gives s' (k x) o') : R.Gives s (t.share >>= k) o' := by
  intro env s₁ hs₁
  obtain ⟨v, s₂, hv, hs₂, hstands⟩ := ht env hs₁
  obtain ⟨w, s₃, hw, hs₃, hstands'⟩ :=
    hk (Term.ofValue v) s₂ (hs₁.trans hs₂) (gives_value hstands) env (.refl hs₂.ordered)
  exact ⟨w, s₃, by rw [outcome_bind_ok (outcome_share_ok hv), hw], hs₂.trans hs₃, hstands'⟩

/-! ### Failures -/

theorem fails_fail (e : Failure) : Fails s (fail e) e :=
  fun _ s₁ _ => ⟨s₁, rfl⟩

theorem Gives.share_fails {k : Term → Term} {e : Failure} (ht : R.Gives s t o)
    (hk : ∀ x s', s.Grows s' → R.Gives s' x o → Fails s' (k x) e) : Fails s (t.share >>= k) e := by
  intro env s₁ hs₁
  obtain ⟨v, s₂, hv, hs₂, hstands⟩ := ht env hs₁
  obtain ⟨s₃, hs₃⟩ :=
    hk (Term.ofValue v) s₂ (hs₁.trans hs₂) (gives_value hstands) env (.refl hs₂.ordered)
  exact ⟨s₃, by rw [outcome_bind_ok (outcome_share_ok hv), hs₃]⟩

theorem Fails.share {k : Term → Term} {e : Failure} (ht : Fails s t e) : Fails s (t.share >>= k) e := by
  intro env s₁ hs₁
  obtain ⟨s₂, hs₂⟩ := ht env hs₁
  exact ⟨s₂, by rw [outcome_bind_error (outcome_share_error hs₂)]⟩

end Reading

end Geoscript.Graph
