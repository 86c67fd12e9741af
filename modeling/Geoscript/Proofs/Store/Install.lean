import Mathlib.Data.List.Basic
import Geoscript.Proofs.Store.BreadthFirst
import Geoscript.Proofs.Store.Work

/-! Installing goes breadth first. A run of `installList` is nested: it runs through what is pending before it goes
on, so that the rest of the list has no effect and the run is that of a queue (`run_installList`). The queue ends
because the modules are named by finitely many texts (`Enough`). -/

namespace Geoscript.Store
open List Work

variable {update quiet : Bool} {s s' : State}

/-! ### One module -/

theorem ne_allInstalled {c : Char} {rest : Text} (hc : c ≠ 'A') : c :: rest ≠ allInstalled := by
  intro h
  have : some c = some 'A' := congrArg head? h
  exact hc (Option.some.inj this)

theorem lookup_mem_texts {url body : Text} (h : s.remote.lookup url = some body) : body ∈ s.texts := by
  obtain ⟨front, back, hr, -⟩ := lookup_eq_some_iff.mp h
  refine mem_append_right _ (mem_map.mpr ⟨(url, body), ?_, rfl⟩)
  rw [hr]
  simp

theorem run_installOne (update quiet : Bool) {x : ModuleName} (hx : (s.tree.isInstalled x && !update) = false) :
    ∃ lines, (installOne update quiet x).run s = match s.tree.ensureFolder x.folder with
      | .error e => (.error e, { s with printed := s.printed ++ lines })
      | .ok t =>
        match s.remote.lookup x.url with
        | none => (.error .unreachable, { s with tree := t, printed := s.printed ++ lines })
        | some body =>
          match t.write x.path body with
          | .error e => (.error e, { s with tree := t, printed := s.printed ++ lines })
          | .ok t' => (.ok (), { s with tree := t', printed := s.printed ++ lines }) := by
  obtain ⟨lines, hsay⟩ := run_say quiet ("Downloading '" ++ x ++ "'...") s
  unfold installOne
  rw [run_get_bind, hx, if_neg Bool.false_ne_true, run_bind_ok hsay, run_get_bind]
  cases s.tree.ensureFolder x.folder with
  | error e => exact ⟨lines, run_bind_error (run_setTree_error e)⟩
  | ok t =>
    rw [run_bind_ok (run_setTree_ok t), run_get_bind]
    cases s.remote.lookup x.url with
    | none => exact ⟨lines, rfl⟩
    | some body =>
      simp only [run_get_bind]
      cases t.write x.path body with
      | error e => exact ⟨lines, run_bind_error (run_setTree_error e)⟩
      | ok t' =>
        obtain ⟨lines', hdone⟩ := run_say quiet ("The module '" ++ x ++ "' was successfully installed!")
          { s with tree := t', printed := s.printed ++ lines }
        refine ⟨lines ++ lines', ?_⟩
        rw [run_bind_ok (run_setTree_ok t'), hdone, append_assoc]

theorem growing_installOne (x : ModuleName) : Growing quiet (installOne update quiet x) := by
  unfold installOne
  refine .get_bind fun s => ?_
  split
  · exact Growing.say (ne_allInstalled (by decide)) s
  · refine Growing.bind (.say (ne_allInstalled (by decide))) (fun _ => .get_bind fun t => ?_) s
    refine Growing.bind_at (grows_setTree fun tree htree => ?_) fun _ => .get_bind fun u => ?_
    · obtain ⟨hext, hfiles⟩ := Tree.ensureFolder_ok htree
      exact ⟨hext, fun f hf => mem_append_left _ (mem_map_of_mem (hfiles ▸ hf))⟩
    · split
      · exact Growing.bind (.throw _) (fun _ => .say (ne_allInstalled (by decide))) u
      · next body hbody =>
        rw [run_get_bind]
        refine Growing.bind_at (grows_setTree fun tree htree => ⟨Tree.extends_write htree, fun f hf => ?_⟩)
          fun _ => .say (ne_allInstalled (by decide))
        obtain ⟨l, -, rfl⟩ := Tree.write_ok htree
        rcases Tree.mem_setFile hf with hf | hf
        · exact mem_append_left _ (mem_map_of_mem hf)
        · exact hf ▸ lookup_mem_texts hbody

theorem growing_visit (x : ModuleName) : Growing quiet (visit update quiet x) := by
  unfold visit
  refine .bind (growing_installOne x) fun _ => .bind (.say (ne_allInstalled (by decide))) fun _ => ?_
  exact .get_bind fun t => Growing.lift _ t

theorem grows_of_visit {x : ModuleName} {required : List ModuleName}
    (hx : (visit update quiet x).run s = (.ok required, s')) : Grows quiet s s' := by
  have hvisit : Growing quiet (visit update quiet x) := growing_visit x
  have hgrows := hvisit s
  rwa [hx] at hgrows

theorem moduleText_eq_ok_iff {t : Tree} {m : ModuleName} {text : Text} : t.moduleText m = .ok text ↔
    ∃ l raw, t.locate m.path = .ok l ∧ t.file? l = some raw ∧ text = readLineEnds raw := by
  unfold Tree.moduleText Tree.isInstalled Tree.pathExists Tree.read
  cases hl : t.locate m.path with
  | error e => simp
  | ok l =>
    cases hfile : t.file? l with
    | none =>
      simp only [bind, Except.bind, hfile]
      constructor
      · intro h
        split at h
        · split at h <;> cases h
        · cases h
      · rintro ⟨l', raw, hl', hraw, -⟩
        obtain rfl := Except.ok.inj hl'
        rw [hfile] at hraw
        cases hraw
    | some raw =>
      simp only [Tree.occupied, hfile, Option.isSome_some, Bool.true_or, if_true, bind, Except.bind]
      constructor
      · intro h
        cases h
        exact ⟨l, raw, rfl, hfile, rfl⟩
      · rintro ⟨l', raw', hl', hraw, rfl⟩
        obtain rfl := Except.ok.inj hl'
        rw [hfile] at hraw
        cases hraw
        rfl

theorem moduleText_ok {t : Tree} {x : ModuleName} {text : Text} (h : t.moduleText x = .ok text) :
    t.isInstalled x ∧ ∃ f ∈ t.files, text = readLineEnds f.2 := by
  obtain ⟨l, raw, hl, hraw, rfl⟩ := moduleText_eq_ok_iff.mp h
  obtain ⟨front, back, hfiles, -⟩ := lookup_eq_some_iff.mp hraw
  exact ⟨by simp [Tree.isInstalled, Tree.pathExists, hl, Tree.occupied, hraw], (l, raw), by simp [hfiles], rfl⟩

theorem dependencies_ok {t : Tree} {x : ModuleName} {required : List ModuleName}
    (h : t.dependencies x = .ok required) :
    t.isInstalled x ∧ ∃ f ∈ t.files, required = requiredBy (readLineEnds f.2) := by
  obtain ⟨text, htext, rfl⟩ := ok_of_map h
  obtain ⟨hx, f, hf, rfl⟩ := moduleText_ok htext
  exact ⟨hx, f, hf, rfl⟩

theorem visit_ok {x : ModuleName} {required : List ModuleName}
    (h : (visit update quiet x).run s = (.ok required, s')) : s'.tree.dependencies x = .ok required := by
  unfold visit at h
  obtain ⟨-, t, -, h⟩ := bind_eq_ok h
  obtain ⟨-, u, -, h⟩ := bind_eq_ok h
  rw [run_get_bind, run_lift, Prod.mk.injEq] at h
  exact h.2 ▸ h.1

/-! ### Modules gone through -/

/-- The modules of a log are gone through one after the other; beside each stands what it requires, as
read in the tree right after its own step. -/
inductive Visits (update quiet : Bool) : State → List (ModuleName × List ModuleName) → State → Prop
  | done (s : State) : Visits update quiet s [] s
  | next {s t u : State} {x : ModuleName} {required : List ModuleName}
      {log : List (ModuleName × List ModuleName)} :
      (visit update quiet x).run s = (.ok required, t) → t.tree.dependencies x = .ok required →
      Visits update quiet t log u → Visits update quiet s ((x, required) :: log) u

namespace Visits
variable {log : List (ModuleName × List ModuleName)}

theorem grows (h : Visits update quiet s log s') : Grows quiet s s' := by
  induction h with
  | done s => exact .refl s
  | next hx _ _ ih => exact (grows_of_visit hx).trans ih

theorem installed (h : Visits update quiet s log s') : ∀ x ∈ log.map (·.1), s'.tree.isInstalled x := by
  induction h with
  | done s => simp
  | next _ hd hlog ih =>
    intro y hy
    rcases mem_cons.mp hy with rfl | hy
    · exact hlog.grows.tree.isInstalled (dependencies_ok hd).1
    · exact ih y hy

end Visits

/-! ### How many modules there can be -/

/-- The texts that may be read require no other modules than those listed. -/
def Enough (names : List ModuleName) (s : State) : Prop :=
  ∀ text ∈ s.texts, ∀ m ∈ requiredBy (readLineEnds text), m ∈ names

theorem Enough.grows {names : List ModuleName} (h : Enough names s) (hg : Grows quiet s s') : Enough names s' :=
  fun text ht => h text (hg.texts text ht)

theorem Enough.visit {names : List ModuleName} (h : Enough names s) {x : ModuleName}
    {required : List ModuleName} (hx : (visit update quiet x).run s = (.ok required, s')) :
    Enough names s' ∧ ∀ m ∈ required, m ∈ names := by
  obtain ⟨-, f, hf, rfl⟩ := dependencies_ok (visit_ok hx)
  have hs' := h.grows (grows_of_visit hx)
  exact ⟨hs', hs' f.2 (mem_append_left _ (mem_map_of_mem hf))⟩

theorem nameBound_eq (s : State) :
    nameBound s = (s.texts.flatMap fun text => requiredBy (readLineEnds text)).length := by
  have fold : ∀ (texts : List Text) (n : Nat),
      texts.foldl (fun n text => n + (requiredBy (readLineEnds text)).length) n =
        n + (texts.flatMap fun text => requiredBy (readLineEnds text)).length := by
    intro texts
    induction texts with
    | nil => simp
    | cons text rest ih =>
      intro n
      rw [foldl_cons, ih, flatMap_cons, length_append]
      omega
  have := fold s.texts 0
  rwa [Nat.zero_add] at this

theorem mem_pending {visited queue : List ModuleName} {y : ModuleName} :
    y ∈ pending visited queue ↔ y ∈ queue ∧ y ∉ visited := by
  simp [pending]

theorem pending_append_singleton (visited queue : List ModuleName) (x : ModuleName) :
    pending (visited ++ [x]) queue = (pending visited queue).filter fun y => !y == x := by
  simp only [pending, filter_filter]
  refine filter_congr fun y _ => ?_
  by_cases hv : y ∈ visited <;> by_cases hx : y = x <;> simp [hv, hx]

theorem pending_pending (visited queue rest : List ModuleName) :
    pending visited (pending visited queue ++ rest) = pending visited (queue ++ rest) := by
  simp [pending]

theorem length_pending_lt {visited names : List ModuleName} {x : ModuleName} (hx : x ∈ names)
    (hv : x ∉ visited) : (pending (visited ++ [x]) names).length < (pending visited names).length := by
  rw [pending_append_singleton, length_filter_lt_length_iff_exists]
  exact ⟨x, mem_pending.mpr ⟨hx, hv⟩, by simp⟩

/-! ### The queue -/

/-- A queue that the fuel lasts for: each of its modules is named and has not been gone through, and there
is fuel for every named module that has not been gone through and for the last line. -/
structure Ready (names : List ModuleName) (fuel : Nat) (queue visited : List ModuleName) (s : State) : Prop where
  enough : Enough names s
  named : ∀ y ∈ queue, y ∈ names
  fresh : ∀ y ∈ queue, y ∉ visited
  fuel : (pending visited names).length < fuel

section Queue
variable {names queue visited rest required order : List ModuleName} {x : ModuleName} {fuel : Nat}

theorem Ready.step (h : Ready names (fuel + 1) (x :: rest) visited s)
    (hx : (visit update quiet x).run s = (.ok required, s')) :
    Ready names fuel (pending (visited ++ [x]) (x :: rest ++ required)) (visited ++ [x]) s' where
  enough := (h.enough.visit hx).1
  named y hy := by
    rcases mem_append.mp (mem_pending.mp hy).1 with hy | hy
    · exact h.named y hy
    · exact (h.enough.visit hx).2 y hy
  fresh y hy := (mem_pending.mp hy).2
  fuel := by
    have hlt := length_pending_lt (h.named x mem_cons_self) (h.fresh x mem_cons_self)
    have := h.fuel
    omega

/-- A log of modules gone through from a queue: they are new ones of the queue and of what they require,
in the order in which they are first met, and each is met before its turn. -/
structure LogOf (queue visited : List ModuleName) (log : List (ModuleName × List ModuleName)) : Prop where
  met : log.map (·.1) = (pending visited (queue ++ log.flatMap (·.2))).eraseDups
  found : ∀ front e back, log = front ++ e :: back → e.1 ∈ queue ∨ ∃ p ∈ front, e.1 ∈ p.2

theorem LogOf.step {log : List (ModuleName × List ModuleName)} (hx : x ∉ visited)
    (h : LogOf (pending (visited ++ [x]) (x :: rest ++ required)) (visited ++ [x]) log) :
    LogOf (x :: rest) visited ((x, required) :: log) where
  met := by
    have hp : pending visited (x :: (rest ++ required ++ log.flatMap (·.2))) =
        x :: pending visited (rest ++ required ++ log.flatMap (·.2)) := by
      simp [pending, hx]
    have hdrop : pending (visited ++ [x]) (x :: rest ++ required ++ log.flatMap (·.2)) =
        pending (visited ++ [x]) (rest ++ required ++ log.flatMap (·.2)) := by
      simp [pending]
    simp only [map_cons, flatMap_cons, cons_append, ← append_assoc]
    rw [hp, eraseDups_cons, ← pending_append_singleton, h.met, pending_pending, hdrop]
  found := by
    intro front e back hlog
    cases front with
    | nil =>
      obtain ⟨rfl, -⟩ := cons.inj hlog
      exact .inl mem_cons_self
    | cons p front =>
      rw [cons_append, cons.injEq] at hlog
      obtain ⟨rfl, hlog⟩ := hlog
      rcases h.found front e back hlog with he | ⟨q, hq, he⟩
      · rcases mem_append.mp (mem_pending.mp he).1 with he | he
        · exact .inl he
        · exact .inr ⟨(x, required), mem_cons_self, he⟩
      · exact .inr ⟨q, mem_cons_of_mem _ hq, he⟩

theorem run_installQueue (hr : Ready names fuel queue visited s)
    (h : (installQueue update quiet fuel queue visited).run s = (.ok order, s')) :
    ∃ log t, Visits update quiet s log t ∧ (say quiet allInstalled).run t = (.ok (), s') ∧
      order = visited ++ log.map (·.1) ∧ LogOf queue visited log := by
  induction fuel generalizing queue visited s with
  | zero => exact absurd hr.fuel (Nat.not_lt_zero _)
  | succ fuel ih =>
    cases queue with
    | nil =>
      obtain ⟨⟨⟩, t, hsay, hend⟩ := bind_eq_ok h
      rw [run_pure, Prod.mk.injEq] at hend
      obtain ⟨hend, rfl⟩ := hend
      refine ⟨[], s, .done s, hsay, ?_, by simp [pending], by simp⟩
      rw [← Except.ok.inj hend]
      simp
    | cons x rest =>
      obtain ⟨required, t, hx, h⟩ := bind_eq_ok h
      obtain ⟨log, u, hvisits, hsay, horder, hlog⟩ := ih (hr.step hx) h
      refine ⟨(x, required) :: log, u, .next hx (visit_ok hx) hvisits, hsay, ?_, hlog.step (hr.fresh x mem_cons_self)⟩
      rw [horder]
      simp

theorem run_installQueue_add (hr : Ready names fuel queue visited s) (extra : Nat) :
    (installQueue update quiet (fuel + extra) queue visited).run s =
      (installQueue update quiet fuel queue visited).run s := by
  induction fuel generalizing queue visited s with
  | zero => exact absurd hr.fuel (Nat.not_lt_zero _)
  | succ fuel ih =>
    rw [Nat.add_right_comm]
    cases queue with
    | nil => rfl
    | cons x rest =>
      unfold installQueue
      rcases hx : (visit update quiet x).run s with ⟨r, t⟩
      cases r with
      | error e => rw [run_bind_error hx, run_bind_error hx]
      | ok required =>
        rw [run_bind_ok hx, run_bind_ok hx]
        exact ih (hr.step hx)

/-! ### Nested runs -/

theorem run_passOver {own : List ModuleName} {step : List ModuleName × List ModuleName → ModuleName →
    Work (List ModuleName × List ModuleName)} {ys : List ModuleName}
    (hstep : ∀ y ∈ ys, step (own, visited) y = pure (own, visited)) :
    (ys.foldlM step (own, visited)).run s = (.ok (own, visited), s) := by
  induction ys with
  | nil => rfl
  | cons y ys ih =>
    rw [foldlM_cons, hstep y mem_cons_self]
    exact ih fun z hz => hstep z (mem_cons_of_mem _ hz)

theorem mem_of_run_installQueue (hr : Ready names fuel queue visited s)
    (h : (installQueue update quiet fuel queue visited).run s = (.ok order, s')) :
    (∀ y ∈ queue, y ∈ order) ∧ ∀ y ∈ visited, y ∈ order := by
  obtain ⟨log, t, -, -, rfl, hlog⟩ := run_installQueue hr h
  refine ⟨fun y hy => mem_append_right _ ?_, fun y hy => mem_append_left _ hy⟩
  rw [hlog.met, mem_eraseDups, mem_pending]
  exact ⟨mem_append_left _ hy, hr.fresh y hy⟩

theorem run_installList (update quiet : Bool) (hr : Ready names fuel queue visited s) :
    (∀ order t, (installQueue update quiet fuel queue visited).run s = (.ok order, t) →
      ∃ own, (installList update quiet fuel queue visited).run s = (.ok (own, order), t)) ∧
    (∀ e t, (installQueue update quiet fuel queue visited).run s = (.error e, t) →
      (installList update quiet fuel queue visited).run s = (.error e, t)) := by
  induction fuel generalizing queue visited s with
  | zero => exact absurd hr.fuel (Nat.not_lt_zero _)
  | succ fuel ih =>
    cases queue with
    | nil =>
      unfold installQueue installList
      rcases hsay : (say quiet allInstalled).run s with ⟨r, u⟩
      cases r with
      | error e =>
        rw [run_bind_error hsay, run_bind_error hsay]
        exact ⟨fun _ _ h => (nomatch h), fun _ _ h => by cases h; rfl⟩
      | ok a =>
        rw [run_bind_ok hsay, run_bind_ok hsay, run_pure, run_pure]
        refine ⟨fun order t h => ?_, fun _ _ h => (nomatch h)⟩
        cases h
        exact ⟨[], rfl⟩
    | cons x rest =>
      have hdrop : (x :: rest).dropWhile visited.contains = x :: rest := by
        simp [hr.fresh x mem_cons_self]
      unfold installQueue installList
      simp only [hdrop]
      rcases hx : (visit update quiet x).run s with ⟨r, u⟩
      cases r with
      | error e =>
        rw [run_bind_error hx, run_bind_error hx]
        exact ⟨fun _ _ h => (nomatch h), fun _ _ h => by cases h; rfl⟩
      | ok required =>
        rw [run_bind_ok hx, run_bind_ok hx]
        have hready := hr.step hx
        obtain ⟨ihok, iherror⟩ := ih hready
        refine ⟨fun order t h => ?_, fun e t h => run_bind_error (iherror e t h)⟩
        obtain ⟨own, hrun⟩ := ihok order t h
        -- The pending list has been gone through, so nothing is left to do in the list itself.
        obtain ⟨hqueue, hvisited⟩ := mem_of_run_installQueue hready h
        have hall : ∀ y ∈ rest ++ required, y ∈ order := by
          intro y hy
          by_cases hv : y ∈ visited ++ [x]
          · exact hvisited y hv
          · exact hqueue y (mem_pending.mpr ⟨by simpa using .inr (mem_append.mp hy), hv⟩)
        refine ⟨x :: rest ++ required, ?_⟩
        rw [run_bind_ok hrun, run_bind_ok (run_passOver fun y hy => ?_)]
        · rfl
        · simp [hall y hy]

end Queue

/-! ### Installing a module -/

def namesFrom (x : ModuleName) (s : State) : List ModuleName :=
  x :: s.texts.flatMap fun text => requiredBy (readLineEnds text)

theorem ready_start (x : ModuleName) (s : State) : Ready (namesFrom x s) (nameBound s + 2) [x] [] s where
  enough text ht m hm := mem_cons_of_mem _ (mem_flatMap.mpr ⟨text, ht, hm⟩)
  named y hy := mem_cons.mpr (.inl (mem_singleton.mp hy))
  fresh y _ := not_mem_nil
  fuel := by
    rw [nameBound_eq]
    simp [pending, namesFrom]

theorem run_visited_installList {names : List ModuleName} {fuel : Nat} {x : ModuleName}
    (hr : Ready names fuel [x] [] s) :
    (do let (_, visited) ← installList update quiet fuel [x] []; pure visited : Work _).run s =
      (installQueue update quiet fuel [x] []).run s := by
  obtain ⟨hok, herror⟩ := run_installList update quiet hr
  rcases hq : (installQueue update quiet fuel [x] []).run s with ⟨r, t⟩
  cases r with
  | ok order =>
    obtain ⟨own, hrun⟩ := hok order t hq
    rw [run_bind_ok hrun]
    rfl
  | error e => rw [run_bind_error (herror e t hq)]

theorem run_install (x : ModuleName) (s : State) :
    (install update quiet x).run s = (installQueue update quiet (nameBound s + 2) [x] []).run s := by
  unfold install
  rw [run_get_bind]
  exact run_visited_installList (ready_start x s)

def requiredIn (log : List (ModuleName × List ModuleName)) (m : ModuleName) : List ModuleName :=
  (log.lookup m).getD []

theorem requiredIn_eq {log : List (ModuleName × List ModuleName)} (h : (log.map (·.1)).Nodup)
    {e : ModuleName × List ModuleName} (he : e ∈ log) : requiredIn log e.1 = e.2 := by
  obtain ⟨front, back, rfl⟩ := append_of_mem he
  have hnot : ∀ p ∈ front, (e.1 != p.1) := by
    intro p hp
    rw [map_append, nodup_append] at h
    exact bne_iff_ne.mpr fun heq => h.2.2 p.1 (mem_map_of_mem hp) e.1 (by simp) heq.symm
  have hlookup : (front ++ e :: back).lookup e.1 = some e.2 :=
    lookup_eq_some_iff.mpr ⟨front, back, rfl, hnot⟩
  rw [requiredIn, hlookup, Option.getD_some]

theorem LogOf.breadthFirst {x : ModuleName} {log : List (ModuleName × List ModuleName)}
    (h : LogOf [x] [] log) : BreadthFirst (requiredIn log) x (log.map (·.1)) := by
  have hmet : log.map (·.1) = (x :: log.flatMap (·.2)).eraseDups := by
    simpa [pending] using h.met
  have hnodup : (log.map (·.1)).Nodup := by
    rw [hmet]
    exact Text.nodup_eraseDups _
  have hrequired : (log.map (·.1)).flatMap (requiredIn log) = log.flatMap (·.2) := by
    rw [flatMap_map]
    exact flatMap_congr fun e he => requiredIn_eq hnodup he
  refine ⟨by rw [hrequired]; exact hmet, ?_⟩
  intro before m rest hsplit
  obtain ⟨front, tail, hlog, rfl, htail⟩ := map_eq_append_iff.mp hsplit
  obtain ⟨e, back, rfl, rfl, rfl⟩ := map_eq_cons_iff.mp htail
  rcases h.found front e back hlog with he | ⟨p, hp, he⟩
  · exact .inl (mem_singleton.mp he)
  · refine .inr ⟨p.1, mem_map_of_mem hp, ?_⟩
    rw [requiredIn_eq hnodup (hlog ▸ mem_append_left _ hp)]
    exact he

/-- Installing ends, whatever the modules require: no more fuel changes it. If it returns, the modules
gone through are the breadth-first order of all that is required from `x` on, where what a module requires
is read right after its own step; all of them are then installed, and the last line is printed once. -/
theorem install_breadth_first (update quiet : Bool) (x : ModuleName) (s : State) : (∀ extra, (do
        let (_, visited) ← installList update quiet (nameBound s + 2 + extra) [x] []
        pure visited : Work _).run s = (install update quiet x).run s) ∧
    ∀ order s', (install update quiet x).run s = (.ok order, s') →
      ∃ log t, Visits update quiet s log t ∧ order = log.map (·.1) ∧
        BreadthFirst (requiredIn log) x order ∧ order.Nodup ∧
        (∀ m, m ∈ order ↔ Relation.ReflTransGen (fun p q => q ∈ requiredIn log p) x m) ∧
        s'.tree = t.tree ∧ (∀ m ∈ order, s'.tree.isInstalled m) ∧
        ∃ lines, allInstalled ∉ lines ∧
          s'.printed = s.printed ++ if quiet then [] else lines ++ [allInstalled] := by
  have hready := ready_start x s
  refine ⟨fun extra => ?_, fun order s' h => ?_⟩
  · have hmore : Ready (namesFrom x s) (nameBound s + 2 + extra) [x] [] s :=
      { hready with fuel := Nat.lt_of_lt_of_le hready.fuel (Nat.le_add_right _ _) }
    rw [run_visited_installList hmore, run_install, run_installQueue_add hready]
  · rw [run_install] at h
    obtain ⟨log, t, hvisits, hsay, rfl, hlog⟩ := run_installQueue hready h
    have hbfs := hlog.breadthFirst
    have htree : s'.tree = t.tree := by
      cases quiet <;> cases hsay <;> rfl
    obtain ⟨lines, hlines, hnot, hquiet⟩ := hvisits.grows.printed
    refine ⟨log, t, hvisits, rfl, hbfs, hbfs.nodup, fun m => hbfs.mem_iff, htree, ?_, lines, hnot, ?_⟩
    · intro m hm
      rw [htree]
      exact hvisits.installed m hm
    · cases quiet with
      | true =>
        cases hsay
        rw [hlines, hquiet rfl]
        rfl
      | false =>
        cases hsay
        simp [hlines]

/-- Two modules that require each other and themselves, one of them still to be downloaded. -/
def circle : State where
  tree := ⟨[(["a.js"], "require('b')\nrequire('a')")], [[]]⟩
  remote := [("https://storage.googleapis.com/ee-sources/b", "require('a')")]

theorem install_circle : ∃ s', (install false false "a").run circle = (.ok ["a", "b"], s') ∧
    ∃ log, BreadthFirst (requiredIn log) "a" ["a", "b"] ∧
      s'.tree.isInstalled "b" ∧
      ∃ lines, allInstalled ∉ lines ∧ s'.printed = lines ++ [allInstalled] := by
  have horder : ((install false false "a").run circle).1.toOption = some ["a".toList, "b".toList] := by decide +kernel
  rcases hrun : (install false false "a").run circle with ⟨r, s'⟩
  rw [hrun] at horder
  cases r with
  | error e => cases horder
  | ok order =>
    obtain rfl := Option.some.inj horder
    obtain ⟨log, -, -, -, hbfs, -, -, -, hinstalled, lines, hnot, hprinted⟩ :=
      (install_breadth_first false false "a" circle).2 _ s' hrun
    exact ⟨s', rfl, log, hbfs, hinstalled _ (by simp), lines, hnot, by simpa [circle] using hprinted⟩

end Geoscript.Store
