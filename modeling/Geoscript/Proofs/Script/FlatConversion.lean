import Geoscript.Proofs.Script.Grouping

/-! Groups of any depth become a flat list. No pass leaves a group that is deeper than one level, so the second pass
is the last one, and the repetition with a bound (`convertWithin`) is `convertNested`. -/

namespace Geoscript.Script.FunctionKind
open List Text Nested
variable {k : FunctionKind} {n : Nat} {items : List Nested} {s s' : NameSupply}

/-! ### Passes with a bound -/

/-- Naming that may come to the end of a bound, for which there is no answer. -/
abbrev Bounded := StateT NameSupply (ExceptT Fault Option)

def bounded {α : Type} (x : Naming α) : Bounded α :=
  fun s => some (x s)

/-- One pass over an item, which goes into groups with groups by `inside`. -/
def passItem (k : FunctionKind) (inside : List Nested → Bounded (List Nested)) : Nested → Bounded Nested
  | .line t => pure (.line t)
  | .group items =>
    if items.all isLine then Nested.line <$> bounded (k.convertLines (flattenList items))
    else Nested.group <$> inside items

/-- Passes over a list until it has no group, to a depth of less than the bound. -/
def convertWithin (k : FunctionKind) : Nat → List Nested → Bounded (List Nested)
  | 0, _ => fun _ => none
  | n + 1, items => do
    let out ← items.mapM (passItem k (convertWithin k n))
    if out.all isLine then pure out else convertWithin k n out

section
variable {α β : Type}

theorem bounded_pure (a : α) : bounded (pure a) = pure a := rfl

theorem bounded_bind (x : Naming α) (f : α → Naming β) : bounded (x >>= f) = bounded x >>= fun a => bounded (f a) := by
  funext s
  show some ((x >>= f) s) = Option.bind (some (x s)) (ExceptT.bindCont fun p => bounded (f p.1) p.2)
  cases hx : x s with
  | error e => rw [naming_bind_error hx]; rfl
  | ok p => rw [@naming_bind_ok _ _ x f s p.2 p.1 hx]; rfl

theorem bounded_map (f : α → β) (x : Naming α) : bounded (f <$> x) = f <$> bounded x := by
  rw [map_eq_pure_bind, map_eq_pure_bind, bounded_bind]
  rfl

end

/-! ### The first pass -/

/-- What a pass makes of an item: a line, or a group of lines. -/
def remains : Text ⊕ List Text → Nested :=
  Sum.elim .line fun ls => .group (ls.map .line)

/-- What the next pass makes of it: a line. -/
def finish (k : FunctionKind) : Text ⊕ List Text → Naming Text :=
  Sum.elim pure k.convertLines

theorem convertNested_eq (k : FunctionKind) (items : List Nested) :
    k.convertNested items = (do (← k.convertInners items).mapM k.finish) := by
  rw [convertNested]
  congr 1
  funext first
  congr 1
  funext x
  cases x <;> rfl

theorem convertInner_deep (h : items.all isLine = false) :
    k.convertInner (.group items) = Sum.inr <$> k.convertNested items := by
  rw [convertInner, h, convertNested]
  simp

theorem all_isLine_map (ts : List Text) : (ts.map Nested.line).all isLine := by
  rw [all_map, all_eq_true]
  exact fun t _ => rfl

theorem passItem_eq {item : Nested} (hsize : item.size ≤ n) (inside : List Nested → Bounded (List Nested))
    (hinside : ∀ items, sizeList items < n → inside items = bounded ((·.map .line) <$> k.convertNested items)) :
    passItem k inside item = bounded (remains <$> k.convertInner item) := by
  cases item with
  | line t => rfl
  | group items =>
    rw [Nested.size] at hsize
    rw [passItem]
    cases hall : items.all isLine with
    | true => simp [convertInner, hall, bounded_map, remains]
    | false =>
      rw [hinside items (by omega), convertInner_deep hall]
      simp [bounded_map, remains]

theorem mapM_passItem (inside : List Nested → Bounded (List Nested))
    (hinside : ∀ items, sizeList items < n → inside items = bounded ((·.map .line) <$> k.convertNested items))
    (hsize : sizeList items ≤ n) :
    items.mapM (passItem k inside) = bounded (map remains <$> k.convertInners items) := by
  induction items with
  | nil => rfl
  | cons item items ih =>
    rw [sizeList] at hsize
    rw [mapM_cons, passItem_eq (by omega) inside hinside, ih (by omega), convertInners]
    simp [bounded_map, bounded_bind]

/-! ### The second pass -/

theorem mapM_passItem_remains (inside : List Nested → Bounded (List Nested)) (first : List (Text ⊕ List Text)) :
    (first.map remains).mapM (passItem k inside) = bounded ((·.map .line) <$> first.mapM k.finish) := by
  induction first with
  | nil => rfl
  | cons x first ih =>
    have hx : passItem k inside (remains x) = bounded (Nested.line <$> k.finish x) := by
      cases x with
      | inl t => rfl
      | inr ls =>
        rw [remains, Sum.elim_inr, passItem, if_pos (all_isLine_map ls), flattenList_lines, bounded_map]
        rfl
    rw [map_cons, mapM_cons, mapM_cons, hx, ih]
    simp [bounded_map, bounded_bind]

/-- A second pass leaves lines only. -/
theorem convertWithin_remains (n : Nat) (first : List (Text ⊕ List Text)) :
    convertWithin k (n + 1) (first.map remains) = bounded ((·.map .line) <$> first.mapM k.finish) := by
  simp only [convertWithin, mapM_passItem_remains, bounded_map, bind_map_left, all_isLine_map, if_true]
  rw [map_eq_pure_bind]

theorem finish_lines {first : List (Text ⊕ List Text)} (h : (first.map remains).all isLine) :
    (·.map Nested.line) <$> first.mapM k.finish = pure (first.map remains) := by
  induction first with
  | nil => rfl
  | cons x first ih =>
    rw [map_cons, all_cons, Bool.and_eq_true] at h
    cases x with
    | inl t =>
      have ht : k.finish (.inl t) = pure t := rfl
      simpa [ht, remains] using congrArg ((Nested.line t :: ·) <$> ·) (ih h.2)
    | inr ls => cases h.1

theorem size_pos (item : Nested) : 0 < item.size := by
  cases item <;> simp [Nested.size, Nat.add_comm 1]

/-- The second pass is the last one. -/
theorem convertWithin_eq (h : sizeList items < n) :
    convertWithin k n items = bounded ((·.map .line) <$> k.convertNested items) := by
  induction n generalizing items with
  | zero => omega
  | succ n ih =>
    cases items with
    | nil => rfl
    | cons item items =>
      obtain ⟨m, rfl⟩ : ∃ m, n = m + 1 := by
        have := size_pos item
        rw [sizeList] at h
        exact Nat.exists_eq_succ_of_ne_zero (by omega)
      rw [convertWithin, mapM_passItem _ (fun _ => ih) (Nat.le_of_lt_succ h), convertNested_eq, bounded_map, map_bind,
        bounded_bind, bind_map_left]
      congr 1
      funext first
      split
      · rw [finish_lines ‹_›, bounded_pure]
      · rw [convertWithin_remains]

/-! ### Places of the items -/

theorem naming_bind_eq_ok {α β : Type} {x : Naming α} {f : α → Naming β} {b : β} (h : (x >>= f) s = .ok (b, s')) :
    ∃ a s₁, x s = .ok (a, s₁) ∧ f a s₁ = .ok (b, s') := by
  cases hx : x s with
  | error e => rw [naming_bind_error hx] at h; cases h
  | ok p => exact ⟨p.1, p.2, rfl, (naming_bind_ok hx).symm.trans h⟩

theorem forall₂_of_mapM {α β : Type} {f : α → Naming β} {xs : List α} {ys : List β}
    (h : xs.mapM f s = .ok (ys, s')) : Forall₂ (fun x y => ∃ s s', f x s = .ok (y, s')) xs ys := by
  induction xs generalizing s ys with
  | nil =>
    obtain rfl : [] = ys := congrArg Prod.fst (Except.ok.inj h)
    exact .nil
  | cons x xs ih =>
    rw [mapM_cons] at h
    obtain ⟨y, s₁, hy, h⟩ := naming_bind_eq_ok h
    obtain ⟨others, s₂, hothers, h⟩ := naming_bind_eq_ok h
    obtain ⟨rfl, rfl⟩ := Prod.mk.inj (Except.ok.inj h)
    exact .cons ⟨_, _, hy⟩ (ih hothers)

theorem convertInners_eq_mapM (k : FunctionKind) (items : List Nested) :
    k.convertInners items = items.mapM k.convertInner := by
  induction items with
  | nil => rfl
  | cons item items ih => rw [convertInners, mapM_cons, ih]

/-- A text for each item, and the text of every item that is a line. -/
theorem convertNested_keeps {ts : List Text} (h : k.convertNested items s = .ok (ts, s')) :
    ts.length = items.length ∧ ∀ (i : Nat) (t : Text), items[i]? = some (.line t) → ts[i]? = some t := by
  rw [convertNested_eq, convertInners_eq_mapM] at h
  obtain ⟨first, s₁, hfirst, hts⟩ := naming_bind_eq_ok h
  have hfirst := forall₂_of_mapM hfirst
  have hts := forall₂_of_mapM hts
  refine ⟨hts.length_eq.symm.trans hfirst.length_eq.symm, fun i t hi => ?_⟩
  obtain ⟨hlt, ht⟩ := List.getElem?_eq_some_iff.mp hi
  have hlt₁ : i < first.length := hfirst.length_eq ▸ hlt
  have hlt₂ : i < ts.length := hts.length_eq ▸ hlt₁
  obtain ⟨s₂, s₃, hround⟩ := hfirst.get hlt hlt₁
  obtain ⟨s₄, s₅, hfinish⟩ := hts.get hlt₁ hlt₂
  simp only [get_eq_getElem, ht, convertInner] at hround
  have hinl : Sum.inl t = first[i] := congrArg Prod.fst (Except.ok.inj hround)
  simp only [get_eq_getElem, ← hinl] at hfinish
  have hsame : t = ts[i] := congrArg Prod.fst (Except.ok.inj hfinish)
  rw [getElem?_eq_getElem hlt₂, hsame]

/-- The passes end for every list of groups of any depth, and leave lines only. A result has a text for each item, and
the lines that stood outside of groups are in their places. -/
theorem converted_flat (k : FunctionKind) (items : List Nested) :
    (∀ n, sizeList items < n → convertWithin k n items = bounded ((·.map .line) <$> k.convertNested items)) ∧
    ∀ s ts s', k.convertNested items s = .ok (ts, s') →
      ts.length = items.length ∧ ∀ (i : Nat) (t : Text), items[i]? = some (.line t) → ts[i]? = some t :=
  ⟨fun _ => convertWithin_eq, fun _ _ _ => convertNested_keeps⟩

/-- A function inside of another, between two lines. -/
def surrounded : List Nested :=
  [.line "a", .group [.line "f()\x7b", .group [.line "f()\x7b\x7d"], .line "\x7d"], .line "d"]

theorem surrounded_converted :
    convertWithin standalone 8 surrounded = bounded ((·.map .line) <$> standalone.convertNested surrounded) ∧
    ∃ t s, standalone.convertNested surrounded {} = .ok (["a", t, "d"], s) := by
  obtain ⟨hwithin, hplaces⟩ := converted_flat standalone surrounded
  refine ⟨hwithin 8 (by decide), ?_⟩
  have htexts : (standalone.convertNested surrounded {}).map Prod.fst =
      .ok ["a", "def rstuvwxyzABCDEFGH():\ndef abcdefghijklmnopq():\n", "d"] := by decide +kernel
  obtain ⟨⟨ts, s⟩, hts, -⟩ := ok_of_map htexts
  obtain ⟨hlength, hline⟩ := hplaces _ _ _ hts
  have hfirst := hline 0 _ rfl
  have hlast := hline 2 _ rfl
  obtain ⟨a, t, d, rfl⟩ := length_eq_three.mp hlength
  obtain rfl : a = _ := Option.some.inj hfirst
  obtain rfl : d = _ := Option.some.inj hlast
  exact ⟨t, s, hts⟩

end Geoscript.Script.FunctionKind
