import Geoscript.Proofs.Pattern.Reading

/-! A search stops at the first place where the pattern matches (`searchFrom_some`); without a result it has tried
them all (`searchFrom_none`). -/

namespace Geoscript
open List

namespace Cursor
variable {c c' c'' : Cursor} {u v : Text}

theorem Over.unique (h : c.Over u c') (h' : c.Over u c'') : c'' = c' := by
  have hafter : c''.after = c'.after := append_cancel_left (h'.after.symm.trans h.after)
  have hbefore : c''.before = c'.before := h'.before.trans h.before.symm
  have hpos : c''.pos = c'.pos := h'.pos.trans h.pos.symm
  cases c'
  cases c''
  simp_all

theorem exists_over {rest : Text} (h : c.after = u ++ rest) : ∃ c', c.Over u c' ∧ c'.after = rest :=
  ⟨⟨u.reverse ++ c.before, rest, c.pos + u.length⟩, ⟨h, rfl, rfl⟩, rfl⟩

theorem Over.split (h : c.Over (u ++ v) c'') : ∃ c', c.Over u c' ∧ c'.Over v c'' := by
  have hafter : c.after = u ++ (v ++ c''.after) := by
    rw [h.after, append_assoc]
  obtain ⟨c', hc', hrest⟩ := exists_over hafter
  refine ⟨c', hc', hrest, ?_, ?_⟩
  · rw [h.before, hc'.before, reverse_append, append_assoc]
  · rw [h.pos, hc'.pos, length_append, Nat.add_assoc]

theorem Over.step {ch : Char} {rest : Text} (hafter : c.after = ch :: rest)
    (h : Over ⟨ch :: c.before, rest, c.pos + 1⟩ u c') : c.Over (ch :: u) c' :=
  (Over.cons hafter).trans h

end Cursor

namespace Pattern
variable {p : Pattern} {depth : Nat} {moving : Bool} {c c' : Cursor} {m : Match} {t : Text}

theorem over_of_reads {R : Nat → Cursor → Cursor → Prop} (hR : ∀ n c c', R n c c' → ∃ u, c.Over u c')
    {a b : Cursor × Captures} (h : Reads R p a b) : ∃ u, a.1.Over u b.1 := by
  induction p generalizing a b with
  | empty => exact ⟨[], h ▸ .refl _⟩
  | lit t => exact ⟨t, h.1⟩
  | one s =>
    obtain ⟨ch, -, hover, -⟩ := h
    exact ⟨[ch], hover⟩
  | seq p q ihp ihq =>
    obtain ⟨m, hp, hq⟩ := h
    obtain ⟨u, hu⟩ := ihp hp
    obtain ⟨v, hv⟩ := ihq hq
    exact ⟨u ++ v, hu.trans hv⟩
  | either p q ihp ihq =>
    rcases h with h | h
    · exact ihp h
    · exact ihq h
  | run s greed least most =>
    obtain ⟨u, -, -, hover, -⟩ := h
    exact ⟨u, hover⟩
  | many p greed least most ih =>
    have hmany : ∀ b, Relation.ReflTransGen (Reads R p) a b → ∃ u, a.1.Over u b.1 := by
      intro b h
      induction h with
      | refl => exact ⟨[], .refl _⟩
      | tail _ hstep hover =>
        obtain ⟨u, hu⟩ := hover
        obtain ⟨v, hv⟩ := ih hstep
        exact ⟨u ++ v, hu.trans hv⟩
    exact hmany b h
  | group n p ih =>
    obtain ⟨caps, h, -⟩ := h
    exact ih (b := (b.1, caps)) h
  | atomic p ih => exact ih h
  | look side wanted p ih => exact ⟨[], (show b.1 = a.1 from h) ▸ .refl _⟩
  | textStart => exact ⟨[], h.1 ▸ .refl _⟩
  | lineStart => exact ⟨[], h.1 ▸ .refl _⟩
  | lineEnd => exact ⟨[], h.1 ▸ .refl _⟩
  | lastLineEnd => exact ⟨[], (show b = a from h) ▸ .refl _⟩
  | sameAs n =>
    obtain ⟨s, -, hover, -⟩ := h
    exact ⟨s.text, hover⟩
  | call n => exact hR n a.1 b.1 h.1

theorem over_of_callReads {whole : Pattern} {n : Nat} (h : CallReads whole depth n c c') : ∃ u, c.Over u c' := by
  induction depth generalizing n c c' with
  | zero => exact h.elim
  | succ depth ih =>
    obtain ⟨p, caps, caps', -, h⟩ := h
    exact over_of_reads (fun _ _ _ h => ih h) h

/-- What ends a match that starts at a place. -/
abbrev stopAt (moving : Bool) (start : Nat) : Continuation := fun c captures =>
  if moving && c.pos == start then none else some ⟨c, captures⟩

theorem stopAt_of_lt {start : Nat} {caps : Captures} (h : start < c.pos) :
    stopAt moving start c caps = some ⟨c, caps⟩ := by
  have hmoved : (c.pos == start) = false := beq_false_of_ne (Nat.ne_of_gt h)
  simp [stopAt, hmoved]

theorem reads_of_matchAt (h : p.matchAt depth moving c = some m) :
    m.start = c ∧ Reads (CallReads p depth) p (c, []) (m.stop, m.captures) := by
  unfold matchAt at h
  split at h
  · next e he =>
    cases h
    obtain ⟨b, hb, hk⟩ := reads_of_matcher (sound_calls p depth) he
    split at hk
    · cases hk
    · cases hk
      exact ⟨rfl, hb⟩
  · cases h

/-! ### The first match -/

theorem searchFrom_some (h : p.searchFrom depth moving c.before c.after c.pos = some m) :
    ∃ u, c.Over u m.start ∧ p.matchAt depth (moving && u.isEmpty) m.start = some m ∧
      ∀ v w c', u = v ++ w → w ≠ [] → c.Over v c' → p.matchAt depth (moving && v.isEmpty) c' = none := by
  obtain ⟨before, after, pos⟩ := c
  induction after generalizing before pos moving with
  | nil =>
    rw [searchFrom] at h
    have hstart := (reads_of_matchAt h).1
    refine ⟨[], hstart ▸ .refl _, by simpa [hstart] using h, fun v w c' hvw hw => ?_⟩
    obtain ⟨-, rfl⟩ := append_eq_nil_iff.mp hvw.symm
    exact absurd rfl hw
  | cons ch rest ih =>
    rw [searchFrom] at h
    split at h
    · next m' hm' =>
      cases h
      have hstart := (reads_of_matchAt hm').1
      refine ⟨[], hstart ▸ .refl _, by simpa [hstart] using hm', fun v w c' hvw hw => ?_⟩
      obtain ⟨-, rfl⟩ := append_eq_nil_iff.mp hvw.symm
      exact absurd rfl hw
    · next hnone =>
      obtain ⟨u, hover, hmatch, hfirst⟩ := ih _ _ h
      refine ⟨ch :: u, hover.step rfl, by simpa using hmatch, fun v w c' hvw hw hc' => ?_⟩
      cases v with
      | nil =>
        obtain rfl := hc'.eq_of_nil
        simpa using hnone
      | cons d v =>
        rw [cons_append, cons.injEq] at hvw
        obtain ⟨rfl, hvw⟩ := hvw
        obtain ⟨c₁, hc₁, hover'⟩ := Cursor.Over.split (u := [ch]) (v := v) hc'
        obtain rfl := (Cursor.Over.cons rfl).unique hc₁
        simpa using hfirst v w c' hvw hw hover'

theorem searchFrom_none (h : p.searchFrom depth moving c.before c.after c.pos = none) {v : Text}
    (hc' : c.Over v c') : p.matchAt depth (moving && v.isEmpty) c' = none := by
  obtain ⟨before, after, pos⟩ := c
  induction after generalizing before pos moving v with
  | nil =>
    obtain ⟨rfl, -⟩ := append_eq_nil_iff.mp hc'.after.symm
    obtain rfl := hc'.eq_of_nil
    simpa [searchFrom] using h
  | cons ch rest ih =>
    rw [searchFrom] at h
    split at h
    · cases h
    · next hnone =>
      cases v with
      | nil =>
        obtain rfl := hc'.eq_of_nil
        simpa using hnone
      | cons d v =>
        obtain ⟨rfl, -⟩ := cons.inj hc'.after
        obtain ⟨c₁, hc₁, hover'⟩ := Cursor.Over.split (u := [ch]) (v := v) hc'
        obtain rfl := (Cursor.Over.cons rfl).unique hc₁
        simpa using ih _ _ h hover'

theorem searchFrom_skip {u : Text} (hover : c.Over u c')
    (hnone : ∀ v w c₁, u = v ++ w → w ≠ [] → c.Over v c₁ → p.matchAt depth (moving && v.isEmpty) c₁ = none) :
    p.searchFrom depth moving c.before c.after c.pos =
      p.searchFrom depth (moving && u.isEmpty) c'.before c'.after c'.pos := by
  induction u generalizing c moving with
  | nil =>
    obtain rfl := hover.eq_of_nil
    rw [isEmpty_nil, Bool.and_true]
  | cons ch u ih =>
    have hstart := hnone [] (ch :: u) c rfl (cons_ne_nil _ _) (.refl c)
    obtain ⟨c₁, hc₁, hover'⟩ := Cursor.Over.split (u := [ch]) (v := u) hover
    obtain ⟨before, after, pos⟩ := c
    cases after with
    | nil => cases hc₁.after
    | cons d rest =>
      obtain ⟨rfl, -⟩ := cons.inj hc₁.after
      obtain rfl := (Cursor.Over.cons rfl).unique hc₁
      rw [isEmpty_nil, Bool.and_true] at hstart
      simp only [searchFrom, hstart, isEmpty_cons, Bool.and_false]
      refine (ih hover' fun v w c₂ hvw hw hc₂ => ?_).trans (by rw [Bool.false_and])
      simpa using hnone (d :: v) w c₂ (by rw [hvw]; rfl) hw (hc₁.trans hc₂)

theorem searchFrom_of_matchAt (hm : p.matchAt depth moving c = some m) :
    p.searchFrom depth moving c.before c.after c.pos = some m := by
  obtain ⟨before, after, pos⟩ := c
  cases after with
  | nil => exact hm
  | cons ch rest => simp only [searchFrom, hm]

theorem searchFrom_of_first {u : Text} (hover : c.Over u c')
    (hnone : ∀ v w c₁, u = v ++ w → w ≠ [] → c.Over v c₁ → p.matchAt depth (moving && v.isEmpty) c₁ = none)
    (hm : p.matchAt depth (moving && u.isEmpty) c' = some m) :
    p.searchFrom depth moving c.before c.after c.pos = some m :=
  (searchFrom_skip hover hnone).trans (searchFrom_of_matchAt hm)

/-! ### All matches -/

theorem over_of_matchAt (h : p.matchAt depth moving c = some m) : ∃ u, c.Over u m.stop := by
  obtain ⟨-, hreads⟩ := reads_of_matchAt h
  exact over_of_reads (fun _ _ _ h => over_of_callReads h) hreads

theorem mem_matchesFrom {fuel : Nat} (h : m ∈ p.matchesFrom depth fuel moving c) :
    ∃ u moving', c.Over u m.start ∧ p.matchAt depth moving' m.start = some m := by
  induction fuel generalizing moving c with
  | zero => cases h
  | succ fuel ih =>
    rw [matchesFrom] at h
    split at h
    · cases h
    · next m' hm' =>
      obtain ⟨u, hu, hmatch, -⟩ := searchFrom_some hm'
      rcases mem_cons.mp h with rfl | h
      · exact ⟨u, _, hu, hmatch⟩
      · obtain ⟨v, hv⟩ := over_of_matchAt hmatch
        obtain ⟨w, moving', hw, hm⟩ := ih h
        exact ⟨u ++ v ++ w, moving', (hu.trans hv).trans hw, hm⟩

theorem matchesFrom_of_first {fuel : Nat} {u : Text} (hover : c.Over u c')
    (hnone : ∀ v w c₁, u = v ++ w → w ≠ [] → c.Over v c₁ → p.matchAt depth (moving && v.isEmpty) c₁ = none)
    (hm : p.matchAt depth (moving && u.isEmpty) c' = some m) :
    p.matchesFrom depth (fuel + 1) moving c = m :: p.matchesFrom depth fuel (m.stop.pos == m.start.pos) m.stop := by
  simp only [matchesFrom, searchFrom_of_first hover hnone hm]

theorem matchesFrom_skip {fuel : Nat} {u : Text} (hover : c.Over u c')
    (hnone : ∀ v w c₁, u = v ++ w → w ≠ [] → c.Over v c₁ → p.matchAt depth (moving && v.isEmpty) c₁ = none) :
    p.matchesFrom depth fuel moving c = p.matchesFrom depth fuel (moving && u.isEmpty) c' := by
  cases fuel with
  | zero => rfl
  | succ fuel => simp only [matchesFrom, searchFrom_skip hover hnone]

theorem matchesFrom_eq_nil {fuel : Nat} (h : ∀ v c₁ moving m, c.Over v c₁ → p.matchAt depth moving c₁ ≠ some m) :
    p.matchesFrom depth fuel moving c = [] := by
  refine eq_nil_iff_forall_not_mem.mpr fun m hm => ?_
  obtain ⟨v, moving', hv, hmatch⟩ := mem_matchesFrom hm
  exact h v _ moving' m hv hmatch

/-- A match is one of the matches from an earlier place on if those that start before it end before it. -/
theorem mem_matchesFrom_of_matchAt {fuel : Nat} {u : Text} (hover : c.Over u c')
    (hm : p.matchAt depth false c' = some m)
    (hends : ∀ v w c₁ m₁, u = v ++ w → w ≠ [] → c.Over v c₁ → p.matchAt depth false c₁ = some m₁ →
      ∃ x y, x ≠ [] ∧ w = x ++ y ∧ c₁.Over x m₁.stop)
    (hfuel : u.length < fuel) : m ∈ p.matchesFrom depth fuel false c := by
  -- Induction on the fuel: behind a match that ends before the place, less is left before the place.
  induction fuel generalizing c u with
  | zero => exact absurd hfuel (Nat.not_lt_zero _)
  | succ fuel ih =>
    cases hsearch : p.searchFrom depth false c.before c.after c.pos with
    | none =>
      have hnone := searchFrom_none hsearch hover
      rw [Bool.false_and, hm] at hnone
      cases hnone
    | some m₁ =>
      obtain ⟨v, hv, hmatch, hfirst⟩ := searchFrom_some hsearch
      rw [Bool.false_and] at hmatch
      simp only [matchesFrom, hsearch]
      obtain ⟨w, rfl⟩ : v <+: u := by
        rcases prefix_or_prefix_of_prefix ⟨_, hv.after.symm⟩ ⟨_, hover.after.symm⟩ with hpre | ⟨w, hw⟩
        · exact hpre
        · by_cases hnil : w = []
          · exact ⟨[], by rw [← hw, hnil, append_nil, append_nil]⟩
          · have hnone := hfirst u w c' hw.symm hnil hover
            rw [Bool.false_and, hm] at hnone
            cases hnone
      by_cases hw : w = []
      · rw [hw, append_nil] at hover
        rw [hover.unique hv, hm] at hmatch
        rw [Option.some.inj hmatch]
        exact mem_cons_self
      · obtain ⟨x, y, hx, rfl, hstop⟩ := hends v w _ m₁ rfl hw hv hmatch
        have hmoved : (m₁.stop.pos == m₁.start.pos) = false := by
          have hpos : 0 < x.length := length_pos_iff.mpr hx
          rw [hstop.pos, beq_eq_false_iff_ne]
          omega
        have hrest : m₁.stop.Over y c' := by
          rw [← append_assoc] at hover
          obtain ⟨c₂, hc₂, hy⟩ := hover.split
          rwa [hc₂.unique (hv.trans hstop)]
        rw [hmoved]
        refine mem_cons_of_mem _ (ih hrest (fun v' w' c₁ m₂ hcut hw' hc₁ hm₂ => ?_) ?_)
        · exact hends (v ++ x ++ v') w' c₁ m₂ (by rw [hcut]; simp) hw' ((hv.trans hstop).trans hc₁) hm₂
        · have hpos : 0 < x.length := length_pos_iff.mpr hx
          simp only [length_append] at hfuel
          omega

theorem mem_occurrences (h : m ∈ p.occurrences t) :
    ∃ u depth moving, (Cursor.start t).Over u m.start ∧ p.matchAt depth moving m.start = some m := by
  obtain ⟨u, moving, hu, hm⟩ := mem_matchesFrom h
  exact ⟨u, _, moving, hu, hm⟩

/-! ### Found or not -/

theorem searchFrom_of_search? (h : p.search? t = some m) : ∃ u, (Cursor.start t).Over u m.start ∧
    p.matchAt (t.length + 1) false m.start = some m := by
  obtain ⟨u, hover, hmatch, -⟩ := @searchFrom_some p _ false (.start t) m h
  exact ⟨u, hover, hmatch⟩

theorem exists_of_found (h : p.found t) :
    ∃ u depth m, (Cursor.start t).Over u m.start ∧ p.matchAt depth false m.start = some m := by
  obtain ⟨m, hm⟩ := Option.isSome_iff_exists.mp h
  obtain ⟨u, hover, hmatch⟩ := searchFrom_of_search? hm
  exact ⟨u, _, m, hover, hmatch⟩

theorem reads_of_search? (h : p.search? t = some m) :
    ∃ u R, t = u ++ m.start.after ∧ Reads R p (m.start, []) (m.stop, m.captures) := by
  obtain ⟨u, hu, hmatch⟩ := searchFrom_of_search? h
  exact ⟨u, _, hu.after, (reads_of_matchAt hmatch).2⟩

theorem search?_of_first {u : Text} (hover : (Cursor.start t).Over u c) (hm : p.matchAt (t.length + 1) false c = some m)
    (hnone : ∀ v w c₁, u = v ++ w → w ≠ [] → (Cursor.start t).Over v c₁ → p.matchAt (t.length + 1) false c₁ = none) :
    p.search? t = some m :=
  searchFrom_of_first hover hnone hm

theorem found_of_matchAt {u : Text} (hover : (Cursor.start t).Over u c)
    (h : ∀ depth, (p.matchAt depth false c).isSome) : p.found t := by
  rw [found, ← Bool.not_eq_false, Option.isSome_eq_false_iff, Option.isNone_iff_eq_none]
  intro hnone
  have hnot : p.matchAt (t.length + 1) false c = none := @searchFrom_none p _ false (.start t) c hnone u hover
  have hsome := h (t.length + 1)
  rw [hnot] at hsome
  cases hsome

theorem occurrences_ne_nil (h : p.found t) : p.occurrences t ≠ [] := by
  obtain ⟨m, hm⟩ := Option.isSome_iff_exists.mp h
  rw [search?] at hm
  rw [occurrences, matchesFrom]
  simp only [Cursor.start, hm]
  exact cons_ne_nil _ _

theorem search?_of_not_found (h : p.found t = false) : p.search? t = none := by
  rwa [found, Option.isSome_eq_false_iff, Option.isNone_iff_eq_none] at h

theorem occurrences_of_not_found (h : p.found t = false) : p.occurrences t = [] := by
  have hnone := search?_of_not_found h
  rw [search?] at hnone
  rw [occurrences, matchesFrom]
  simp only [Cursor.start, hnone]

end Pattern

end Geoscript
