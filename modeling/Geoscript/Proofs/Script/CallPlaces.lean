import Geoscript.Proofs.Script.InPlace

/-! Where the calls of a method stand. A script is a weave of gaps and the calls that a search finds: a match ends
before the next opening parenthesis, so no call is passed over. -/

namespace Geoscript.Script
open List Text Pattern
variable {spaced moving : Bool} {name : Text} {depth : Nat} {c : Cursor} {mt : Match}

/-! ### One match -/

theorem exists_arguments {a : Text} (ha : '(' ∉ a) :
    ∃ a' z : Text, a ++ [')'] = a' ++ ')' :: z ∧ '(' ∉ a' ∧ ')' ∉ a' ∧ '(' ∉ z ∧ (z = [] ∨ ∃ z', z = z' ++ [')']) := by
  induction a with
  | nil => exact ⟨[], [], rfl, by simp, by simp, by simp, .inl rfl⟩
  | cons ch a ih =>
    rw [mem_cons, not_or] at ha
    by_cases hch : ch = ')'
    · exact ⟨[], a ++ [')'], by simp [hch], by simp, by simp, by simpa using ha.2, .inr ⟨a, rfl⟩⟩
    · obtain ⟨a', z, h, hopen, hclose, hz, hend⟩ := ih ha.2
      refine ⟨ch :: a', z, by rw [cons_append, h]; rfl, ?_, ?_, hz, hend⟩
      · simpa using ⟨ha.1, hopen⟩
      · simpa using ⟨Ne.symm hch, hclose⟩

theorem callOf_match (h : (callOf spaced name).matchAt depth moving c = some mt) :
    ∃ r a z : Text, mt.group 1 = r ∧ r ≠ [] ∧ (∀ ch ∈ r, (receiverSet spaced).has ch) ∧ '(' ∉ a ∧ ')' ∉ a ∧
      '(' ∉ z ∧ (z = [] ∨ ∃ z', z = z' ++ [')']) ∧ c.Over (r ++ '.' :: name ++ '(' :: a ++ [')'] ++ z) mt.stop := by
  obtain ⟨-, h⟩ := reads_of_matchAt h
  obtain ⟨r, a, hr, hset, ha, hover, hcaps⟩ := callOf_reads h
  obtain ⟨a', z, hcut, hopen, hclose, hz, hend⟩ := exists_arguments ha
  have htext : r ++ '.' :: name ++ '(' :: a ++ [')'] = r ++ '.' :: name ++ '(' :: a' ++ [')'] ++ z := by
    simp [hcut]
  rw [htext] at hover
  refine ⟨r, a', z, ?_, hr, hset, hopen, hclose, hz, hend, hover⟩
  have hcaps : mt.captures = [(1, ⟨c, c.pos + r.length⟩)] := hcaps
  have hgroup : mt.group 1 = Span.text ⟨c, c.pos + r.length⟩ := by
    rw [Match.group, hcaps]
    rfl
  have hstart : c.after = r ++ ('.' :: name ++ '(' :: a' ++ [')'] ++ z ++ mt.stop.after) := by
    rw [hover.after]
    simp
  rw [hgroup, Span.text, Cursor.upTo, hstart, Nat.add_sub_cancel_left, take_left]

theorem has_receiverSet {ch : Char} (h : isWord ch) : (receiverSet spaced).has ch := by
  simp [receiverSet, CharSet.has, CharClass.covers, h]

theorem matchAt_of_callText {t rest : Text} (ht : IsCallText name t) (h : c.after = t ++ rest) :
    (callOf spaced name).matchAt depth false c ≠ none := by
  obtain ⟨r, a, hr, hword, hopen, hclose, rfl⟩ := ht
  have hset : ∀ ch ∈ r, (receiverSet spaced).has ch := fun ch hch => has_receiverSet (hword ch hch)
  have hsome : ((callOf spaced name).matchAt depth false c).isSome :=
    matchAt_callOf hr hset hopen hclose (by simpa using h)
  intro hnone
  rw [hnone] at hsome
  cases hsome

/-! ### From one match to the next -/

/-- What a match may leave behind a call: nothing, or a text up to a closing parenthesis. -/
def IsRest (z : Text) : Prop :=
  '(' ∉ z ∧ (z = [] ∨ ∃ z', z = z' ++ [')'])

theorem IsRest.start_behind {s t e z v : Text} (hz : IsRest z) (hname : ')' ∉ name) (ht : IsCallText name t)
    (h : s ++ t ++ e = z ++ v) : ∃ s', s = z ++ s' ∧ v = s' ++ t ++ e := by
  obtain ⟨hopen, rfl | ⟨z', rfl⟩⟩ := hz
  · exact ⟨s, rfl, h.symm⟩
  · obtain ⟨r, a, hr, hword, ha, -, rfl⟩ := ht
    have hhead : ')' ∉ r ++ '.' :: name := by
      have hr' : ')' ∉ r := fun hmem => absurd (hword _ hmem) (by decide)
      simp [hr', hname]
    have hcut : (z' ++ [')']) ++ v = (s ++ (r ++ '.' :: name)) ++ '(' :: (a ++ ')' :: e) := by
      rw [← h]
      simp
    obtain ⟨mid, hleft, rfl⟩ := cut_right hopen hcut
    rw [append_assoc, singleton_append] at hleft
    obtain ⟨s', rfl, rfl⟩ := cut_left hhead hleft
    exact ⟨s', by simp, by simp⟩

theorem IsCallText.ne_nil {t : Text} (h : IsCallText name t) : t ≠ [] := by
  obtain ⟨r, a, -, -, -, -, rfl⟩ := h
  simp

theorem IsRest.noCall {z : Text} (hz : IsRest z) (hname : ')' ∉ name)
    (hnone : ∀ v c', c.Over v c' → (callOf spaced name).matchAt depth false c' = none) :
    NoCall name (z ++ c.after) := by
  rintro t ht ⟨s, e, h⟩
  obtain ⟨s', -, hafter⟩ := hz.start_behind hname ht h
  rw [append_assoc] at hafter
  obtain ⟨c', hc', hrest⟩ := Cursor.exists_over hafter
  exact matchAt_of_callText ht hrest (hnone s' c' hc')

theorem IsRest.isGap {z u t rest : Text} {c' : Cursor} (hz : IsRest z) (hname : ')' ∉ name) (hu : c.Over u c')
    (ht : IsCallText name t) (hafter : c'.after = t ++ rest)
    (hfirst : ∀ v w c', u = v ++ w → w ≠ [] → c.Over v c' → (callOf spaced name).matchAt depth false c' = none) :
    IsGap name (z ++ u) := by
  constructor
  · rintro t' ht' ⟨s, e, h⟩
    obtain ⟨s', -, rfl⟩ := hz.start_behind hname ht' h
    rw [append_assoc] at hu hfirst
    obtain ⟨c₁, hc₁, hrest⟩ := hu.split
    have hcall : c₁.after = t' ++ (e ++ c'.after) := by
      rw [hrest.after, append_assoc]
    exact matchAt_of_callText ht' hcall (hfirst s' (t' ++ e) c₁ rfl (by simp [ht'.ne_nil]) hc₁)
  · intro g ch hg
    by_cases hunil : u = []
    · subst hunil
      rw [append_nil] at hg
      obtain ⟨-, rfl | ⟨z', rfl⟩⟩ := hz
      · simp at hg
      · obtain ⟨-, hch⟩ := append_inj' hg rfl
        rw [← (cons.inj hch).1]
        decide
    · obtain ⟨v, d, rfl⟩ : ∃ v d, u = v ++ [d] := ⟨_, _, (dropLast_concat_getLast hunil).symm⟩
      rw [← append_assoc] at hg
      obtain ⟨-, hch⟩ := append_inj' hg rfl
      obtain rfl := (cons.inj hch).1
      obtain ⟨c₁, hc₁, hd⟩ := hu.split
      rw [← Bool.not_eq_true]
      intro hword
      -- with the character before it the receiver would have been found one place earlier
      have hlonger : IsCallText name (d :: t) := by
        obtain ⟨r, a, -, hr, hopen, hclose, rfl⟩ := ht
        exact ⟨d :: r, a, by simp, forall_mem_cons.mpr ⟨hword, hr⟩, hopen, hclose, rfl⟩
      have hcall : c₁.after = d :: t ++ rest := by
        rw [hd.after, hafter]
        rfl
      exact matchAt_of_callText hlonger hcall (hfirst v [d] c₁ rfl (by simp) hc₁)

/-! ### All matches -/

structure Site where
  found : Match
  gap : Text
  arguments : Text

def Site.call (name : Text) (s : Site) : Call :=
  ⟨s.found.group 1, name ++ '(' :: s.arguments ++ [')']⟩

def Placed (name : Text) : Nat → List Site → Prop
  | _, [] => True
  | place, s :: sites =>
    s.found.start.pos = place + s.gap.length ∧
      Placed name (s.found.start.pos + (s.call name).text.length) sites

/-- The sites of all calls found from a place on. -/
structure Sites (name : Text) (place : Nat) (t : Text) (found : List Match) (sites : List Site) (last : Text) :
    Prop where
  found : sites.map Site.found = found
  text : weave (sites.map fun s => (s.gap, (s.call name).text)) last = t
  gap : ∀ s ∈ sites, IsGap name s.gap
  receiver : ∀ s ∈ sites, s.found.group 1 ≠ [] ∧ ∀ ch ∈ s.found.group 1, isWord ch
  arguments : ∀ s ∈ sites, '(' ∉ s.arguments ∧ ')' ∉ s.arguments
  last : NoCall name last
  placed : Placed name place sites

theorem exists_sites {fuel place : Nat} {z : Text} (hname : ')' ∉ name) (hfuel : c.after.length < fuel)
    (hz : IsRest z) (hplace : c.pos = place + z.length)
    (hplain : ∀ mt ∈ (callOf spaced name).matchesFrom depth fuel false c, ∀ ch ∈ mt.group 1, isWord ch) :
    ∃ sites last, Sites name place (z ++ c.after) ((callOf spaced name).matchesFrom depth fuel false c) sites last := by
  induction fuel generalizing c z place with
  | zero => exact absurd hfuel (Nat.not_lt_zero _)
  | succ fuel ih =>
    rw [matchesFrom] at hplain ⊢
    cases hsearch : (callOf spaced name).searchFrom depth false c.before c.after c.pos with
    | none =>
      have hnone := hz.noCall hname fun v c' hv => by simpa using searchFrom_none hsearch hv
      exact ⟨[], z ++ c.after, rfl, rfl, by simp, by simp, by simp, hnone, trivial⟩
    | some mt =>
      simp only [hsearch] at hplain ⊢
      obtain ⟨u, hu, hmatch, hfirst⟩ := searchFrom_some hsearch
      obtain ⟨r, a, z', hr, hrne, -, hopen, hclose, hz', hend, hover⟩ := callOf_match hmatch
      have hword : ∀ ch ∈ r, isWord ch := hr ▸ hplain mt mem_cons_self
      have htext : (Site.call name ⟨mt, z ++ u, a⟩).text = r ++ '.' :: name ++ '(' :: a ++ [')'] := by
        simp [Call.text, Site.call, hr]
      have hcall : IsCallText name (r ++ '.' :: name ++ '(' :: a ++ [')']) :=
        ⟨r, a, hrne, hword, hopen, hclose, rfl⟩
      have hafter : mt.start.after = r ++ '.' :: name ++ '(' :: a ++ [')'] ++ (z' ++ mt.stop.after) := by
        rw [hover.after, append_assoc]
      have hmoves : (mt.stop.pos == mt.start.pos) = false := by
        rw [beq_eq_false_iff_ne, hover.pos]
        simp
      have hgap : IsGap name (z ++ u) :=
        hz.isGap hname hu hcall hafter fun v w c' hvw hw hv => by simpa using hfirst v w c' hvw hw hv
      rw [hmoves] at hplain ⊢
      have hlength : mt.stop.after.length < fuel := by
        rw [hu.after, hafter] at hfuel
        simp only [length_append, length_cons] at hfuel
        omega
      have hpos : mt.stop.pos = mt.start.pos + (Site.call name ⟨mt, z ++ u, a⟩).text.length + z'.length := by
        rw [hover.pos, htext, length_append, Nat.add_assoc]
      obtain ⟨sites, last, hsites⟩ := ih hlength ⟨hz', hend⟩ hpos
        fun mt' h' => hplain mt' (mem_cons_of_mem mt h')
      refine ⟨⟨mt, z ++ u, a⟩ :: sites, last, ?_, ?_, ?_, ?_, ?_, hsites.last, ?_, hsites.placed⟩
      · rw [map_cons, hsites.found]
      · rw [map_cons, weave, hsites.text, htext, hu.after, hafter]
        simp
      · exact forall_mem_cons.mpr ⟨hgap, hsites.gap⟩
      · exact forall_mem_cons.mpr ⟨⟨hr ▸ hrne, hr ▸ hword⟩, hsites.receiver⟩
      · exact forall_mem_cons.mpr ⟨⟨hopen, hclose⟩, hsites.arguments⟩
      · rw [hu.pos, hplace, length_append, Nat.add_assoc]

theorem exists_sites_occurrences {x : Text} (hname : ')' ∉ name)
    (hplain : ∀ mt ∈ (callOf spaced name).occurrences x, ∀ ch ∈ mt.group 1, isWord ch) :
    ∃ sites last, Sites name 0 x ((callOf spaced name).occurrences x) sites last := by
  have hfuel : (Cursor.start x).after.length < 2 * x.length + 2 := by
    simp only [Cursor.start]
    omega
  exact exists_sites hname hfuel ⟨by simp, .inl rfl⟩ rfl hplain

end Geoscript.Script
