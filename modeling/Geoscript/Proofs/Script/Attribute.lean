import Geoscript.Proofs.Script.Quote
import Geoscript.Script.Object

/-! Attributes in quotes are found but not rewritten: a statement whose dots are all in one quoted piece stays as it
is. -/

namespace Geoscript.Script
open List Text Pattern
variable {c : Cursor} {m : Match} {depth : Nat} {moving : Bool} {a s t : Text}

/-! ### What is found -/

theorem attributeUse_text (h : m ∈ attributeUse.occurrences t) : ∃ x d, m.text = x ++ [d] ∧ nameSet.has d := by
  obtain ⟨u, depth, moving, -, hm⟩ := mem_occurrences h
  obtain ⟨-, ⟨m₁, ⟨n₁, -, -, hover₁, -⟩, m₂, ⟨hover₂, -⟩, n₂, hlen, hn₂, hover₃, -⟩⟩ := reads_of_matchAt hm
  have hne : n₂ ≠ [] := length_pos_iff.mp hlen
  obtain ⟨y, d, rfl⟩ : ∃ y d, n₂ = y ++ [d] := ⟨_, _, (dropLast_concat_getLast hne).symm⟩
  refine ⟨n₁ ++ "." ++ y, d, ?_, hn₂ d (by simp)⟩
  rw [Match.text, ((hover₁.trans hover₂).trans hover₃).upTo, append_assoc, append_assoc, append_assoc]

theorem name_and_next {calls : Nat → Matcher} {caps : Captures} {k : Continuation} {e : Ending}
    (h : runMatcher .forward nameSet .longest 1 none c caps
      (fun c' caps' => matcher calls .forward (.one .inLine) c' caps' k) = some e)
    (hk : ∀ c' : Cursor, c.pos < c'.pos → (k c' caps).isSome) (hline : '\n' ∉ c.after)
    (hlast : ∀ x d, c.after = x ++ [d] → nameSet.has d = false) :
    ∃ n d c', (∀ ch ∈ n, nameSet.has ch) ∧ nameSet.has d = false ∧ c.Over (n ++ [d]) c' ∧ k c' caps = some e := by
  obtain ⟨n, rest, hafter, hn, hstop, hnext⟩ := run_of_runLongest h
  rw [Nat.zero_add] at hstop
  split at hstop
  · cases hstop
  · cases rest with
    | nil => cases hstop
    | cons d rest =>
      have hd : nameSet.has d = false := by
        rw [← Bool.not_eq_true]
        intro hd
        have hnone := hnext d rest rfl hd rfl
        rw [if_neg (by omega)] at hnone
        dsimp only at hnone
        cases rest with
        | nil => exact absurd (hlast n d hafter) (by simp [hd])
        | cons d' rest =>
          have hd' : CharSet.inLine.has d' := by
            have hne : d' ≠ '\n' := by
              rintro rfl
              exact hline (by simp [hafter])
            simp [CharSet.has, CharSet.inLine, CharClass.covers, hne]
          rw [matcher_one _ _ rfl, if_pos hd'] at hnone
          have hsome := hk ⟨d' :: d :: (n.reverse ++ c.before), rest, c.pos + (0 + n.length + 1) + 1⟩
            (by simp only; omega)
          rw [hnone] at hsome
          cases hsome
      dsimp only at hstop
      rw [matcher_one _ _ rfl] at hstop
      split at hstop
      · refine ⟨n, d, _, hn, hd, ?_, hstop⟩
        exact ⟨by simp [hafter], by simp, by simp [Nat.add_assoc]⟩
      · cases hstop

theorem attributeUseAndNext_eq : attributeUseAndNext =
    .seq (.plus nameSet) (.seq (.lit ['.']) (.seq (.plus nameSet) (.one .inLine))) :=
  rfl

theorem attributeUseAndNext_over (h : attributeUseAndNext.matchAt depth moving c = some m) (hline : '\n' ∉ c.after)
    (hlast : ∀ x d, c.after = x ++ [d] → nameSet.has d = false) :
    ∃ n₁ n₂ d, (∀ ch ∈ n₁, nameSet.has ch) ∧ (∀ ch ∈ n₂, nameSet.has ch) ∧
      nameSet.has d = false ∧ c.Over (n₁ ++ '.' :: (n₂ ++ [d])) m.stop := by
  unfold matchAt at h
  split at h
  · next e he =>
    cases h
    rw [attributeUseAndNext_eq, matcher_seq] at he
    obtain ⟨n₁, c₁, -, hn₁, hover₁, hdot⟩ := run_of_runMatcher he
    rw [matcher_seq, matcher_lit] at hdot
    split at hdot
    · next hpre =>
      obtain ⟨rest, hrest⟩ := isPrefixOf_iff_prefix.mp hpre
      have hover : c.Over (n₁ ++ ['.']) ⟨['.'].reverse ++ c₁.before, c₁.after.drop ['.'].length,
          c₁.pos + ['.'].length⟩ := hover₁.trans ⟨by rw [← hrest]; rfl, rfl, rfl⟩
      have hafter := hover.after
      have hlen : c₁.pos + ['.'].length = c.pos + (n₁ ++ ['.']).length := hover.pos
      rw [matcher_seq] at hdot
      obtain ⟨n₂, d, c', hn₂, hd, hover₂, hend⟩ := name_and_next hdot
        (fun c' hc' => by
          have hne : (c'.pos == c.pos) = false := beq_false_of_ne (by simp only at hc'; omega)
          simp [hne])
        (fun hmem => hline (hafter ▸ mem_append_right _ hmem))
        (fun x d hx => hlast (n₁ ++ ['.'] ++ x) d (by rw [hafter, hx]; simp))
      split at hend
      · cases hend
      · cases hend
        exact ⟨n₁, n₂, d, hn₁, hn₂, hd, by simpa using hover.trans hover₂⟩
    · cases hdot
  · cases h

theorem attributeLine_text (hline : '\n' ∉ t) (h : m ∈ attributeLine.occurrences t) : m.text = t := by
  obtain ⟨u, depth, moving, hu, hm⟩ := mem_occurrences h
  obtain ⟨-, m₁, ⟨rfl, hstart⟩, m₂, hahead, m₃, hnotAhead, m₄, ⟨v, -, -, hv, -⟩, hend, hstop⟩ :=
    reads_of_matchAt hm
  have hnil : u = [] := by
    cases hrev : u.reverse with
    | nil => simpa using hrev
    | cons d x =>
      have hd : d ∈ t := by
        have hmem : d ∈ u := mem_reverse.mp (by rw [hrev]; simp)
        have hafter : t = u ++ m.start.after := hu.after
        rw [hafter]
        exact mem_append_left _ hmem
      rw [hu.before, hrev] at hstart
      obtain rfl : d = '\n' := by simpa using hstart
      exact absurd hd hline
  subst hnil
  have hover : m.start.Over v m.stop := by
    have hm₃ : m₃.1 = m.start := (show m₃.1 = m₂.1 from hnotAhead).trans hahead
    have hm₄ : m.stop = m₄.1 := congrArg Prod.fst hend
    rwa [hm₃, ← hm₄] at hv
  have hafter : t = v ++ m.stop.after := by
    have hover := hu.eq_of_nil ▸ hover
    exact hover.after
  have hnil : m.stop.after = [] := by
    cases hrest : m.stop.after with
    | nil => rfl
    | cons d rest =>
      have hm₄ : m₄.1 = m.stop := (congrArg Prod.fst hend).symm
      rw [hm₄, hrest] at hstop
      obtain rfl : d = '\n' := by simpa using hstop
      exact absurd (by rw [hafter, hrest]; simp) hline
  rw [Match.text, hover.upTo, hafter, hnil, append_nil]

/-- What is looked for in a line of one quoted piece: a name, a dot, a name and one character more. -/
theorem mem_attributesOf {f : Text} (hline : '\n' ∉ t) (hlast : ∃ x d, t = x ++ [d] ∧ nameSet.has d = false)
    (h : f ∈ attributesOf t) : ∃ n₁ n₂ d, '"' ∉ n₁ ∧ '"' ∉ n₂ ∧ f = n₁ ++ '.' :: (n₂ ++ [d]) := by
  obtain ⟨⟨plain, extended⟩, hzip, rfl⟩ := mem_map.mp h
  obtain ⟨hplain, hextended⟩ := of_mem_zip hzip
  obtain ⟨m, hm, rfl⟩ := mem_map.mp hplain
  obtain ⟨x, d', hx, hd'⟩ := attributeUse_text hm
  obtain ⟨m', hm', rfl⟩ := mem_map.mp hextended
  obtain ⟨u, depth, moving, hu, hmatch⟩ := mem_occurrences hm'
  have hafter : t = u ++ m'.start.after := hu.after
  obtain ⟨n₁, n₂, d, hn₁, hn₂, hd, hover⟩ := attributeUseAndNext_over hmatch
    (fun hmem => hline (hafter ▸ mem_append_right _ hmem))
    (fun y d hy => by
      obtain ⟨z, e, hz, he⟩ := hlast
      rw [hafter, hy, ← append_assoc] at hz
      rwa [(cons.inj (append_inj_right' hz rfl)).1])
  have htext : m'.text = n₁ ++ '.' :: (n₂ ++ [d]) := hover.upTo
  have hne : m.text ≠ m'.text := by
    rw [hx, htext]
    intro heq
    have heq : x ++ [d'] = (n₁ ++ '.' :: n₂) ++ [d] := by
      simpa using heq
    have hlast : [d'] = [d] := append_inj_right' heq rfl
    rw [(cons.inj hlast).1, hd] at hd'
    cases hd'
  have hquote : ∀ {n : Text} {drop : Char → Bool}, (∀ ch ∈ n, nameSet.has ch) → '"' ∉ without drop n := by
    intro n drop hn hmem
    exact absurd (hn _ (mem_filter.mp hmem).1) (by decide)
  have hopen : d ≠ '[' := by
    rintro rfl
    exact absurd hd (by decide)
  have hclose : d ≠ ']' := by
    rintro rfl
    exact absurd hd (by decide)
  refine ⟨without (fun c => c == '[' || c == ']') n₁, without (fun c => c == '[' || c == ']') n₂, d,
    hquote hn₁, hquote hn₂, ?_⟩
  dsimp only
  rw [if_neg hne, htext]
  simp [without, hopen, hclose]

/-! ### The pass -/

theorem convertAttribute_quoted {n₁ n₂ : Text} {d : Char} (ha : '"' ∉ a ∧ '\'' ∉ a ∧ '.' ∉ a) (hs : Quotable s)
    (hn₁ : '"' ∉ n₁) (hn₂ : '"' ∉ n₂) :
    convertAttribute (a ++ '"' :: (s ++ ['"', ';'])) (a ++ '"' :: (s ++ ['"', ';'])) (n₁ ++ '.' :: (n₂ ++ [d])) =
      .ok (a ++ '"' :: (s ++ ['"', ';'])) := by
  have hkept : ∀ x new : Text, x.length ≤ 1 → replaceOutsideQuotes (a ++ '"' :: (s ++ ['"', ';']))
      (a ++ '"' :: (s ++ ['"', ';'])) (n₁ ++ '.' :: n₂ ++ x) new = a ++ '"' :: (s ++ ['"', ';']) :=
    fun x new hx => replaceOutsideQuotes_eq_self ha hs (by decide) (by simp) (by simp [hn₁, hn₂]) hx
  have hfound : n₁ ++ '.' :: (n₂ ++ [d]) = n₁ ++ '.' :: n₂ ++ [d] := by simp
  have hword : (n₁ ++ '.' :: n₂ ++ [d]).dropLast = n₁ ++ '.' :: n₂ := dropLast_concat
  obtain ⟨x, y, rest, hfields⟩ := @fields_of_mem '.' (n₁ ++ '.' :: n₂) (by simp)
  unfold convertAttribute
  rw [hfound, hword]
  dsimp only
  rw [hfields]
  split
  · rfl
  · split
    · rfl
    · split
      · rw [hkept [d] _ (by simp)]
      · have hplain := fun new => hkept [] new (by simp)
        simp only [append_nil] at hplain
        exact congrArg Except.ok (hplain _)

theorem foldlM_eq_self {α : Type} {f : Text → α → Except Fault Text} {xs : List α} (h : ∀ x ∈ xs, f t x = .ok t) :
    xs.foldlM f t = .ok t := by
  induction xs with
  | nil => rfl
  | cons x xs ih =>
    rw [forall_mem_cons] at h
    rw [foldlM_cons, h.1]
    exact ih h.2

theorem convertAttributes_quoted (ha : Quotable a) (hdot : '.' ∉ a) (hs : Quotable s) :
    convertAttributes (a ++ '"' :: (s ++ ['"', ';'])) = .ok (a ++ '"' :: (s ++ ['"', ';'])) := by
  have hline : '\n' ∉ a ++ '"' :: (s ++ ['"', ';']) := by
    simp [ha.2.2.2, hs.2.2.2]
  have hlast : ∃ x d, a ++ '"' :: (s ++ ['"', ';']) = x ++ [d] ∧ nameSet.has d = false :=
    ⟨a ++ '"' :: (s ++ ['"']), ';', by simp, by decide⟩
  refine foldlM_eq_self fun line hfound => ?_
  obtain ⟨m, hm, rfl⟩ := mem_map.mp (mem_mergeSort.mp hfound)
  rw [attributeLine_text hline hm]
  split
  · rfl
  · refine foldlM_eq_self fun f hf => ?_
    obtain ⟨n₁, n₂, d, hn₁, hn₂, rfl⟩ := mem_attributesOf hline hlast hf
    exact convertAttribute_quoted ⟨ha.1, ha.2.1, hdot⟩ hs hn₁ hn₂

end Geoscript.Script
