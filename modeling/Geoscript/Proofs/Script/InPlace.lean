import Geoscript.Proofs.Script.MethodCall
import Geoscript.Proofs.Text.Weave

/-! Calls are found by their places and replaced by their texts, one after the other in the whole script. A call is
replaced in its place unless its text ends with that of another one that is replaced before. -/

namespace Geoscript.Script
open List Text
variable {name f t u p old new gap last : Text}

/-! ### Calls and what is written for them -/

/-- The text of a call of a method with a plain receiver and without parentheses in its arguments. -/
def IsCallText (name t : Text) : Prop :=
  ∃ r a : Text, r ≠ [] ∧ (∀ ch ∈ r, isWord ch) ∧ '(' ∉ a ∧ ')' ∉ a ∧
    t = r ++ '.' :: name ++ '(' :: a ++ [')']

def IsWritten (f t : Text) : Prop :=
  ∃ x a : Text, '(' ∉ x ∧ ')' ∉ x ∧ '(' ∉ a ∧ ')' ∉ a ∧ t = x ++ f ++ '(' :: a ++ [')']

/-- A stand-in can be told from the method: it is longer than the dot with the name. -/
structure Distinguished (name f : Text) : Prop where
  opened : '(' ∉ name ∧ '(' ∉ f
  closed : ')' ∉ name ∧ ')' ∉ f
  dot : '.' ∉ f
  longer : name.length < f.length

variable (hd : Distinguished name f)
include hd

theorem IsCallText.closedBy (h : IsCallText name t) : ClosedBy ')' t := by
  obtain ⟨r, a, -, hr, -, ha, rfl⟩ := h
  have hr' : ')' ∉ r := fun hmem => absurd (hr _ hmem) (by decide)
  exact ⟨r ++ '.' :: name ++ '(' :: a, by simp [hr', ha, hd.closed.1], rfl⟩

theorem IsWritten.closedBy (h : IsWritten f t) : ClosedBy ')' t := by
  obtain ⟨x, a, -, hx, -, ha, rfl⟩ := h
  exact ⟨x ++ f ++ '(' :: a, by simp [hx, ha, hd.closed.2], rfl⟩

omit hd in
theorem receiver_eq_of_append {x r r' a a' : Text} (ha : '(' ∉ a) (ha' : '(' ∉ a')
    (h : x ++ (r' ++ '.' :: name ++ '(' :: a' ++ [')']) = r ++ '.' :: name ++ '(' :: a ++ [')']) :
    r = x ++ r' ∧ a' = a := by
  have h' : (x ++ r' ++ '.' :: name) ++ '(' :: (a' ++ [')']) = (r ++ '.' :: name) ++ '(' :: (a ++ [')']) := by
    simpa using h
  obtain ⟨hleft, hright⟩ := cut_eq_of_last (by simpa using ha) (by simpa using ha') h'
  exact ⟨(append_cancel_right hleft).symm, append_cancel_right hright⟩

theorem IsWritten.append_ne {y z : Text} (ht : IsWritten f t)
    (hu : IsCallText name u) : y ++ t ≠ z ++ u := by
  obtain ⟨x, a, -, -, ha, -, rfl⟩ := ht
  obtain ⟨r, a', -, -, ha', -, rfl⟩ := hu
  intro h
  have h' : (y ++ x ++ f) ++ '(' :: (a ++ [')']) = (z ++ r ++ '.' :: name) ++ '(' :: (a' ++ [')']) := by
    simpa using h
  obtain ⟨hleft, -⟩ := cut_eq_of_last (by simpa using ha') (by simpa using ha) h'
  have hsuf : '.' :: name <:+ f := by
    refine suffix_of_suffix_length_le (hleft ▸ suffix_append _ _) (suffix_append (y ++ x) f) ?_
    exact hd.longer
  exact hd.dot (hsuf.subset mem_cons_self)

theorem IsWritten.not_suffix (ht : IsWritten f t) (hu : IsCallText name u) : ¬u <:+ t := by
  rintro ⟨z, hz⟩
  exact ht.append_ne (y := []) hd hu hz.symm

/-! ### Gaps -/

def NoCall (name t : Text) : Prop :=
  ∀ u, IsCallText name u → ¬u <:+: t

/-- A gap holds no call and does not end within a word. -/
structure IsGap (name gap : Text) : Prop where
  noCall : NoCall name gap
  noWord : ∀ g ch, gap = g ++ [ch] → isWord ch = false

omit hd in
theorem IsGap.seam_of_call {x : Text} (hgap : IsGap name gap) (hp : IsCallText name p) (hold : IsCallText name old)
    (hx : x ≠ []) (hsuf : x <:+ gap) : x ++ p ≠ old := by
  obtain ⟨r', a', -, -, ha', -, rfl⟩ := hp
  obtain ⟨r, a, -, hr, ha, -, rfl⟩ := hold
  intro h
  obtain ⟨rfl, -⟩ := receiver_eq_of_append ha ha' h
  obtain ⟨y, d, rfl⟩ : ∃ y d, x = y ++ [d] := ⟨_, _, (dropLast_concat_getLast hx).symm⟩
  obtain ⟨z, hz⟩ := hsuf
  have hword := hr d (by simp)
  rw [hgap.noWord (z ++ y) d (by rw [← hz, append_assoc])] at hword
  cases hword

/-! ### One call after the other -/

/-- What becomes of a piece when the calls are replaced one after the other. -/
def settleAll (pairs : List (Text × Text)) (p : Text) : Text :=
  pairs.foldl (fun p pair => settle pair.1 pair.2 p) p

def IsEdit (name f : Text) (pair : Text × Text) : Prop :=
  IsCallText name pair.1 ∧ ∃ a : Text, '(' ∉ a ∧ ')' ∉ a ∧ pair.2 = f ++ '(' :: a ++ [')']

def IsPiece (name f p : Text) : Prop :=
  IsCallText name p ∨ IsWritten f p

theorem IsPiece.closedBy (h : IsPiece name f p) : ClosedBy ')' p := by
  rcases h with h | h
  · exact h.closedBy hd
  · exact h.closedBy hd

omit hd in
theorem IsEdit.isWritten {pair : Text × Text} {x : Text} (h : IsEdit name f pair)
    (hx : IsCallText name (x ++ pair.1)) : IsWritten f (x ++ pair.2) := by
  obtain ⟨⟨r', a', -, -, ha', -, hcall⟩, a, ha, hac, hnew⟩ := h
  obtain ⟨r, b, -, hr, hb, -, hx⟩ := hx
  rw [hcall] at hx
  obtain ⟨rfl, -⟩ := receiver_eq_of_append hb ha' hx
  have hword : ∀ ch ∈ x, isWord ch := fun ch hch => hr ch (mem_append_left r' hch)
  refine ⟨x, a, fun hmem => ?_, fun hmem => ?_, ha, hac, by simp [hnew]⟩
  · exact absurd (hword _ hmem) (by decide)
  · exact absurd (hword _ hmem) (by decide)

theorem IsPiece.settle {pair : Text × Text} (hp : IsPiece name f p) (hpair : IsEdit name f pair)
    : IsPiece name f (settle pair.1 pair.2 p) := by
  by_cases hsuf : pair.1 <:+ p
  · rcases hp with hp | hp
    · obtain ⟨x, rfl⟩ := hsuf
      rw [settle_append]
      exact .inr (hpair.isWritten hp)
    · exact absurd hsuf (hp.not_suffix hd hpair.1)
  · rwa [settle_of_not_suffix hsuf]

theorem replaceEach_weave {pairs parts : List (Text × Text)}
    (hpairs : ∀ pair ∈ pairs, IsEdit name f pair)
    (hparts : ∀ part ∈ parts, IsGap name part.1 ∧ IsPiece name f part.2) (hlast : NoCall name last) :
    replaceEach pairs (weave parts last) = weave (parts.map fun part => (part.1, settleAll pairs part.2)) last := by
  induction pairs generalizing parts with
  | nil => simp [replaceEach, settleAll]
  | cons pair pairs ih =>
    have hpair : IsEdit name f pair := hpairs pair mem_cons_self
    have hstep : replace pair.1 pair.2 (weave parts last) =
        weave (parts.map fun part => (part.1, settle pair.1 pair.2 part.2)) last := by
      refine replace_weave (hpair.1.closedBy hd) (fun part h => (hparts part h).1.noCall _ hpair.1)
        (hlast _ hpair.1) (fun part h => (hparts part h).2.closedBy hd) fun part h x hx hsuf => ?_
      obtain ⟨hgap, hcall | hwritten⟩ := hparts part h
      · exact hgap.seam_of_call hcall hpair.1 hx hsuf
      · exact hwritten.append_ne (z := []) hd hpair.1
    have hsettled : ∀ part ∈ parts.map fun part => (part.1, settle pair.1 pair.2 part.2),
        IsGap name part.1 ∧ IsPiece name f part.2 := by
      intro part h
      obtain ⟨part', h', rfl⟩ := mem_map.mp h
      exact ⟨(hparts part' h').1, (hparts part' h').2.settle hd hpair⟩
    rw [replaceEach_cons, hstep, ih (fun q hq => hpairs q (mem_cons_of_mem pair hq)) hsettled, map_map]
    rfl

theorem settleAll_written {pairs : List (Text × Text)}
    (hpairs : ∀ pair ∈ pairs, IsEdit name f pair) (hp : IsWritten f p) : settleAll pairs p = p := by
  induction pairs with
  | nil => rfl
  | cons pair pairs ih =>
    have hnot := hp.not_suffix hd (hpairs pair mem_cons_self).1
    rw [settleAll, foldl_cons, settle_of_not_suffix hnot]
    exact ih fun q hq => hpairs q (mem_cons_of_mem pair hq)

theorem settleAll_first {l₁ l₂ : List (Text × Text)} {pair : Text × Text} {x : Text}
    (hpairs : ∀ q ∈ l₁ ++ pair :: l₂, IsEdit name f q) (hx : IsCallText name (x ++ pair.1))
    (hfirst : ∀ q ∈ l₁, ¬q.1 <:+ x ++ pair.1) : settleAll (l₁ ++ pair :: l₂) (x ++ pair.1) = x ++ pair.2 := by
  induction l₁ with
  | nil =>
    rw [nil_append] at hpairs ⊢
    rw [settleAll, foldl_cons, settle_append]
    refine settleAll_written hd (fun q hq => hpairs q (mem_cons_of_mem pair hq)) ?_
    exact (hpairs pair mem_cons_self).isWritten hx
  | cons q l₁ ih =>
    rw [cons_append, settleAll, foldl_cons, settle_of_not_suffix (hfirst q mem_cons_self)]
    exact ih (fun q' hq' => hpairs q' (mem_cons_of_mem q hq'))
      fun q' hq' => hfirst q' (mem_cons_of_mem q hq')

/-! ### When all calls are replaced in their places -/

/-- A call in a text: the gap before it, its text and what is written for it. -/
structure Edit where
  gap : Text
  old : Text
  new : Text

/-- Every text that ends with the text of another one stands before it in the list, the first time it
stands there. -/
def LongestFirst (ts : List Text) : Prop :=
  ∀ l₁ t l₂, ts = l₁ ++ t :: l₂ → ∀ u ∈ ts, t <:+ u → u = t ∨ u ∈ l₁

structure Edits (name f : Text) (es : List Edit) : Prop where
  gap : ∀ e ∈ es, IsGap name e.gap
  edit : ∀ e ∈ es, IsEdit name f (e.old, e.new)
  same : ∀ e ∈ es, ∀ e' ∈ es, e.old = e'.old → e.new = e'.new
  length : ∀ e ∈ es, ∀ e' ∈ es, ∀ x, e'.old = x ++ e.old → e'.new.length ≤ x.length + e.new.length

omit hd in
theorem weave_inj {es : List Edit} {g : Edit → Text} (hlen : ∀ e ∈ es, e.new.length ≤ (g e).length)
    (h : weave (es.map fun e => (e.gap, g e)) last = weave (es.map fun e => (e.gap, e.new)) last) :
    ∀ e ∈ es, g e = e.new := by
  have hle : ∀ es : List Edit, (∀ e ∈ es, e.new.length ≤ (g e).length) →
      (weave (es.map fun e => (e.gap, e.new)) last).length ≤ (weave (es.map fun e => (e.gap, g e)) last).length := by
    intro es hlen
    induction es with
    | nil => exact Nat.le_refl _
    | cons e es ih =>
      have := ih fun e' h' => hlen e' (mem_cons_of_mem e h')
      have := hlen e mem_cons_self
      simp only [map_cons, weave, length_append]
      omega
  induction es with
  | nil => exact forall_mem_nil _
  | cons e es ih =>
    have hrest : ∀ e' ∈ es, e'.new.length ≤ (g e').length := fun e' h' => hlen e' (mem_cons_of_mem e h')
    simp only [map_cons, weave, append_assoc, append_cancel_left_eq] at h
    have hpiece : (g e).length = e.new.length := by
      have hsum := congrArg length h
      have := hle es hrest
      have := hlen e mem_cons_self
      simp only [length_append] at hsum
      omega
    obtain ⟨hhead, htail⟩ := append_inj h hpiece
    exact forall_mem_cons.mpr ⟨hhead, ih hrest htail⟩

omit hd in
theorem mem_or_eq_of_cut {ts l₁ l₂ m₁ m₂ : List Text} (hl : ts = l₁ ++ t :: l₂) (hm : ts = m₁ ++ u :: m₂)
    (hnot : t ∉ m₁) : u = t ∨ u ∈ l₁ := by
  rcases cut_or (hl.symm.trans hm) with ⟨mid, rfl, -⟩ | ⟨mid, rfl, hmid⟩
  · exact .inr (by simp)
  · cases mid with
    | nil => exact .inl (cons.inj hmid).1.symm
    | cons d mid =>
      obtain ⟨rfl, -⟩ := cons.inj hmid
      simp at hnot

omit hd in
theorem exists_first_suffix {es : List Edit} {e : Edit} (h : e ∈ es) :
    ∃ l₁ d l₂ x, es = l₁ ++ d :: l₂ ∧ e.old = x ++ d.old ∧ ∀ d' ∈ l₁, ¬d'.old <:+ e.old := by
  have hsome : (es.find? fun d => d.old.isSuffixOf e.old).isSome := by
    rw [find?_isSome]
    exact ⟨e, h, isSuffixOf_iff_suffix.mpr (suffix_refl _)⟩
  obtain ⟨d, hd⟩ := Option.isSome_iff_exists.mp hsome
  obtain ⟨hsuf, l₁, l₂, rfl, hfirst⟩ := find?_eq_some_iff_append.mp hd
  obtain ⟨x, hx⟩ := isSuffixOf_iff_suffix.mp hsuf
  refine ⟨l₁, d, l₂, x, rfl, hx.symm, fun d' hd' hsuf' => ?_⟩
  simpa [isSuffixOf_iff_suffix.mpr hsuf'] using hfirst d' hd'

theorem Edits.settleAll_eq {l₁ l₂ : List Edit} {d e : Edit} {x : Text}
    (hes : Edits name f (l₁ ++ d :: l₂)) (he : e ∈ l₁ ++ d :: l₂) (hx : e.old = x ++ d.old)
    (hfirst : ∀ d' ∈ l₁, ¬d'.old <:+ e.old) :
    settleAll ((l₁ ++ d :: l₂).map fun e => (e.old, e.new)) e.old = x ++ d.new := by
  have hcall := (hes.edit e he).1
  have hpairs : ∀ q ∈ (l₁ ++ d :: l₂).map fun e => (e.old, e.new), IsEdit name f q :=
    forall_mem_map.mpr hes.edit
  simp only [hx] at hcall hfirst ⊢
  rw [map_append, map_cons] at hpairs ⊢
  exact settleAll_first hd hpairs hcall (forall_mem_map.mpr hfirst)

theorem Edits.settleAll_iff {es : List Edit} (hes : Edits name f es) :
    (∀ e ∈ es, settleAll (es.map fun e => (e.old, e.new)) e.old = e.new) ↔ LongestFirst (es.map Edit.old) := by
  constructor
  · intro hall l₁ t l₂ hcut u hu hsuf
    obtain ⟨e, he, rfl⟩ := mem_map.mp hu
    obtain ⟨m₁, d, m₂, x, rfl, hx, hfirst⟩ := exists_first_suffix he
    have hnew := (hes.settleAll_eq hd he hx hfirst).symm.trans (hall e he)
    obtain ⟨-, a, ha, -, hdnew⟩ := hes.edit d (by simp)
    obtain ⟨-, b, hb, -, henew⟩ := hes.edit e he
    simp only at hdnew henew
    have hcut' : (x ++ f) ++ '(' :: (a ++ [')']) = f ++ '(' :: (b ++ [')']) := by
      rw [hdnew, henew] at hnew
      simpa using hnew
    obtain ⟨hxf, -⟩ := cut_eq_of_last (by simpa using hb) (by simpa using ha) hcut'
    obtain rfl := append_left_eq_self.mp hxf
    have hmap : (m₁ ++ d :: m₂).map Edit.old = m₁.map Edit.old ++ e.old :: m₂.map Edit.old := by
      simp [hx]
    refine mem_or_eq_of_cut hcut hmap fun hmem => ?_
    obtain ⟨d', hd', rfl⟩ := mem_map.mp hmem
    exact hfirst d' hd' hsuf
  · intro hlongest e he
    obtain ⟨m₁, d, m₂, x, rfl, hx, hfirst⟩ := exists_first_suffix he
    have hsame : e.old = d.old ∨ e.old ∈ m₁.map Edit.old :=
      hlongest _ _ (m₂.map Edit.old) (by simp) _ (mem_map_of_mem he) ⟨x, hx.symm⟩
    rcases hsame with hsame | hmem
    · rw [hes.settleAll_eq hd he hx hfirst, hes.same e he d (by simp) hsame]
      rw [hsame] at hx
      rw [append_left_eq_self.mp hx.symm, nil_append]
    · obtain ⟨d', hd', heq⟩ := mem_map.mp hmem
      exact absurd (heq ▸ suffix_refl _) (hfirst d' hd')

theorem Edits.replaceEach_eq_iff {es : List Edit} (hes : Edits name f es)
    (hlast : NoCall name last) :
    replaceEach (es.map fun e => (e.old, e.new)) (weave (es.map fun e => (e.gap, e.old)) last) =
        weave (es.map fun e => (e.gap, e.new)) last ↔ LongestFirst (es.map Edit.old) := by
  have hparts : ∀ part ∈ es.map fun e => (e.gap, e.old), IsGap name part.1 ∧ IsPiece name f part.2 :=
    forall_mem_map.mpr fun e he => ⟨hes.gap e he, .inl (hes.edit e he).1⟩
  rw [replaceEach_weave hd (forall_mem_map.mpr hes.edit) hparts hlast, map_map, ← hes.settleAll_iff hd]
  constructor
  · refine weave_inj fun e he => ?_
    obtain ⟨m₁, d, m₂, x, rfl, hx, hfirst⟩ := exists_first_suffix he
    rw [hes.settleAll_eq hd he hx hfirst, length_append]
    exact hes.length d (by simp) e he x hx
  · intro hall
    congr 1
    exact map_congr_left fun e he => by simp [hall e he]

end Geoscript.Script
