import Geoscript.Proofs.Text.Fields
import Geoscript.Text.Blank
import Mathlib.Data.List.DropRight
import Mathlib.Data.List.TakeWhile

/-! Ink: what a text is without its blanks. Trimming keeps it, and with which character a line begins or ends is read
off it (`beginsWith_iff`, `endsWith_iff`). -/

namespace Geoscript.Text
open List
variable {c : Char} {t line : Text}

def Blank (t : Text) : Prop :=
  ∀ c ∈ t, isBlank c

instance : DecidablePred Blank := fun _ => decidable_of_iff _ all_eq_true

def ink (t : Text) : Text :=
  without isBlank t

/-- A line whose first character is the given one, blanks aside. -/
def BeginsWith (c : Char) (line : Text) : Prop :=
  ∃ blanks rest, line = blanks ++ c :: rest ∧ Blank blanks

/-- A line whose last character is the given one, blanks aside. -/
def EndsWith (c : Char) (line : Text) : Prop :=
  ∃ front blanks, line = front ++ c :: blanks ∧ Blank blanks

theorem ink_append (s t : Text) : ink (s ++ t) = ink s ++ ink t :=
  filter_append ..

theorem ink_cons (hc : isBlank c = false) (t : Text) : ink (c :: t) = c :: ink t := by
  simp [ink, without, hc]

theorem ink_eq_nil_iff : ink t = [] ↔ Blank t := by
  simp [ink, without, Blank]

theorem ink_reverse (t : Text) : ink t.reverse = (ink t).reverse :=
  filter_reverse ..

theorem ink_unlines (ls : List Text) : ink (unlines ls) = (ls.map ink).flatten := by
  induction ls with
  | nil => rfl
  | cons l ls ih =>
    cases ls with
    | nil => simp [unlines, join]
    | cons m ls =>
      have hbreak : ink ['\n'] = [] := rfl
      have hcut : unlines (l :: m :: ls) = l ++ ['\n'] ++ unlines (m :: ls) := rfl
      rw [hcut, ink_append, ink_append, hbreak, ih, append_nil]
      rfl

theorem ink_flatten (ls : List Text) : ink ls.flatten = (ls.map ink).flatten := by
  induction ls with
  | nil => rfl
  | cons l ls ih => rw [flatten_cons, ink_append, ih, map_cons, flatten_cons]

theorem ink_unlines_map {h : List Text → Text} (hink : ∀ g, ink (h g) = ink g.flatten) (groups : List (List Text)) :
    ink (unlines (groups.map h)) = (groups.flatten.map ink).flatten := by
  have hall : ink ∘ h = ink ∘ flatten := funext hink
  rw [ink_unlines, map_map, hall, ← map_map, ← ink_flatten, ← flatten_flatten, ink_flatten]

/-! ### Trimming -/

theorem ink_trimStart (t : Text) : ink (trimStart t) = ink t := by
  have hblank : ink (t.takeWhile isBlank) = [] := ink_eq_nil_iff.mpr fun c hc => mem_takeWhile_imp hc
  have hink := ink_append (t.takeWhile isBlank) (t.dropWhile isBlank)
  rw [takeWhile_append_dropWhile, hblank] at hink
  exact hink.symm

theorem ink_trimEnd (t : Text) : ink (trimEnd t) = ink t := by
  have hstart := ink_trimStart t.reverse
  rw [ink_reverse] at hstart
  rw [trimEnd, ink_reverse, ← reverse_reverse (ink t), ← hstart]
  rfl

theorem ink_trim (t : Text) : ink (trim t) = ink t :=
  (ink_trimEnd _).trans (ink_trimStart t)

theorem ink_unlines_trimEnd (t : Text) : (((lines t).map trimEnd).map ink).flatten = ink t := by
  have hink : ink ∘ trimEnd = ink := funext ink_trimEnd
  rw [map_map, hink, ← ink_unlines]
  exact congrArg ink (join_fields '\n' t)

theorem trimEnd_eq_nil_iff : trimEnd t = [] ↔ Blank t :=
  rdropWhile_eq_nil_iff

theorem trimEnd_subset (t : Text) : trimEnd t ⊆ t :=
  (List.rdropWhile_prefix isBlank t).subset

theorem trim_subset (t : Text) : trim t ⊆ t := fun _ hc =>
  dropWhile_subset isBlank (trimEnd_subset _ hc)

theorem head?_trimStart (t : Text) : (trimStart t).head? = (ink t).head? := by
  rw [trimStart, ← find?_not_eq_head?_dropWhile, ink, without, head?_filter]

theorem head?_trim (t : Text) : (trim t).head? = (ink t).head? := by
  cases hstart : trimStart t with
  | nil =>
    rw [trim, hstart, ← ink_trimStart, hstart]
    rfl
  | cons c rest =>
    have hhead : (ink t).head? = some c := by rw [← head?_trimStart, hstart]; rfl
    have hc : isBlank c = false := by
      have hmem := mem_of_mem_head? hhead
      rw [ink, without, mem_filter, Bool.not_eq_true'] at hmem
      exact hmem.2
    obtain ⟨back, hback⟩ := rdropWhile_prefix isBlank (c :: rest)
    have hne : trimEnd (c :: rest) ≠ [] := fun h => by simpa [hc] using trimEnd_eq_nil_iff.mp h c
    obtain ⟨d, more, hmore⟩ := exists_cons_of_ne_nil hne
    change trimEnd (c :: rest) ++ back = _ at hback
    rw [hmore, cons_append, cons.injEq] at hback
    rw [trim, hstart, hmore, hhead, hback.1]
    rfl

theorem trim_eq_nil_iff : trim t = [] ↔ Blank t := by
  rw [← head?_eq_none_iff, head?_trim, head?_eq_none_iff, ink_eq_nil_iff]

theorem getLast?_trimEnd (t : Text) : (trimEnd t).getLast? = (ink t).getLast? := by
  rw [trimEnd, getLast?_reverse, ← reverse_reverse (ink t), getLast?_reverse, ← ink_reverse]
  exact head?_trimStart t.reverse

theorem trim_append_left {a : Text} (ha : Blank a) (t : Text) : trim (a ++ t) = trim t := by
  rw [trim, trimStart, dropWhile_append_of_pos ha]
  rfl

theorem trimEnd_append_cons (hc : isBlank c = false) (a b : Text) : trimEnd (a ++ c :: b) = a ++ c :: trimEnd b := by
  have hreverse : (a ++ c :: b).reverse = b.reverse ++ c :: a.reverse := by simp
  rw [trimEnd, hreverse, dropWhile_append]
  split
  · next hnil => simp [trimEnd, isEmpty_iff.mp hnil, hc]
  · simp [trimEnd]

theorem trimStart_cons (hc : isBlank c = false) (t : Text) : trimStart (c :: t) = c :: t :=
  dropWhile_cons_of_neg (by simp [hc])

theorem trim_around {a b : Text} (ha : Blank a) (hb : Blank b) (hne : t ≠ []) (hfirst : ∀ c ∈ t.head?, isBlank c = false)
    (hlast : ∀ c ∈ t.getLast?, isBlank c = false) : trim (a ++ t ++ b) = t := by
  have hstart : trimStart (t ++ b) = t ++ b := by
    obtain ⟨c, t, rfl⟩ := exists_cons_of_ne_nil hne
    exact trimStart_cons (hfirst c rfl) _
  rw [append_assoc, trim_append_left ha, trim, hstart]
  obtain ⟨front, d, rfl⟩ := eq_nil_or_concat' t |>.resolve_left hne
  have hd : isBlank d = false := hlast d (by simp)
  rw [append_assoc, singleton_append, trimEnd_append_cons hd, trimEnd_eq_nil_iff.mpr hb]

/-! ### The ends of a line -/

theorem beginsWith_iff (hc : isBlank c = false) : BeginsWith c line ↔ (ink line).head? = some c := by
  constructor
  · rintro ⟨blanks, rest, rfl, hblanks⟩
    rw [ink_append, ink_eq_nil_iff.mpr hblanks, ink_cons hc]
    rfl
  · intro h
    obtain ⟨rest, hrest⟩ := head?_eq_some_iff.mp h
    obtain ⟨blanks, back, hline, hblanks, -, -⟩ := filter_eq_cons_iff.mp hrest
    exact ⟨blanks, back, hline, fun d hd => by simpa using hblanks d hd⟩

theorem endsWith_iff (hc : isBlank c = false) : EndsWith c line ↔ (ink line).getLast? = some c := by
  constructor
  · rintro ⟨front, blanks, rfl, hblanks⟩
    rw [ink_append, ink_cons hc, ink_eq_nil_iff.mpr hblanks, getLast?_append]
    rfl
  · intro h
    obtain ⟨rest, hrest⟩ := getLast?_eq_some_iff.mp h
    obtain ⟨a, b, rfl, -, hb⟩ := filter_eq_append_iff.mp hrest
    obtain ⟨front, blanks, rfl, -, -, hblanks⟩ := filter_eq_cons_iff.mp hb
    exact ⟨a ++ front, blanks, (append_assoc ..).symm, ink_eq_nil_iff.mp hblanks⟩

theorem EndsWith.ink_ne_nil (hc : isBlank c = false) (h : EndsWith c line) : ink line ≠ [] := by
  rintro hink
  rw [endsWith_iff hc, hink] at h
  cases h

end Geoscript.Text
