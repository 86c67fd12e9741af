import Geoscript.Proofs.Script.Grouping
import Geoscript.Proofs.Script.MethodRewrite

/-! Receivers, texts and arguments of calls come from a scan back from the dot, a count of parentheses behind it and a
search. The three agree match by match: `StandsAt` says what stands at the dot. -/

namespace Geoscript.Script
open List Text Pattern
variable {extra name t : Text} {spaced : Bool} {m : Match} {found : List Match} {rs : List Text}

/-- A call belongs to a match: its text is put together of its receiver, the name and arguments without parentheses,
and name and arguments stand behind the dot of the match. -/
structure StandsAt (name t : Text) (m : Match) (c : Call) : Prop where
  text : c.text = c.receiver ++ '.' :: name ++ '(' :: c.arguments ++ [')']
  not_open : '(' ∉ c.arguments
  not_close : ')' ∉ c.arguments
  place : ∃ front rest, t = front ++ '.' :: name ++ '(' :: c.arguments ++ ')' :: rest ∧ dotOf m = front.length

theorem not_paren_of_isPlain (h : isPlain name) : '(' ∉ name ∧ ')' ∉ name := by
  rw [isPlain, all_eq_true] at h
  exact ⟨fun hmem => absurd (h _ hmem) (by decide), fun hmem => absurd (h _ hmem) (by decide)⟩

/-- Behind the dot of a match, the scan stops at the first closing parenthesis, wherever the match stops. -/
theorem exists_standsAt (hname : isPlain name) (hm : m ∈ (callOf spaced name).occurrences t) :
    ∃ tail, callAfter t (dotOf m) = .ok tail ∧ ∀ r, StandsAt name t m ⟨r, tail⟩ := by
  obtain ⟨u, depth, moving, hu, hmatch⟩ := mem_occurrences hm
  obtain ⟨r, a, z, hr, -, -, hopen, hclose, -, -, hover⟩ := callOf_match hmatch
  have hparen := not_paren_of_isPlain hname
  have htext : t = u ++ (r ++ '.' :: (name ++ '(' :: a ++ [')'])) ++ (z ++ m.stop.after) := by
    have hafter := hu.after
    rw [hover.after] at hafter
    simpa [Cursor.start] using hafter
  have hdot : dotOf m = u.length + r.length := by
    rw [dotOf, hr, hu.pos]
    simp [Cursor.start]
  refine ⟨name ++ '(' :: a ++ [')'], ?_, fun r' => ?_⟩
  · rw [hdot, htext]
    exact callAfter_eq hparen hopen hclose
  · have harguments : Call.arguments ⟨r', name ++ '(' :: a ++ [')']⟩ = a := Site.arguments_call ⟨m, [], a⟩ hparen.1
    refine ⟨?_, by rwa [harguments], by rwa [harguments], u ++ r, z ++ m.stop.after, ?_, ?_⟩
    · rw [harguments]
      simp [Call.text]
    · rw [harguments, htext]
      simp
    · simp [hdot]

theorem mapM_callAfter (hname : isPlain name) (hfound : ∀ m ∈ found, m ∈ (callOf spaced name).occurrences t)
    (h : Forall₂ (fun m r => receiverOf t m = .ok r) found rs) :
    ∃ tails, found.mapM (fun m => callAfter t (dotOf m)) = .ok tails ∧
      (zipWith Call.mk rs tails).map Call.receiver = rs ∧ Forall₂ (StandsAt name t) found (zipWith Call.mk rs tails) := by
  induction h with
  | nil => exact ⟨[], rfl, rfl, .nil⟩
  | @cons m r found rs hr h ih =>
    rw [forall_mem_cons] at hfound
    obtain ⟨tail, htail, hstands⟩ := exists_standsAt hname hfound.1
    obtain ⟨tails, htails, hreceivers, hall⟩ := ih hfound.2
    refine ⟨tail :: tails, ?_, ?_, .cons (hstands r) hall⟩
    · rw [mapM_cons, htail, htails]
      rfl
    · rw [zipWith_cons_cons, map_cons, hreceivers]

/-- Whenever the receivers of all calls are found, so are their texts and arguments, one for every match, and the three
of each match belong together. -/
theorem methodCalls_aligned (hextra : spacing? extra = some spaced) (hname : isPlain name)
    (h : callReceivers extra name t = .ok rs) :
    ∃ found calls, callMatches extra name t = .ok found ∧ methodCalls extra name t = .ok calls ∧
      calls.map Call.receiver = rs ∧ Forall₂ (StandsAt name t) found calls := by
  have hfound : callMatches extra name t = .ok ((callOf spaced name).occurrences t) := by
    rw [callMatches, hextra, hname]
  rw [callReceivers, hfound] at h
  have hreceivers : ((callOf spaced name).occurrences t).mapM (receiverOf t) = .ok rs := h
  obtain ⟨tails, htails, hmap, hall⟩ := mapM_callAfter hname (fun _ => id) (forall₂_of_mapM_ok hreceivers)
  refine ⟨_, _, hfound, ?_, hmap, hall⟩
  rw [methodCalls, hfound]
  show (do
    let receivers ← ((callOf spaced name).occurrences t).mapM (receiverOf t)
    let tails ← ((callOf spaced name).occurrences t).mapM fun m => callAfter t (dotOf m)
    return zipWith Call.mk receivers tails) = _
  rw [hreceivers, htails]
  rfl

theorem closing_parentheses_aligned : ∃ found calls, callMatches [] "map".toList "f(a.map(b)).c".toList = .ok found ∧
      methodCalls [] "map".toList "f(a.map(b)).c".toList = .ok calls ∧ calls.map Call.receiver = ["a".toList] ∧
      Forall₂ (StandsAt "map".toList "f(a.map(b)).c".toList) found calls :=
  methodCalls_aligned rfl (by decide) (by decide +kernel)

end Geoscript.Script
