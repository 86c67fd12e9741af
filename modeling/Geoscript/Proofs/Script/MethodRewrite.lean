import Geoscript.Proofs.Script.CallPlaces
import Geoscript.Proofs.Script.Parens

/-! The pass for a method puts its stand-in in the place of every call, exactly if every call whose text ends with
that of another one is replaced before it. -/

namespace Geoscript.Script
open List Text Pattern
variable {name a rest x last : Text} {place : Nat} {m : Method}

theorem mapM_ok {α β : Type} {g : α → Except Fault β} {h : α → β} {l : List α} (hg : ∀ a ∈ l, g a = .ok (h a)) :
    l.mapM g = .ok (l.map h) := by
  induction l with
  | nil => rfl
  | cons a l ih =>
    rw [mapM_cons, hg a mem_cons_self, ih fun b hb => hg b (mem_cons_of_mem a hb)]
    rfl

/-! ### The text of a call -/

theorem suffixFrom_append (pre t : Text) : suffixFrom (pre ++ t) (pre.length : Int) = .ok t := by
  have hnonneg : ¬(pre.length : Int) < 0 := by
    omega
  rw [suffixFrom, if_neg hnonneg]
  simp

theorem callAfter_eq {pre r : Text} (hname : '(' ∉ name ∧ ')' ∉ name) (hopen : '(' ∉ a) (hclose : ')' ∉ a) :
    callAfter (pre ++ (r ++ '.' :: (name ++ '(' :: a ++ [')'])) ++ rest) (pre.length + r.length : Int) =
      .ok (name ++ '(' :: a ++ [')']) := by
  have hcut : pre ++ (r ++ '.' :: (name ++ '(' :: a ++ [')'])) ++ rest =
      (pre ++ r ++ ['.']) ++ (name ++ '(' :: (a ++ ')' :: rest)) := by
    simp
  have hdot : (pre.length + r.length : Int) + 1 = ((pre ++ r ++ ['.']).length : Nat) := by
    simp only [length_append, length_singleton]
    omega
  have ha : Unparenthesized a := ⟨hopen, hclose⟩
  rw [callAfter, hcut, hdot, suffixFrom_append, append_assoc, cons_append]
  exact ha.balanced.throughCall_eq hname rest

theorem receiverOf_plain {mt : Match} (h : ∀ ch ∈ mt.group 1, isWord ch) : receiverOf x mt = .ok (mt.group 1) := by
  have hcount : ∀ c, isWord c = false → (mt.group 1).count c = 0 := by
    intro c hc
    rw [Text.count, count_eq_zero]
    exact fun hmem => by simp [h c hmem] at hc
  have hsquare : hasOpenSquare (mt.group 1) = false := by
    simp [hasOpenSquare, hcount '[' rfl, hcount ']' rfl]
  have hparen : hasOpenParen (mt.group 1) = false := by
    simp [hasOpenParen, hcount '(' rfl, hcount ')' rfl]
  simp [receiverOf, hsquare, hparen]

/-! ### Sites in a script -/

theorem Placed.exists_split {sites : List Site} {s : Site} (h : Placed name place sites)
    (last : Text) (hs : s ∈ sites) :
    ∃ pre rest, weave (sites.map fun s => (s.gap, (s.call name).text)) last =
        pre ++ (s.call name).text ++ rest ∧ s.found.start.pos = place + pre.length := by
  induction sites generalizing place with
  | nil => cases hs
  | cons d sites ih =>
    obtain ⟨hpos, hrest⟩ := h
    rw [map_cons, weave]
    rcases mem_cons.mp hs with rfl | hs
    · exact ⟨s.gap, _, rfl, hpos⟩
    · obtain ⟨pre, rest, htext, hplace⟩ := ih hrest hs
      refine ⟨d.gap ++ (d.call name).text ++ pre, rest, by rw [htext]; simp, ?_⟩
      rw [hplace, hpos, length_append, length_append]
      omega

theorem Sites.methodCalls_eq {spaced : Bool} {sites : List Site}
    (hname : '(' ∉ name ∧ ')' ∉ name) (hplain : isPlain name)
    (hsites : Sites name 0 x ((callOf spaced name).occurrences x) sites last) :
    methodCalls (if spaced then ['\\', 's'] else []) name x = .ok (sites.map (Site.call name)) := by
  have hspacing : spacing? (if spaced then ['\\', 's'] else []) = some spaced := by
    cases spaced <;> rfl
  have hmatches : callMatches (if spaced then ['\\', 's'] else []) name x = .ok (sites.map Site.found) := by
    rw [callMatches, hspacing, hplain, hsites.found]
  have hreceivers : (sites.map Site.found).mapM (receiverOf x) =
      .ok ((sites.map Site.found).map fun mt => mt.group 1) :=
    mapM_ok (forall_mem_map.mpr fun s hs => receiverOf_plain (hsites.receiver s hs).2)
  have htails : (sites.map Site.found).mapM (fun mt => callAfter x (dotOf mt)) =
      .ok (sites.map fun s => (s.call name).tail) := by
    rw [mapM_map]
    refine mapM_ok fun s hs => ?_
    obtain ⟨hopen, hclose⟩ := hsites.arguments s hs
    obtain ⟨pre, rest, htext, hpos⟩ := hsites.placed.exists_split last hs
    rw [Function.comp_apply, dotOf, hpos, Nat.zero_add, ← hsites.text, htext]
    exact callAfter_eq hname hopen hclose
  rw [methodCalls, hmatches]
  change (do
    let receivers ← (sites.map Site.found).mapM (receiverOf x)
    let tails ← (sites.map Site.found).mapM fun m => callAfter x (dotOf m)
    return zipWith Call.mk receivers tails) = _
  rw [hreceivers, htails]
  change Except.ok (zipWith Call.mk _ _) = _
  rw [map_map, zipWith_map, zipWith_self]
  rfl

/-! ### Replacing at places -/

/-- The text with pieces replaced at their places. An edit gives the place, what stands there and what is
written instead; `pos` is the place of the first character. -/
def replaceAt : Nat → List (Nat × Text × Text) → Text → Text
  | _, [], t => t
  | pos, (place, old, new) :: edits, t =>
    t.take (place - pos) ++ new ++ replaceAt (place + old.length) edits (t.drop (place - pos + old.length))

theorem Placed.replaceAt_eq {sites : List Site} (h : Placed name place sites) (last : Text) (new : Site → Text) :
    replaceAt place (sites.map fun s => (s.found.start.pos, (s.call name).text, new s))
        (weave (sites.map fun s => (s.gap, (s.call name).text)) last) =
      weave (sites.map fun s => (s.gap, new s)) last := by
  induction sites generalizing place with
  | nil => rfl
  | cons s sites ih =>
    obtain ⟨hpos, hrest⟩ := h
    have hgap : s.found.start.pos - place = s.gap.length := by
      omega
    simp only [map_cons, weave, replaceAt, hgap]
    rw [append_assoc s.gap, take_left, ← append_assoc s.gap, ← length_append, drop_left, ih hrest]

/-! ### What is written for a call -/

theorem Site.arguments_call (s : Site) (hname : '(' ∉ name) : (s.call name).arguments = s.arguments := by
  have hkeep : ∀ c ∈ name, (c != '(') := fun c hc => bne_iff_ne.mpr fun h => hname (h ▸ hc)
  simp [Call.arguments, Site.call, dropWhile_append_of_pos hkeep]

theorem Site.text_call (s : Site) :
    (s.call name).text = s.found.group 1 ++ '.' :: name ++ '(' :: s.arguments ++ [')'] := by
  simp [Call.text, Site.call]

theorem Method.not_mem_passed {c : Call} {ch : Char} (hr : ch ∉ c.receiver) (ha : ch ∉ a)
    (hch : ch ≠ ',' ∧ ch ≠ ' ') : ch ∉ m.passed c a := by
  unfold Method.passed
  split <;> simp [hr, ha, hch]

theorem Method.length_passed_le {c c' : Call} (hr : c'.receiver = x ++ c.receiver) :
    (m.passed c' a).length ≤ x.length + (m.passed c a).length := by
  unfold Method.passed
  split
  · simp [hr, Nat.add_assoc]
  · simp [hr]
  · exact Nat.le_add_left _ _
  · simp [hr]

def Site.edit (name : Text) (m : Method) (arg : Call → Text) (s : Site) : Edit :=
  ⟨s.gap, (s.call name).text, m.standIn ++ '(' :: m.passed (s.call name) (arg (s.call name)) ++ [')']⟩

theorem Sites.edits {found : List Match} {sites : List Site} {arg : Call → Text}
    (hd : Distinguished name m.standIn) (hsites : Sites name 0 x found sites last)
    (harg : (∀ c, arg c = c.arguments) ∨ ∃ l : Text, ('(' ∉ l ∧ ')' ∉ l) ∧ ∀ c, arg c = l) :
    Edits name m.standIn (sites.map (Site.edit name m arg)) := by
  have hparens : ∀ s ∈ sites, '(' ∉ arg (s.call name) ∧ ')' ∉ arg (s.call name) := by
    intro s hs
    rcases harg with harg | ⟨l, hl, harg⟩
    · rw [harg, s.arguments_call hd.opened.1]
      exact hsites.arguments s hs
    · rwa [harg]
  have hcut : ∀ s ∈ sites, ∀ s' ∈ sites, ∀ x, (s'.call name).text = x ++ (s.call name).text →
      (s'.call name).receiver = x ++ (s.call name).receiver ∧ s'.arguments = s.arguments := by
    intro s hs s' hs' x h
    rw [s.text_call, s'.text_call] at h
    obtain ⟨hr, ha⟩ := receiver_eq_of_append (hsites.arguments s' hs').1 (hsites.arguments s hs).1 h.symm
    exact ⟨hr, ha.symm⟩
  have hnot : ∀ s ∈ sites, ∀ ch, isWord ch = false → ch ∉ (s.call name).receiver := by
    intro s hs ch hch hmem
    rw [(hsites.receiver s hs).2 ch hmem] at hch
    cases hch
  have hargs : ∀ s ∈ sites, ∀ s' ∈ sites, s'.arguments = s.arguments → arg (s'.call name) = arg (s.call name) := by
    intro s hs s' hs' h
    rcases harg with harg | ⟨l, -, harg⟩
    · rw [harg, harg, s.arguments_call hd.opened.1, s'.arguments_call hd.opened.1, h]
    · rw [harg, harg]
  refine ⟨?_, ?_, ?_, ?_⟩
  · exact forall_mem_map.mpr hsites.gap
  · refine forall_mem_map.mpr fun s hs => ⟨?_, m.passed (s.call name) (arg (s.call name)), ?_, ?_, rfl⟩
    · obtain ⟨hne, hword⟩ := hsites.receiver s hs
      obtain ⟨hopen, hclose⟩ := hsites.arguments s hs
      exact ⟨s.found.group 1, s.arguments, hne, hword, hopen, hclose, s.text_call⟩
    · exact Method.not_mem_passed (hnot s hs '(' rfl) (hparens s hs).1 (by decide)
    · exact Method.not_mem_passed (hnot s hs ')' rfl) (hparens s hs).2 (by decide)
  · refine forall_mem_map.mpr fun s hs => forall_mem_map.mpr fun s' hs' h => ?_
    obtain ⟨hr, ha⟩ := hcut s hs s' hs' [] h.symm
    have hcall : s'.call name = s.call name := by
      rw [Site.call, Site.call, ha]
      congr 1
    rw [Site.edit, Site.edit, hcall]
  · refine forall_mem_map.mpr fun s hs => forall_mem_map.mpr fun s' hs' x h => ?_
    obtain ⟨hr, ha⟩ := hcut s hs s' hs' x h
    have hle := m.length_passed_le (a := arg (s.call name)) hr
    simp only [Site.edit, hargs s hs s' hs' ha, length_append, length_cons, length_nil]
    omega

/-! ### The pass for a method -/

/-- The calls of a method that a search finds. -/
def Method.found (m : Method) (x : Text) : List Match :=
  (callOf m.spaced m.name.toList).occurrences x

/-- The places of the calls, with what stands there and what is written instead. -/
def Method.edits (m : Method) (x : Text) (calls : List Call) : List (Nat × Text × Text) :=
  zipWith (fun mt pair => (mt.start.pos, pair)) (m.found x) (m.replacements calls)

theorem Method.distinguished (hm : m ∈ Method.all ++ Method.localeMethods) :
    Distinguished m.name.toList m.standIn ∧ isPlain m.name.toList ∧
      ∀ l, m.loneArgument = some l → '(' ∉ l.toList ∧ ')' ∉ l.toList := by
  have hall : ∀ m ∈ Method.all ++ Method.localeMethods,
      (('(' ∉ m.name.toList ∧ '(' ∉ m.standIn) ∧ (')' ∉ m.name.toList ∧ ')' ∉ m.standIn) ∧ '.' ∉ m.standIn ∧
        m.name.toList.length < m.standIn.length) ∧ isPlain m.name.toList ∧
      ∀ l, m.loneArgument = some l → '(' ∉ l.toList ∧ ')' ∉ l.toList := by
    decide +kernel
  obtain ⟨⟨hopened, hclosed, hdot, hlonger⟩, hrest⟩ := hall m hm
  exact ⟨⟨hopened, hclosed, hdot, hlonger⟩, hrest⟩

theorem Method.convert_of_uses {calls : List Call} (h : m.uses x = .ok calls) :
    m.convert x = .ok (replaceEach (m.replacements calls) x, !calls.isEmpty) := by
  rw [Method.convert, h]
  rfl

theorem Sites.uses_eq {sites : List Site}
    (hm : m ∈ Method.all ++ Method.localeMethods) (hcalled : m.passing ≠ .attributeReceiver)
    (hsites : Sites m.name.toList 0 x (m.found x) sites last) :
    m.uses x = .ok (sites.map (Site.call m.name.toList)) := by
  obtain ⟨hd, hplain, -⟩ := Method.distinguished hm
  have hcalls := hsites.methodCalls_eq ⟨hd.opened.1, hd.closed.1⟩ hplain
  unfold Method.uses
  split
  · next h => exact absurd h hcalled
  · exact hcalls

theorem Sites.replaceEach_eq_iff {sites : List Site}
    (hm : m ∈ Method.all ++ Method.localeMethods) (hsites : Sites m.name.toList 0 x (m.found x) sites last) :
    replaceEach (m.replacements (sites.map (Site.call m.name.toList))) x =
        replaceAt 0 (m.edits x (sites.map (Site.call m.name.toList))) x ↔
      LongestFirst ((sites.map (Site.call m.name.toList)).map Call.text) := by
  obtain ⟨hd, -, hlone⟩ := Method.distinguished hm
  obtain ⟨arg, harg, hpairs⟩ := m.replacements_eq (sites.map (Site.call m.name.toList))
  have hedits : Edits m.name.toList m.standIn (sites.map (Site.edit m.name.toList m arg)) := by
    refine hsites.edits hd (harg.imp id ?_)
    rintro ⟨l, hl, hconst⟩
    exact ⟨l.toList, hlone l hl, hconst⟩
  have hplaces : m.edits x (sites.map (Site.call m.name.toList)) =
      sites.map fun s => (s.found.start.pos, (s.call m.name.toList).text, (s.edit m.name.toList m arg).new) := by
    rw [Method.edits, hpairs, ← hsites.found, map_map, zipWith_map, zipWith_self]
    rfl
  have hiff := hedits.replaceEach_eq_iff hd hsites.last
  rw [map_map, map_map, map_map, map_map] at hiff
  have hweave := hsites.placed.replaceAt_eq last fun s => (s.edit m.name.toList m arg).new
  rw [hsites.text] at hweave
  rw [hplaces, hweave, hpairs, map_map, map_map, ← hsites.text]
  exact hiff

/-- A method with plain receivers is rewritten in place, each call where it stands and nothing else, exactly
if every call whose text ends with the text of another one is replaced before it. -/
theorem convert_in_place_iff {m : Method} (hm : m ∈ Method.all ++ Method.localeMethods)
    (hcalled : m.passing ≠ .attributeReceiver) {x : Text}
    (hplain : ∀ mt ∈ m.found x, ∀ ch ∈ mt.group 1, isWord ch) :
    ∃ calls y, m.uses x = .ok calls ∧ m.convert x = .ok (y, !calls.isEmpty) ∧
      (m.found x).length = calls.length ∧
      (∀ site ∈ (m.found x).zip calls, site.2.receiver = site.1.group 1 ∧
        site.2.tail = m.name.toList ++ '(' :: site.2.arguments ++ [')'] ∧
        site.2.text <+: x.drop site.1.start.pos) ∧
      (y = replaceAt 0 (m.edits x calls) x ↔ LongestFirst (calls.map Call.text)) := by
  obtain ⟨hd, -, -⟩ := Method.distinguished hm
  obtain ⟨sites, last, hsites⟩ : ∃ sites last, Sites m.name.toList 0 x (m.found x) sites last :=
    exists_sites_occurrences hd.closed.1 hplain
  have huses := hsites.uses_eq hm hcalled
  refine ⟨_, _, huses, Method.convert_of_uses huses, ?_, ?_, hsites.replaceEach_eq_iff hm⟩
  · rw [← hsites.found]
    simp
  · intro site hsite
    rw [← hsites.found, zip_map', mem_map] at hsite
    obtain ⟨s, hs, rfl⟩ := hsite
    refine ⟨rfl, by rw [s.arguments_call hd.opened.1]; rfl, ?_⟩
    obtain ⟨pre, rest, htext, hpos⟩ := hsites.placed.exists_split last hs
    rw [← hsites.text, htext, hpos, Nat.zero_add, append_assoc, drop_left]
    exact prefix_append _ _

/-- The name of one receiver ends with the name of the other, which is replaced first. -/
theorem charAt_of_shorter_name_first :
    ∃ y, (Method.plain "charAt" Definition.charAt).convert "a.charAt(0) + ba.charAt(0)" = .ok (y, true) ∧
      y ≠ replaceAt 0 [(0, "a.charAt(0)", "__ee_extra_charAt(a, 0)"),
        (14, "ba.charAt(0)", "__ee_extra_charAt(ba, 0)")] "a.charAt(0) + ba.charAt(0)" := by
  have hm : Method.plain "charAt" Definition.charAt ∈ Method.all ++ Method.localeMethods := by
    simp [Method.all]
  have hplain : ∀ mt ∈ (Method.plain "charAt" Definition.charAt).found "a.charAt(0) + ba.charAt(0)",
      ∀ ch ∈ mt.group 1, isWord ch := by
    have hall : ∀ mt ∈ (Method.plain "charAt" Definition.charAt).found "a.charAt(0) + ba.charAt(0)",
        (mt.group 1).all isWord := by
      decide +kernel
    exact fun mt hmt => all_eq_true.mp (hall mt hmt)
  obtain ⟨calls, y, huses, hconvert, -, -, hiff⟩ := convert_in_place_iff hm (by decide) hplain
  have hcalls : calls = [⟨"a", "charAt(0)"⟩, ⟨"ba", "charAt(0)"⟩] := by
    have heval : ((Method.plain "charAt" Definition.charAt).uses "a.charAt(0) + ba.charAt(0)").toOption =
        some [⟨"a", "charAt(0)"⟩, ⟨"ba", "charAt(0)"⟩] := by
      decide +kernel
    rw [huses] at heval
    exact Option.some.inj heval
  subst hcalls
  have hedits : (Method.plain "charAt" Definition.charAt).edits "a.charAt(0) + ba.charAt(0)"
      [⟨"a", "charAt(0)"⟩, ⟨"ba", "charAt(0)"⟩] =
      [(0, "a.charAt(0)".toList, "__ee_extra_charAt(a, 0)".toList),
        (14, "ba.charAt(0)", "__ee_extra_charAt(ba, 0)")] := by
    decide +kernel
  rw [hedits] at hiff
  refine ⟨y, hconvert, fun hy => ?_⟩
  have hfirst := hiff.mp hy [] "a.charAt(0)" ["ba.charAt(0)"] (by decide) "ba.charAt(0)"
    (by decide) (by decide)
  exact absurd hfirst (by decide)

end Geoscript.Script
