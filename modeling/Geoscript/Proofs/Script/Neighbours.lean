import Geoscript.Proofs.Script.Callback

/-! Callbacks one after the other fall into one group: the others are taken for a function inside the first one, which
loses its last line, and so on (`Segment`). So no two neighbours are converted. -/

namespace Geoscript.Script
open List hiding all count
variable {l t : Text} {ls : List Text} {g : Nested}
open Text Pattern FunctionKind

/-! ### Lines with a header -/

variable (b : Callback)

theorem Callback.matchStart?_opening : (callback.header.matchStart? b.opening).isSome := by
  have hsplit : b.opening = (b.subject ++ ['.']) ++ ("map(".toList ++ ("function".toList ++
      (("(".toList ++ b.parameter ++ ") ".toList) ++ ("\x7b".toList ++ [])))) := by
    simp [opening, CallHeader.text]
  have hsubject : '\n' ∉ b.subject ++ ['.'] := by
    have := b.not_mem_subject (c := '\n') rfl (by decide)
    simp [this]
  have hparameter : '\n' ∉ "(".toList ++ b.parameter ++ ") ".toList := by
    have := b.isSymbol_parameter.not_mem (c := '\n') rfl
    simp [this]
  refine matchAt_isSome (either_isSome_left ?_)
  simp only [Pattern.all, matcher_seq]
  refine run_isSome (Nat.zero_le _) (fun c hc => inLine_has fun h => hsubject (h ▸ hc)) hsplit (lit_isSome rfl ?_)
  refine run_isSome_nil (lit_isSome rfl ?_)
  exact run_isSome (Nat.zero_le _) (fun c hc => inLine_has fun h => hparameter (h ▸ hc)) rfl (lit_isSome rfl rfl)

theorem matchStart?_none (h : '(' ∉ l) : callback.header.matchStart? l = none := by
  have hcall {piece : Text} {R : Nat → Cursor → Cursor → Prop} {q : Pattern} {b : Cursor × Captures}
      (hpiece : '(' ∈ piece) : ¬Reads R (.seq .rest (.seq (.lit piece) q)) (.start l, []) b := by
    rintro ⟨m₁, ⟨u, -, -, hover, -⟩, m₂, ⟨hover', -⟩, -⟩
    have hafter : l = u ++ piece ++ m₂.1.after := (hover.trans hover').after
    exact h (by rw [hafter]; simp [hpiece])
  cases hm : callback.header.matchStart? l with
  | none => rfl
  | some m =>
    obtain ⟨-, hreads | hreads⟩ := reads_of_matchAt hm
    · exact absurd hreads (hcall (by decide))
    · exact absurd hreads (hcall (by decide))

/-! ### Flags of callbacks -/

theorem count_of_not_mem {c : Char} (h : c ∉ l) : count c l = 0 :=
  count_eq_zero.mpr h

theorem functionFlags_inside (h : ∀ l ∈ ls, '(' ∉ l) (more : List Text) : functionFlags callback.header 0 (ls ++ more) =
      replicate ls.length '0' ++ functionFlags callback.header 0 more := by
  induction ls with
  | nil => rfl
  | cons l ls ih =>
    rw [forall_mem_cons] at h
    simp only [cons_append, functionFlags, matchStart?_none h.1, Option.isSome_none, Bool.false_or,
      bne_self_eq_false, Bool.false_eq_true, if_false, ih h.2, length_cons, replicate_succ]

theorem functionFlags_open (h : ∀ l ∈ ls, '{' ∉ l ∧ '}' ∉ l) (more : List Text) :
    functionFlags callback.header 1 (ls ++ more) = replicate ls.length '1' ++ functionFlags callback.header 1 more := by
  induction ls with
  | nil => rfl
  | cons l ls ih =>
    rw [forall_mem_cons] at h
    have hcount : (1 : Int) + l.count '{' - l.count '}' = 1 := by
      rw [count_of_not_mem h.1.1, count_of_not_mem h.1.2]
      rfl
    simp only [cons_append, functionFlags, hcount, ih h.2, length_cons, replicate_succ]
    simp

namespace Callback
variable {b : Callback} (b : Callback)

theorem functionFlags_opening (more : List Text) :
    functionFlags callback.header 0 (b.opening :: more) = '1' :: functionFlags callback.header 1 more := by
  have hcount : (0 : Int) + b.opening.count '{' - b.opening.count '}' = 1 := by
    have hopen : b.opening.count '{' = 1 := by
      rw [Text.count, opening, count_append, count_eq_zero.mpr (not_mem_header b.toCallHeader).1]
      rfl
    have hclose : b.opening.count '}' = 0 :=
      count_of_not_mem (by simp [opening, (not_mem_header b.toCallHeader).2])
    rw [hopen, hclose]
    rfl
  rw [functionFlags, b.matchStart?_opening, hcount]
  rfl

theorem functionFlags_lines (more : List Text) : functionFlags callback.header 0 (b.lines ++ more) =
      replicate b.lines.length '1' ++ functionFlags callback.header 0 more := by
  have hclosing : functionFlags callback.header 1 (closingBrace :: more) =
      '1' :: functionFlags callback.header 0 more := by
    rw [functionFlags, show (1 : Int) + closingBrace.count '{' - closingBrace.count '}' = 0 from rfl]
    simp
  rw [lines, cons_append, functionFlags_opening, append_assoc, functionFlags_open b.body_braceless,
    singleton_append, hclosing, length_cons, length_append, length_singleton, replicate_succ,
    replicate_succ']
  simp

theorem inside_lines : ∀ l ∈ b.body ++ [closingBrace], '(' ∉ l := by
  intro l hl
  rcases mem_append.mp hl with hl | hl
  · exact fun hmem => b.body_plain l hl _ hmem (by decide)
  · exact mem_singleton.mp hl ▸ by decide

end Callback

/-! ### Callbacks with lines cut off -/

/-- Lines of neighbouring callbacks, from a first line on; the last of them need not be there to its end. -/
inductive Segment : List Text → Prop
  | part (b : Callback) (n : Nat) : Segment (b.opening :: b.body.take n)
  | whole (b : Callback) : Segment b.lines
  | next (b : Callback) {ls : List Text} : Segment ls → Segment (b.lines ++ ls)

namespace Segment
variable {ls : List Text}

theorem ne_nil (h : Segment ls) : ls ≠ [] := by
  cases h with
  | part b n => exact cons_ne_nil _ _
  | whole b => exact cons_ne_nil _ _
  | next b h => exact cons_ne_nil _ _

theorem flagged (h : Segment ls) : functionFlags callback.header 0 ls = replicate ls.length '1' := by
  induction h with
  | part b n =>
    have hbody : ∀ l ∈ b.body.take n, '{' ∉ l ∧ '}' ∉ l := fun l hl => b.body_braceless l (mem_of_mem_take hl)
    have hopen := functionFlags_open hbody []
    rw [append_nil] at hopen
    rw [b.functionFlags_opening, hopen, functionFlags, append_nil]
    rfl
  | whole b =>
    have hlines := b.functionFlags_lines []
    rw [append_nil] at hlines
    rw [hlines, functionFlags, append_nil]
  | next b h ih => rw [b.functionFlags_lines, ih, length_append, replicate_append_replicate]

theorem braced (h : Segment ls) : ∀ l ∈ ls, Braced (fun _ => True) l := by
  induction h with
  | part b n =>
    refine forall_mem_cons.mpr ⟨b.braced_opening trivial, fun l hl => ?_⟩
    exact Callback.braced_body (mem_of_mem_take hl)
  | whole b => exact b.braced_lines trivial
  | next b h ih => exact forall_mem_append.mpr ⟨b.braced_lines trivial, ih⟩

theorem dropLast (h : Segment ls) (hlen : 2 ≤ ls.length) : Segment ls.dropLast := by
  induction h with
  | part b n =>
    have hne : b.body.take n ≠ [] := fun hnil => by
      rw [hnil] at hlen
      exact absurd hlen (by simp)
    rw [dropLast_cons_of_ne_nil hne, dropLast_eq_take, take_take]
    exact part b _
  | whole b =>
    have hcut : b.lines.dropLast = b.opening :: b.body.take b.body.length := by
      rw [Callback.lines, ← cons_append, dropLast_concat, take_length]
    rw [hcut]
    exact part b b.body.length
  | @next b ls h ih =>
    rw [dropLast_append_of_ne_nil h.ne_nil]
    by_cases hone : 2 ≤ ls.length
    · exact next b (ih hone)
    · have hlen : ls.length = 1 := by
        have := length_pos_iff.mpr h.ne_nil
        omega
      obtain ⟨l, rfl⟩ := length_eq_one_iff.mp hlen
      rw [dropLast_singleton, append_nil]
      exact whole b

theorem eq_opening (h : Segment [l]) : ∃ b : Callback, l = b.opening := by
  generalize hls : [l] = ls at h
  cases h with
  | part b n => exact ⟨b, (cons.inj hls).1⟩
  | whole b => exact absurd (congrArg length hls) (by simp [Callback.lines])
  | next b h => exact absurd (congrArg length hls) (by simp [Callback.lines])

end Segment

/-! ### Groups of callbacks -/

structure Regroups (ls : List Text) (g : Nested) : Prop where
  isLine : g.isLine = false
  regroup : ∀ depth, ls.length ≤ depth → regroupUpTo callback.header depth [.group (ls.map .line)] = .ok [g]

theorem regroups_flat (first last : Text) {mid : List Text} (h : ∀ l ∈ mid, '(' ∉ l) :
    Regroups (first :: (mid ++ [last])) (.group ((first :: (mid ++ [last])).map .line)) where
  isLine := rfl
  regroup depth hdepth := by
    cases depth with
    | zero => exact absurd hdepth (by simp)
    | succ depth =>
      have hflags := functionFlags_inside h []
      rw [append_nil, functionFlags, append_nil] at hflags
      exact regroupUpTo_flat depth first last hflags

theorem regroups_single (t : Text) : Regroups [t] (.group [.line t, .line t]) where
  isLine := rfl
  regroup depth hdepth := by
    cases depth with
    | zero => exact absurd hdepth (by simp)
    | succ depth => exact regroupUpTo_single _ depth t

theorem regroups_next (last : Text) (hls : Segment ls)
    (hg : Regroups ls g) : Regroups (b.lines ++ (ls ++ [last])) (.group (b.lines.map .line ++ [g, .line last])) where
  isLine := rfl
  regroup depth hdepth := by
    have hsplit : b.lines ++ (ls ++ [last]) = b.opening :: ((b.body ++ [closingBrace]) ++ ls ++ [last]) := by
      simp [Callback.lines]
    cases depth with
    | zero => exact absurd hdepth (by rw [hsplit]; simp)
    | succ depth =>
      have hflags := functionFlags_inside b.inside_lines ls
      rw [hls.flagged] at hflags
      have hinner : ls.length ≤ depth := by
        rw [hsplit] at hdepth
        simp only [length_cons, length_append] at hdepth
        omega
      rw [hsplit]
      exact regroupUpTo_deep b.opening last hls.ne_nil hflags (hg.regroup depth hinner)

/-- A text that may stand behind a callback as a line. -/
structure Enclosed (t : Text) : Prop where
  braced : Braced (fun _ => True) t
  encloses : Encloses t

def Becomes (g : Nested) (Q : Text → Prop) : Prop :=
  ∀ s, callback.convertItem g s = .error .noBody ∨ ∃ t s', callback.convertItem g s = .ok (t, s') ∧ Q t

namespace Callback
variable {b : Callback} {P : CallHeader → Prop}

theorem kept_behind (h : Encloses t) (more : List Text) : insideParensFrom 0 (behind (t :: more)) ≠ [] := by
  have hsplit : behind (t :: more) = ['\n'] ++ (t ++ behind more) := rfl
  rw [hsplit, Unparenthesized.insideParensFrom_append (by decide), if_neg (by decide), nil_append]
  exact h _

theorem enclosed_alone (b : Callback) (s : NameSupply) :
    ∃ t s', callback.convertLines b.lines s = .ok (t, s') ∧ Enclosed t := by
  obtain ⟨q, hq, hconvert⟩ := b.convertLines_alone s
  have hname : Given (named (unlines b.lines) s).1 := given_named (b.braced_lines (P := fun _ => True) trivial) s
  refine ⟨_, _, hconvert, braced_below (braced_definition hname hq) ?_, encloses_converted hname hq _⟩
  exact Braced.of_not_mem (not_mem_call hname (by decide)) (not_mem_call hname (by decide))

theorem enclosed_followed (b : Callback) {more : List Text} (s : NameSupply) (ht : Enclosed t)
    (hmore : ∀ l ∈ more, Braced (fun _ => True) l) :
    ∃ t' s', callback.convertLines (b.lines ++ t :: more) s = .ok (t', s') ∧ Enclosed t' ∧ '{' ∈ t' := by
  have hall : ∀ l ∈ b.lines ++ t :: more, Braced (fun _ => True) l :=
    forall_mem_append.mpr ⟨b.braced_lines trivial, forall_mem_cons.mpr ⟨ht.braced, hmore⟩⟩
  obtain ⟨q, hq, hconvert⟩ := b.convertLines_followed s hall (kept_behind ht.encloses more)
  have hname : Given (named (unlines (b.lines ++ t :: more)) s).1 := given_named hall s
  refine ⟨_, _, hconvert, ⟨?_, encloses_converted hname hq _⟩, ?_⟩
  · exact braced_below (braced_definition hname hq) (Braced.unlines hall)
  · rw [b.unlines_lines]
    simp

end Callback

/-! ### What becomes of a segment -/

theorem becomes_part (n : Nat) :
    ∃ g, Regroups (b.opening :: b.body.take n) g ∧ ∀ s, callback.convertItem g s = .error .noBody := by
  have hopening : '}' ∉ b.opening := by
    simp [Callback.opening, (Callback.not_mem_header b.toCallHeader).2]
  have hbody : ∀ l ∈ b.body.take n, '}' ∉ l := fun l hl => (b.body_braceless l (mem_of_mem_take hl)).2
  rcases eq_nil_or_concat (b.body.take n) with hnil | ⟨mid, last, hconcat⟩
  · refine ⟨_, hnil ▸ regroups_single b.opening, fun s => ?_⟩
    have hflat := callback.convertItem_flat [b.opening, b.opening]
    rw [map_cons, map_singleton] at hflat
    rw [hflat]
    exact convertLines_noBody (by simp [hopening]) s
  · rw [concat_eq_append] at hconcat
    have hmid : ∀ l ∈ mid, '(' ∉ l := fun l hl => by
      refine b.inside_lines l (mem_append_left _ (mem_of_mem_take (i := n) ?_))
      rw [hconcat]
      exact mem_append_left _ hl
    refine ⟨_, hconcat ▸ regroups_flat b.opening last hmid, fun s => ?_⟩
    rw [convertItem_flat]
    refine convertLines_noBody (forall_mem_cons.mpr ⟨hopening, ?_⟩) s
    exact hconcat ▸ hbody

theorem becomes_whole : Regroups b.lines (.group (b.lines.map .line)) ∧
      ∀ s, callback.convertItem (.group (b.lines.map .line)) s = callback.convertLines b.lines s :=
  ⟨regroups_flat b.opening closingBrace fun l hl => b.inside_lines l (mem_append_left _ hl),
    fun s => by rw [convertItem_flat]⟩

theorem becomes_next (h : Segment ls)
    (ih : ∀ ls', Segment ls' → ls'.length < ls.length → ∃ g, Regroups ls' g ∧ Becomes g Enclosed) :
    ∃ g, Regroups (b.lines ++ ls) g ∧ Becomes g fun t => Enclosed t ∧ '{' ∈ t := by
  by_cases hone : ls.length = 1
  · obtain ⟨l, rfl⟩ := length_eq_one_iff.mp hone
    obtain ⟨c, rfl⟩ := h.eq_opening
    have hsplit : b.lines ++ [c.opening] = b.opening :: ((b.body ++ [closingBrace]) ++ [c.opening]) := rfl
    refine ⟨_, hsplit ▸ regroups_flat b.opening c.opening b.inside_lines, fun s => ?_⟩
    rw [convertItem_flat]
    obtain ⟨t, s', hconvert, ht⟩ := b.enclosed_followed s ⟨c.braced_opening trivial, c.encloses_opening⟩
      (forall_mem_nil _)
    exact .inr ⟨t, s', hconvert, ht⟩
  · obtain ⟨mid, last, hconcat⟩ := (eq_nil_or_concat ls).resolve_left h.ne_nil
    rw [concat_eq_append] at hconcat
    have hlen : 2 ≤ ls.length := by
      have := length_pos_iff.mpr h.ne_nil
      omega
    have hmid : Segment mid := by
      have := h.dropLast hlen
      rwa [hconcat, dropLast_concat] at this
    obtain ⟨g, hg, hbecomes⟩ := ih mid hmid (by rw [hconcat]; simp)
    refine ⟨_, hconcat ▸ regroups_next b last hmid hg, fun s => ?_⟩
    have hlast : Braced (fun _ => True) last := h.braced last (by rw [hconcat]; simp)
    rw [convertItem_deep callback b.lines last hg.isLine]
    rcases hbecomes s with herror | ⟨t, s₁, hok, ht⟩
    · exact .inl (naming_bind_error herror)
    · rw [naming_bind_ok hok]
      obtain ⟨t', s', hconvert, ht'⟩ := b.enclosed_followed s₁ ht (forall_mem_singleton.mpr hlast)
      exact .inr ⟨t', s', hconvert, ht'⟩

theorem Segment.becomes {ls : List Text} (h : Segment ls) : ∃ g, Regroups ls g ∧ Becomes g Enclosed := by
  induction hn : ls.length using Nat.strong_induction_on generalizing ls with
  | _ n ih =>
    cases h with
    | part b k =>
      obtain ⟨g, hg, herror⟩ := becomes_part b k
      exact ⟨g, hg, fun s => .inl (herror s)⟩
    | whole b =>
      refine ⟨_, (becomes_whole b).1, fun s => .inr ?_⟩
      rw [(becomes_whole b).2]
      exact b.enclosed_alone s
    | @next b ls h =>
      have hshorter : ls.length < n := by
        rw [← hn, length_append]
        exact Nat.lt_add_of_pos_left (Nat.succ_pos _)
      obtain ⟨g, hg, hbecomes⟩ := becomes_next b h fun ls' h' hlt => ih ls'.length (hlt.trans hshorter) h' rfl
      exact ⟨g, hg, fun s => (hbecomes s).imp_right fun ⟨t, s', hok, ht, _⟩ => ⟨t, s', hok, ht⟩⟩

/-! ### All callbacks of a text -/

namespace Callback

/-- The definition of the function and the call with its name. -/
def converted (b : Callback) (name : Text) : Text :=
  b.definition name b.parameter ++ '\n' :: b.call name

theorem not_mem_newline (b : Callback) : ∀ l ∈ b.lines, '\n' ∉ l := by
  have htext : '\n' ∉ b.text := b.not_mem_text rfl (by decide)
  intro l hl
  rcases mem_cons.mp hl with rfl | hl
  · simp [opening, htext]
  · rcases mem_append.mp hl with hl | hl
    · exact fun hmem => b.body_plain l hl _ hmem (by decide)
    · exact mem_singleton.mp hl ▸ by decide

end Callback

theorem segment_of_callbacks (bs : List Callback) : Segment ((b :: bs).flatMap Callback.lines) := by
  induction bs generalizing b with
  | nil =>
    rw [flatMap_singleton]
    exact Segment.whole b
  | cons c bs ih => exact Segment.next b (ih c)

theorem segment_of_part (bs : List Callback) (c : Callback) (n : Nat) :
    Segment (bs.flatMap Callback.lines ++ c.opening :: c.body.take n) := by
  induction bs with
  | nil => exact Segment.part c n
  | cons b bs ih =>
    rw [flatMap_cons, append_assoc]
    exact Segment.next b ih

theorem becomes_error (bs : List Callback) (c : Callback) (n : Nat) (hlen : bs.length ≤ (c.body.take n).length) :
    ∃ g, Regroups (bs.flatMap Callback.lines ++ c.opening :: c.body.take n) g ∧
      ∀ s, callback.convertItem g s = .error .noBody := by
  induction bs generalizing n with
  | nil => exact becomes_part c n
  | cons b bs ih =>
    have hne : c.body.take n ≠ [] := fun hnil => by
      rw [hnil] at hlen
      exact absurd hlen (by simp)
    obtain ⟨mid, last, hconcat⟩ := (eq_nil_or_concat _).resolve_left hne
    rw [concat_eq_append] at hconcat
    have hmid : mid = c.body.take mid.length :=
      prefix_iff_eq_take.mp ((hconcat ▸ prefix_append mid [last]).trans (List.take_prefix n c.body))
    have hshorter : bs.length ≤ (c.body.take mid.length).length := by
      rw [hconcat, length_append, length_singleton, length_cons] at hlen
      rw [← hmid]
      omega
    obtain ⟨g, hg, herror⟩ := ih mid.length hshorter
    have hsplit : (b :: bs).flatMap Callback.lines ++ c.opening :: c.body.take n =
        b.lines ++ ((bs.flatMap Callback.lines ++ c.opening :: c.body.take mid.length) ++ [last]) := by
      rw [hconcat, ← hmid]
      simp
    refine ⟨_, hsplit ▸ regroups_next b last (segment_of_part bs c _) hg, fun s => ?_⟩
    rw [convertItem_deep callback b.lines last hg.isLine]
    exact naming_bind_error (herror s)

theorem sizeList_lines (ls : List Text) : Nested.sizeList (ls.map .line) = ls.length := by
  induction ls with
  | nil => rfl
  | cons l ls ih => rw [map_cons, Nested.sizeList, ih, Nested.size, length_cons, Nat.add_comm]

theorem convertAll_of_regroups (h : Segment ls) (hline : ∀ l ∈ ls, '\n' ∉ l)
    (hg : Regroups ls g) (s : NameSupply) : callback.convertAll (unlines ls) s = callback.convertItem g s := by
  have hlines : lines (unlines ls) = ls := fields_join h.ne_nil hline
  have hgroups : groupFunctions callback.header ls = .ok [.group (ls.map .line)] :=
    @groupFunctions_of_flags callback.header [] ls h.ne_nil h.flagged
  have hregroup : regroup callback.header [.group (ls.map .line)] = .ok [g] := by
    refine hg.regroup _ ?_
    rw [Nested.sizeList, Nested.size, sizeList_lines]
    omega
  have hlift (items : List Nested) : (liftM (.ok items : Except Fault _) : Naming _) = pure items := rfl
  rw [convertAll, hlines, hgroups, hlift, pure_bind, hregroup, hlift, pure_bind, convertNested_singleton]
  simp [unlines, join]

namespace Callback
variable {b : Callback}

theorem not_mem_newline_callbacks (bs : List Callback) : ∀ l ∈ bs.flatMap lines, '\n' ∉ l := by
  intro l hl
  obtain ⟨b, -, hl⟩ := mem_flatMap.mp hl
  exact b.not_mem_newline l hl

theorem not_methodName {name rest rest' : Text} {s : NameSupply} (h : MethodName name) :
    name ++ '(' :: rest ≠ s.next.1 ++ '(' :: rest' := by
  obtain ⟨z, tail, hz, -, rfl⟩ := h
  intro heq
  rw [append_assoc, cons_append] at heq
  have hdot : '.' ∉ s.next.1 := not_mem_next (by decide) s
  obtain ⟨mid, rfl, hmid⟩ := cut_right hdot heq.symm
  cases mid with
  | nil => exact absurd (cons.inj hmid).1 (by decide)
  | cons d mid =>
    obtain ⟨rfl, -⟩ := cons.inj hmid
    exact absurd (hz '(' (by simp)) (by decide)

theorem converted_alone_iff (b : Callback) (s : NameSupply) :
    (∃ (s₁ s₂ : NameSupply), callback.convertLines b.lines s = .ok (b.converted s₁.next.1, s₂)) ↔ ¬b.NamesFunction := by
  obtain ⟨q, hq, hconvert⟩ := b.convertLines_alone s
  have hbraced : ∀ l ∈ b.lines, Braced (· = b.toCallHeader) l := b.braced_lines rfl
  constructor
  · rintro ⟨s₁, s₂, heq⟩ hnames
    have hfound := found_functionName hnames (b.inner ++ '}' :: (");" ++ behind []))
    rw [← b.unlines_lines, append_nil] at hfound
    obtain ⟨m, hm⟩ := Option.isSome_iff_exists.mp hfound
    have hname : MethodName (named (unlines b.lines) s).1 := by
      rw [named, hm]
      exact (search?_functionName (Braced.unlines hbraced).headed hm).2
    have htext := (Prod.mk.inj (Except.ok.inj (hconvert.symm.trans heq))).1
    unfold converted definition at htext
    simp only [append_assoc] at htext
    exact not_methodName hname (append_cancel_left htext)
  · intro hplain
    have hnone : functionName.search? (unlines b.lines) = none := by
      cases hm : functionName.search? (unlines b.lines) with
      | none => rfl
      | some m =>
        obtain ⟨⟨h, rfl, hnames⟩, -⟩ := search?_functionName (Braced.unlines hbraced).headed hm
        exact absurd hnames hplain
    obtain rfl : q = b.parameter := hq.resolve_right fun hq => hplain hq.1
    have hnamed : named (unlines b.lines) s = s.next := by rw [named, hnone]
    rw [hnamed] at hconvert
    exact ⟨s, s.next.2, hconvert⟩

end Callback

theorem convertAll_single (s : NameSupply) :
    callback.convertAll (unlines ([b].flatMap Callback.lines)) s = callback.convertLines b.lines s := by
  rw [flatMap_singleton, convertAll_of_regroups (Segment.whole b) b.not_mem_newline (becomes_whole b).1,
    (becomes_whole b).2]

theorem convertAll_neighbours (b c : Callback) (bs : List Callback) (s : NameSupply) :
    callback.convertAll (unlines ((b :: c :: bs).flatMap Callback.lines)) s = .error .noBody ∨
      ∃ t s', callback.convertAll (unlines ((b :: c :: bs).flatMap Callback.lines)) s = .ok (t, s') ∧ '{' ∈ t := by
  obtain ⟨g, hg, hbecomes⟩ := becomes_next b (segment_of_callbacks c bs) fun _ h _ => h.becomes
  have hconvert := convertAll_of_regroups (segment_of_callbacks b (c :: bs))
    (Callback.not_mem_newline_callbacks (b :: c :: bs)) hg s
  rw [hconvert]
  exact (hbecomes s).imp_right fun ⟨t, s', hok, _, hbrace⟩ => ⟨t, s', hok, hbrace⟩

theorem convertAll_noBody (b c : Callback) (bs : List Callback) (hlen : bs.length ≤ c.body.length) (s : NameSupply) :
    callback.convertAll (unlines ((b :: (bs ++ [c])).flatMap Callback.lines)) s = .error .noBody := by
  obtain ⟨g, hg, herror⟩ := becomes_error bs c c.body.length (by rwa [take_length])
  have hsplit : (b :: (bs ++ [c])).flatMap Callback.lines =
      b.lines ++ ((bs.flatMap Callback.lines ++ c.opening :: c.body.take c.body.length) ++ [closingBrace]) := by
    rw [take_length]
    simp [Callback.lines]
  have hregroups := regroups_next b closingBrace (segment_of_part bs c _) hg
  rw [← hsplit] at hregroups
  rw [convertAll_of_regroups (segment_of_callbacks b (bs ++ [c])) (Callback.not_mem_newline_callbacks _) hregroups,
    convertItem_deep callback b.lines closingBrace hg.isLine]
  exact naming_bind_error (herror s)

theorem not_mem_converted {bs : List Callback} {names : List Text} (h : ∀ name ∈ names, Given name) :
    '{' ∉ unlines (zipWith Callback.converted bs names) := by
  intro hmem
  obtain ⟨u, hu, hin⟩ := infix_join (cons_ne_nil _ _) (by decide) ((singleton_infix_iff '{' _).mpr hmem)
  rw [← map_uncurry_zip_eq_zipWith] at hu
  obtain ⟨⟨b, name⟩, hpair, rfl⟩ := mem_map.mp hu
  have hname := h name (of_mem_zip hpair).2
  rcases mem_append.mp (hin.subset mem_cons_self) with hdef | hcall
  · exact Callback.not_mem_definition hname (.inl rfl) (by decide) hdef
  · exact Callback.not_mem_call hname (by decide) ((mem_cons.mp hcall).resolve_left (by decide))

/-- Callbacks one after the other are converted, each with a name of its own, just if there is only one and
its receiver is not read as the name of a function. Others are converted wrongly, or not at all: the latter
as long as they are not more than the last one has lines. -/
theorem callbacks_converted_iff {bs : List Callback} (hne : bs ≠ []) (s : NameSupply) :
    ((∃ (names : List Text) (s' : NameSupply), callback.convertAll (unlines (bs.flatMap Callback.lines)) s =
          .ok (unlines (zipWith Callback.converted bs names), s') ∧
        names.length = bs.length ∧ names.Nodup ∧ ∀ name ∈ names, ∃ s₁ : NameSupply, name = s₁.next.1) ↔
      ∃ b, bs = [b] ∧ ¬b.NamesFunction) ∧
    ∀ front last, bs = front ++ [last] → front ≠ [] → bs.length ≤ last.lines.length →
      callback.convertAll (unlines (bs.flatMap Callback.lines)) s = .error .noBody := by
  refine ⟨⟨?_, ?_⟩, ?_⟩
  · rintro ⟨names, s', hok, hlen, -, hdrawn⟩
    match bs, hne with
    | [b], _ =>
      obtain ⟨name, rfl⟩ := length_eq_one_iff.mp hlen
      obtain ⟨s₁, rfl⟩ := hdrawn name mem_cons_self
      rw [convertAll_single] at hok
      exact ⟨b, rfl, (b.converted_alone_iff s).mp ⟨s₁, s', hok⟩⟩
    | b :: c :: bs, _ =>
      exfalso
      rcases convertAll_neighbours b c bs s with herror | ⟨t, s'', hok', hbrace⟩
      · exact absurd (herror.symm.trans hok) (fun h => nomatch h)
      · obtain rfl := (Prod.mk.inj (Except.ok.inj (hok'.symm.trans hok))).1
        exact not_mem_converted (fun name hname => .inl (hdrawn name hname)) hbrace
  · rintro ⟨b, rfl, hplain⟩
    obtain ⟨s₁, s₂, hok⟩ := (b.converted_alone_iff s).mpr hplain
    refine ⟨[s₁.next.1], s₂, by rw [convertAll_single, hok]; rfl, rfl, by simp, ?_⟩
    exact forall_mem_singleton.mpr ⟨s₁, rfl⟩
  · rintro front last rfl hfront hlen
    obtain ⟨b, front, rfl⟩ := exists_cons_of_ne_nil hfront
    refine convertAll_noBody b last front ?_ s
    simp only [Callback.lines, length_cons, length_append] at hlen
    omega

def returning (target receiver : Text) (ht : IsSymbol target) (hr : IsSymbol receiver) : Callback where
  target := target
  receiver := receiver
  parameter := "p"
  isSymbol_target := ht
  isSymbol_receiver := hr
  isSymbol_parameter := by decide
  body := ["    return p;"]
  body_ne_nil := by decide
  body_plain := by simp

def firstCallback : Callback :=
  returning "v" "r" (by decide) (by decide)

def secondCallback : Callback :=
  returning "w" "s" (by decide) (by decide)

def functionsCallback : Callback :=
  returning "v" "functions" (by decide) (by decide)

theorem not_namesFunction_first : ¬firstCallback.NamesFunction := by
  rintro ⟨c, -, hin⟩
  exact absurd hin.length_le (by simp [firstCallback, returning])

theorem namesFunction_functions : functionsCallback.NamesFunction :=
  ⟨'s', by decide, [], ['.'], rfl⟩

/-- One callback is converted; a second one behind it makes it fail, and so does a receiver with the word in it. -/
theorem one_callback_converted : [firstCallback] ≠ [] ∧
    (∃ (names : List Text) (s' : NameSupply),
      callback.convertAll (unlines ([firstCallback].flatMap Callback.lines)) {} =
        .ok (unlines (zipWith Callback.converted [firstCallback] names), s') ∧
      names.length = 1 ∧ names.Nodup ∧ ∀ name ∈ names, ∃ s₁ : NameSupply, name = s₁.next.1) ∧
    callback.convertAll (unlines ([firstCallback, secondCallback].flatMap Callback.lines)) {} = .error .noBody ∧
    ¬∃ (names : List Text) (s' : NameSupply),
      callback.convertAll (unlines ([functionsCallback].flatMap Callback.lines)) {} =
        .ok (unlines (zipWith Callback.converted [functionsCallback] names), s') ∧
      names.length = 1 ∧ names.Nodup ∧ ∀ name ∈ names, ∃ s₁ : NameSupply, name = s₁.next.1 := by
  refine ⟨cons_ne_nil _ _, ?_, ?_, ?_⟩
  · exact (callbacks_converted_iff (cons_ne_nil _ _) {}).1.mpr ⟨firstCallback, rfl, not_namesFunction_first⟩
  · exact (callbacks_converted_iff (cons_ne_nil _ _) {}).2 [firstCallback] secondCallback rfl
      (cons_ne_nil _ _) (by decide)
  · intro h
    obtain ⟨b, hb, hplain⟩ := (callbacks_converted_iff (cons_ne_nil _ _) {}).1.mp h
    obtain rfl : functionsCallback = b := singleton_inj.mp hb
    exact hplain namesFunction_functions

end Geoscript.Script
