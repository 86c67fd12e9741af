import Geoscript.Proofs.Text.Replace
import Geoscript.Script.Method.Basic

/-! Each of the texts in front of a generated script defines the function it is for and no other one with the mark of
the helpers (`DefinesOnly`). They are read line by line. -/

namespace Geoscript.Script
open List Text
variable {t d f name : Text}

def Defines (t name : Text) : Prop :=
  "def ".toList ++ name ++ ['('] <:+: t

def definedIn : Text → List Text
  | [] => []
  | c :: t =>
    if ['d', 'e', 'f', ' '].isPrefixOf (c :: t) then (t.drop 3).takeWhile (· != '(') :: definedIn t
    else definedIn t

def DefinesOnly (f d : Text) : Prop :=
  Defines d f ∧ ∀ name, '(' ∉ name → '\n' ∉ name → "__ee_extra" <+: name → Defines d name → name = f

theorem mem_definedIn (hname : '(' ∉ name) (h : Defines t name) : name ∈ definedIn t := by
  induction t with
  | nil => exact absurd (infix_nil.mp h) (by simp)
  | cons c t ih =>
    rw [definedIn]
    rcases infix_cons_iff.mp h with ⟨rest, hrest⟩ | h
    · have hpre : ['d', 'e', 'f', ' '].isPrefixOf (c :: t) := by
        rw [List.isPrefixOf_iff_prefix, ← hrest]
        exact ⟨name ++ ['('] ++ rest, by simp⟩
      have ht : t.drop 3 = name ++ '(' :: rest := by
        have := congrArg (drop 4) hrest
        simpa using this.symm
      have hkeep : ∀ d ∈ name, (d != '(') := fun d hd => by
        rw [bne_iff_ne]
        exact fun heq => hname (heq ▸ hd)
      rw [if_pos hpre, ht, takeWhile_append_of_pos hkeep]
      simp
    · split
      · exact mem_cons_of_mem _ (ih h)
      · exact ih h

theorem Defines.line {ls : List Text} (hname : '\n' ∉ name) (h : Defines (unlines ls) name) :
    ∃ l ∈ ls, Defines l name :=
  infix_join (by simp) (by simpa using hname) h

theorem definesOnly_of_lines {ls : List Text}
    (hsome : ls.any (("def ".toList ++ f ++ ['(']).isPrefixOf ·))
    (hall : (ls.all fun l =>
      (definedIn l).all fun name => name == f || !"__ee_extra".toList.isPrefixOf name)) :
    DefinesOnly f (unlines ls) := by
  refine ⟨?_, fun name hparen hline hmark h => ?_⟩
  · obtain ⟨l, hl, hpre⟩ := any_eq_true.mp hsome
    exact (List.isPrefixOf_iff_prefix.mp hpre).isInfix.trans (infix_join_of_mem hl)
  · obtain ⟨l, hl, h⟩ := h.line hline
    have hname := all_eq_true.mp (all_eq_true.mp hall l hl) name (mem_definedIn hparen h)
    rw [List.isPrefixOf_iff_prefix.mpr hmark] at hname
    simpa using hname

/-! ### The texts -/

theorem map_toList_cons {s : String} {l : Text} {ss : List String} {ls : List Text} (hs : s = String.ofList l)
    (hss : ss.map String.toList = ls) : (s :: ss).map String.toList = l :: ls := by
  rw [hs, map_cons, String.toList_ofList, hss]

theorem ofList_append {s u : String} {l m : Text} (hs : s = String.ofList l) (hu : u = String.ofList m) :
    s ++ u = String.ofList (l ++ m) := by
  rw [hs, hu, String.ofList_append]

theorem definesOnly_ofLines {ss : List String} {ls : List Text} (hss : ss.map String.toList = ls)
    (h : DefinesOnly f (unlines ls)) : DefinesOnly f (ofLines ss) := by
  rwa [ofLines, hss]

theorem definesOnly_all : (∀ m ∈ Method.all, DefinesOnly m.standIn m.definition) ∧
      ∀ f ∈ GlobalFunction.all, DefinesOnly f.standIn f.definition := by
  rw [Method.all, GlobalFunction.all]
  refine ⟨?_, ?_⟩
  all_goals
    repeat' first
      | exact forall_mem_nil _
      | refine forall_mem_cons.mpr ⟨?_, ?_⟩
  all_goals
    apply definesOnly_ofLines
    · repeat' first
        | apply map_toList_cons
        | exact map_nil
        | with_reducible apply ofList_append
        | exact rfl
    · exact definesOnly_of_lines rfl rfl

theorem defines_varName : DefinesOnly "varName" Definition.varName := by
  apply definesOnly_ofLines
  · repeat apply map_toList_cons rfl
    exact map_nil
  · exact definesOnly_of_lines rfl rfl

end Geoscript.Script
