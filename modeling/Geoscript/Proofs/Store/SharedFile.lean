import Mathlib.Logic.Relation
import Geoscript.Proofs.Store.Path

/-! Modules that are kept in one file: repository paths whose addresses are respellings of each other
(`path_eq_iff_alike`), and addresses that end in the same name, whatever the rest. -/

namespace Geoscript.Store
open List Text Relation

def ending : Text := ".js"

def withEnding (t : Text) : Text :=
  if ending.isSuffixOf t then t else t ++ ending

/-- One step from a spelling of an address to another: the ending is added where there is none, a slash is
written twice, or a single dot is put between slashes. -/
inductive Respelled : Text → Text → Prop
  | ending {t : Text} : ¬ending <:+ t → Respelled t (t ++ ending)
  | slash (a b : Text) : Respelled (a ++ '/' :: b) (a ++ '/' :: '/' :: b)
  | dot (a b : Text) : Respelled (a ++ '/' :: b) (a ++ '/' :: '.' :: '/' :: b)

variable {a b t u v : Text} {x y : ModuleName}

/-! ### The ending -/

theorem withEnding_of_suffix (h : ending <:+ t) : withEnding t = t := by
  rw [withEnding, if_pos (isSuffixOf_iff_suffix.mpr h)]

theorem withEnding_of_not_suffix (h : ¬ending <:+ t) : withEnding t = t ++ ending := by
  rw [withEnding, if_neg (by rwa [isSuffixOf_iff_suffix])]

theorem withEnding_cases (t : Text) : ending <:+ t ∧ withEnding t = t ∨ ¬ending <:+ t ∧ withEnding t = t ++ ending := by
  by_cases h : ending <:+ t
  · exact .inl ⟨h, withEnding_of_suffix h⟩
  · exact .inr ⟨h, withEnding_of_not_suffix h⟩

theorem suffix_append_cons_iff {c : Char} (hc : c ∉ u) : u <:+ a ++ c :: b ↔ u <:+ b := by
  refine ⟨fun h => ?_, fun h => h.trans ((suffix_cons c b).trans (suffix_append a _))⟩
  rcases suffix_or_suffix_of_suffix h (suffix_append a (c :: b)) with h | h
  · exact (suffix_cons_iff.mp h).resolve_left fun heq => hc (heq ▸ mem_cons_self)
  · exact absurd (h.subset mem_cons_self) hc

theorem withEnding_append_cons (a b : Text) : withEnding (a ++ '/' :: b) = a ++ '/' :: withEnding b := by
  have hiff : ending <:+ a ++ '/' :: b ↔ ending <:+ b := suffix_append_cons_iff (by decide)
  rcases withEnding_cases b with ⟨h, hb⟩ | ⟨h, hb⟩
  · rw [hb, withEnding_of_suffix (hiff.mpr h)]
  · rw [hb, withEnding_of_not_suffix (mt hiff.mp h), append_assoc, cons_append]

theorem fields_withEnding (t : Text) : ∃ front last, fields '/' (withEnding t) = front ++ [last] ∧
    Path.tells last ∧ ending <:+ last := by
  obtain ⟨s, hs⟩ : ∃ s, withEnding t = s ++ ending := by
    rcases withEnding_cases t with ⟨⟨s, hs⟩, ht⟩ | ⟨-, ht⟩
    · exact ⟨s, by rw [ht, hs]⟩
    · exact ⟨t, ht⟩
  refine ⟨(fields '/' s).dropLast, (fields '/' s).getLast fields_ne_nil ++ ending, ?_, ?_, suffix_append _ _⟩
  · rw [hs]
    exact fields_append_of_not_mem (by decide) (dropLast_concat_getLast fields_ne_nil).symm
  · exact Path.tells_of_length (by rw [length_append]; exact Nat.lt_add_left _ (by decide))

/-! ### Respellings -/

theorem Path.parts_append_cons (a b : Text) :
    (ofText (a ++ '/' :: b)).parts = (ofText a).parts ++ (ofText b).parts := by
  rw [parts_ofText, parts_ofText, parts_ofText, fields_append_sep, filter_append]

theorem Respelled.parts (h : Respelled u v) :
    (Path.ofText (withEnding u)).parts = (Path.ofText (withEnding v)).parts := by
  cases h with
  | ending h => rw [withEnding_of_not_suffix h, withEnding_of_suffix (suffix_append _ _)]
  | slash a b =>
    have hslash : (Path.ofText (withEnding ('/' :: b))).parts = (Path.ofText (withEnding b)).parts := by
      rw [show '/' :: b = [] ++ '/' :: b from rfl, withEnding_append_cons, Path.parts_append_cons]
      rfl
    rw [withEnding_append_cons, withEnding_append_cons, Path.parts_append_cons, Path.parts_append_cons, hslash]
  | dot a b =>
    have hdot : (Path.ofText (withEnding ('.' :: '/' :: b))).parts = (Path.ofText (withEnding b)).parts := by
      rw [show '.' :: '/' :: b = ['.'] ++ '/' :: b from rfl, withEnding_append_cons, Path.parts_append_cons]
      rfl
    rw [withEnding_append_cons, withEnding_append_cons, Path.parts_append_cons, Path.parts_append_cons, hdot]

theorem parts_eq_of_respelled (h : EqvGen Respelled u v) :
    (Path.ofText (withEnding u)).parts = (Path.ofText (withEnding v)).parts := by
  induction h with
  | rel _ _ h => exact h.parts
  | refl _ => rfl
  | symm _ _ _ ih => exact ih.symm
  | trans _ _ _ _ _ ih ih' => exact ih.trans ih'

theorem respelled_filter (a : Text) (front : List Text) (last : Text) :
    EqvGen Respelled (a ++ '/' :: join ['/'] (front ++ [last]))
      (a ++ '/' :: join ['/'] (front.filter Path.tells ++ [last])) := by
  induction front generalizing a with
  | nil => exact .refl _
  | cons part front ih =>
    have hjoin : ∀ ps : List Text, join ['/'] (part :: ps ++ [last]) = part ++ '/' :: join ['/'] (ps ++ [last]) := by
      intro ps
      rw [cons_append, join_cons _ _ (by simp), append_assoc]
      rfl
    by_cases hpart : Path.tells part
    · have hshift : ∀ ps : List Text, a ++ '/' :: join ['/'] (part :: ps ++ [last]) =
          (a ++ '/' :: part) ++ '/' :: join ['/'] (ps ++ [last]) := by
        intro ps
        rw [hjoin, append_assoc, cons_append]
      rw [filter_cons_of_pos hpart, hshift, hshift]
      exact ih _
    · rw [filter_cons_of_neg hpart, hjoin]
      refine .trans _ _ _ (.symm _ _ (.rel _ _ ?_)) (ih a)
      have hnothing : part = [] ∨ part = ['.'] := by
        rw [Path.tells, Bool.and_eq_true, Bool.not_eq_true', bne_iff_ne, isEmpty_eq_false_iff] at hpart
        exact Decidable.or_iff_not_not_and_not.mpr hpart
      rcases hnothing with rfl | rfl
      · exact .slash a _
      · exact .dot a _

theorem respelled_parts (a t : Text) :
    EqvGen Respelled (a ++ '/' :: t) (a ++ '/' :: join ['/'] (Path.ofText (withEnding t)).parts) := by
  obtain ⟨front, last, hfields, htells, -⟩ := fields_withEnding t
  have hfilter := respelled_filter a front last
  rw [← hfields, join_fields] at hfilter
  rw [Path.parts_ofText, hfields, filter_append, filter_cons_of_pos htells, filter_nil]
  refine .trans _ _ _ ?_ hfilter
  rcases withEnding_cases t with ⟨-, ht⟩ | ⟨hnot, ht⟩
  · rw [ht]
    exact .refl _
  · have hiff : ending <:+ a ++ '/' :: t ↔ ending <:+ t := suffix_append_cons_iff (by decide)
    have hrel := Respelled.ending (mt hiff.mp hnot)
    rw [append_assoc, cons_append, ← ht] at hrel
    exact .rel _ _ hrel

theorem respelled_iff (a t u : Text) : EqvGen Respelled (a ++ '/' :: t) (a ++ '/' :: u) ↔
      (Path.ofText (withEnding t)).parts = (Path.ofText (withEnding u)).parts := by
  constructor
  · intro h
    have hparts := parts_eq_of_respelled h
    rw [withEnding_append_cons, withEnding_append_cons, Path.parts_append_cons, Path.parts_append_cons] at hparts
    exact append_cancel_left hparts
  · intro h
    have ht := respelled_parts a t
    rw [h] at ht
    exact ht.trans _ _ _ (.symm _ _ (respelled_parts a u))

/-! ### Files of two modules -/

namespace ModuleName

theorem eq_of_slashed_eq (h : '/' ∉ slashed x) : slashed x = x := by
  refine (map_congr_left fun c hc => ?_).trans (map_id x)
  have hmem : (if c == ':' then '/' else c) ∈ slashed x := mem_map_of_mem hc
  split
  · next hcolon =>
    rw [if_pos hcolon] at hmem
    exact absurd hmem h
  · rfl

theorem ending_suffix_slashed_iff : ending <:+ slashed x ↔ ending <:+ x := by
  constructor
  · rintro ⟨s, hs⟩
    obtain ⟨p, q, rfl, -, hq⟩ := map_eq_append_iff.mp hs.symm
    have hq' : slashed q = ending := hq
    have hsame : slashed q = q := eq_of_slashed_eq (by rw [hq']; decide)
    exact ⟨p, by rw [← hq', hsame]⟩
  · rintro ⟨s, rfl⟩
    exact ⟨slashed s, by rw [slashed, slashed, map_append]; rfl⟩

theorem path_of_not_isAddress (h : isAddress x = false) : path x = Path.ofText (withEnding (slashed x)) := by
  rw [path, h, if_neg Bool.false_ne_true]
  show (if ending.isSuffixOf x then _ else _) = _
  rcases withEnding_cases (slashed x) with ⟨hending, hwith⟩ | ⟨hending, hwith⟩
  · rw [ending_suffix_slashed_iff] at hending
    rw [hwith, if_pos (isSuffixOf_iff_suffix.mpr hending)]
  · rw [ending_suffix_slashed_iff] at hending
    rw [hwith, if_neg (by rwa [isSuffixOf_iff_suffix])]
    rfl

end ModuleName

theorem Path.rootOf_withEnding (t : Text) : rootOf (withEnding t) = rootOf t := by
  rcases withEnding_cases t with ⟨-, ht⟩ | ⟨-, ht⟩
  · rw [ht]
  · have hslashes : (t ++ ending).takeWhile (· == '/') = t.takeWhile (· == '/') := by
      clear ht
      induction t with
      | nil => rfl
      | cons c t ih => rw [cons_append, takeWhile_cons, takeWhile_cons, ih]
    rw [ht, rootOf, rootOf, hslashes]

/-- The addresses of two names are respellings of each other, and both names start at the same root. -/
def Alike (x y : ModuleName) : Prop :=
  EqvGen Respelled x.url y.url ∧ Path.rootOf x.slashed = Path.rootOf y.slashed

theorem url_of_not_isAddress (h : x.isAddress = false) :
    x.url = "https://storage.googleapis.com/ee-sources" ++ '/' :: x.slashed := by
  rw [ModuleName.url, h, if_neg Bool.false_ne_true, show "https://storage.googleapis.com/ee-sources/" =
      "https://storage.googleapis.com/ee-sources" ++ ['/'] from rfl, append_assoc, singleton_append]

theorem path_eq_iff_alike (hx : x.isAddress = false) (hy : y.isAddress = false) : x.path = y.path ↔ Alike x y := by
  have hroot : ∀ t : Text, (Path.ofText (withEnding t)).root = Path.rootOf t := Path.rootOf_withEnding
  have hpath : ∀ p q : Path, p = q ↔ p.root = q.root ∧ p.parts = q.parts := by
    rintro ⟨r, ps⟩ ⟨r', ps'⟩
    exact Path.mk.injEq r ps r' ps' ▸ .rfl
  rw [Alike, url_of_not_isAddress hx, url_of_not_isAddress hy, respelled_iff,
    ModuleName.path_of_not_isAddress hx, ModuleName.path_of_not_isAddress hy, hpath, hroot, hroot]
  exact and_comm

/-- The name that spells out the file of an address. -/
def ModuleName.kept (x : ModuleName) : ModuleName :=
  x.addressFolder ++ '/' :: (Path.ofText x).name

/-- A repository path leads to the file of an address: it is a spelling of that file, whose name has the
ending and no colon. -/
structure LeadsTo (y x : ModuleName) : Prop where
  ended : ending <:+ (Path.ofText x).name
  colon : ':' ∉ (Path.ofText x).name
  alike : Alike x.kept y

theorem isAddress_kept (x : ModuleName) : x.kept.isAddress = false := rfl

theorem slashed_of_not_mem (h : ':' ∉ x) : x.slashed = x := by
  refine (map_congr_left fun c hc => ?_).trans (map_id x)
  have hne : c ≠ ':' := fun hcolon => h (hcolon ▸ hc)
  exact if_neg (by simpa using hne)

theorem path_kept (hx : x.isAddress) (hending : ending <:+ (Path.ofText x).name)
    (hcolon : ':' ∉ (Path.ofText x).name) : x.kept.path = x.path := by
  have hkept : ':' ∉ x.kept := by
    rw [ModuleName.kept, ModuleName.addressFolder_eq, append_assoc, mem_append, mem_append, mem_cons]
    rintro (h | h | h | h)
    · exact absurd h (by decide)
    · exact hcolon (Path.stem_subset_name _ h)
    · exact absurd h (by decide)
    · exact hcolon h
  have hsuffix : ending <:+ x.kept := (suffix_append_cons_iff (by decide)).mpr hending
  rw [ModuleName.path_of_not_isAddress (isAddress_kept x), slashed_of_not_mem hkept, withEnding_of_suffix hsuffix,
    ModuleName.path, if_pos hx]
  rfl

theorem name_path_of_not_isAddress (h : y.isAddress = false) : ending <:+ y.path.name ∧ ':' ∉ y.path.name := by
  obtain ⟨front, last, hfields, htells, hending⟩ := fields_withEnding y.slashed
  have hname : y.path.name = last := by
    rw [ModuleName.path_of_not_isAddress h, Path.name, Path.parts_ofText, hfields, filter_append,
      filter_cons_of_pos htells, filter_nil, getLast?_concat]
    rfl
  refine ⟨hname ▸ hending, fun hcolon => ?_⟩
  have hmem : ':' ∈ withEnding y.slashed :=
    mem_of_mem_fields (hfields ▸ mem_append_right front mem_cons_self) (hname ▸ hcolon)
  have hslashed : ':' ∉ y.slashed := by
    rw [ModuleName.slashed, mem_map]
    rintro ⟨c, -, hc⟩
    split at hc
    · cases hc
    · next hne => exact hne (by rw [hc]; rfl)
  rcases withEnding_cases y.slashed with ⟨-, hwith⟩ | ⟨-, hwith⟩
  · exact hslashed (hwith ▸ hmem)
  · rw [hwith, mem_append] at hmem
    exact hmem.elim hslashed (by decide)

theorem path_eq_iff_leadsTo (hx : x.isAddress) (hy : y.isAddress = false) : x.path = y.path ↔ LeadsTo y x := by
  refine ⟨fun h => ?_, fun h => ?_⟩
  · obtain ⟨hending, hcolon⟩ := name_path_of_not_isAddress hy
    have hname : y.path.name = (Path.ofText x).name := by
      rw [← h, ModuleName.path_of_isAddress hx]
      rfl
    rw [hname] at hending hcolon
    refine ⟨hending, hcolon, (path_eq_iff_alike (isAddress_kept x) hy).mp ?_⟩
    rw [path_kept hx hending hcolon, h]
  · rw [← path_kept hx h.ended h.colon]
    exact (path_eq_iff_alike (isAddress_kept x) hy).mpr h.alike

theorem path_eq_iff_name (hx : x.isAddress) (hy : y.isAddress) :
    x.path = y.path ↔ (Path.ofText x).name = (Path.ofText y).name := by
  rw [ModuleName.path_of_isAddress hx, ModuleName.path_of_isAddress hy]
  refine ⟨fun h => ?_, fun h => ?_⟩
  · simp only [Path.mk.injEq, cons.injEq] at h
    exact h.2.2.1
  · rw [ModuleName.addressFolder_eq, ModuleName.addressFolder_eq, Path.stem, Path.stem, h]

/-- A repository path without the ending, and without empty parts and single dots before its last part. -/
structure Plain (x : ModuleName) : Prop where
  repository : x.isAddress = false
  parts : ∀ part ∈ (fields '/' x.slashed).dropLast, Path.tells part
  bare : ¬ending <:+ x

theorem Plain.path_parts (h : Plain x) :
    ∃ front last, fields '/' x.slashed = front ++ [last] ∧ x.path.parts = front ++ [last ++ ending] := by
  have hfields := (dropLast_concat_getLast (@fields_ne_nil '/' x.slashed)).symm
  refine ⟨_, _, hfields, ?_⟩
  rw [ModuleName.path_of_not_isAddress h.repository,
    withEnding_of_not_suffix (mt ModuleName.ending_suffix_slashed_iff.mp h.bare),
    Path.parts_ofText_append hfields (by decide) (by decide), filter_eq_self.mpr h.parts]

theorem Plain.url_eq (hx : Plain x) (hy : Plain y) (h : x.path = y.path) : x.url = y.url := by
  obtain ⟨front, last, hfields, hparts⟩ := hx.path_parts
  obtain ⟨front', last', hfields', hparts'⟩ := hy.path_parts
  have hsame : fields '/' x.slashed = fields '/' y.slashed := by
    rw [h, hparts'] at hparts
    obtain ⟨hfront, hlast⟩ := append_inj' hparts rfl
    rw [hfields, hfields', hfront, append_cancel_right (singleton_inj.mp hlast)]
  rw [url_of_not_isAddress hx.repository, url_of_not_isAddress hy.repository, ← join_fields '/' x.slashed, hsame,
    join_fields]

/-- Two modules are kept in one file exactly if they are addresses that end in the same name, or repository
paths that are spelled alike, or an address and a repository path that leads to its file. Modules that are
spelled plainly and kept in one file are downloaded from one address. -/
theorem same_file_iff (x y : ModuleName) : (x.path = y.path ↔
      x.isAddress ∧ y.isAddress ∧ (Path.ofText x.url).name = (Path.ofText y.url).name ∨
      x.isAddress = false ∧ y.isAddress = false ∧ Alike x y ∨
      x.isAddress ∧ y.isAddress = false ∧ LeadsTo y x ∨
      x.isAddress = false ∧ y.isAddress ∧ LeadsTo x y) ∧
    (Plain x → Plain y → x.path = y.path → x.url = y.url) := by
  refine ⟨?_, Plain.url_eq⟩
  cases hx : x.isAddress with
  | true =>
    cases hy : y.isAddress with
    | true => simp [path_eq_iff_name hx hy, ModuleName.url, hx, hy]
    | false => simp [path_eq_iff_leadsTo hx hy]
  | false =>
    cases hy : y.isAddress with
    | true => simp [eq_comm (a := x.path), path_eq_iff_leadsTo hy hx]
    | false => simp [path_eq_iff_alike hx hy]

/-- A colon and a slash are two spellings of one plain name. -/
theorem colon_and_slash_share : Plain "users/a/b:m" ∧ Plain "users/a/b/m" ∧
    ModuleName.url "users/a/b:m" = ModuleName.url "users/a/b/m" := by
  have hcolon : Plain "users/a/b:m" := ⟨by decide, by decide, by decide⟩
  have hslash : Plain "users/a/b/m" := ⟨by decide, by decide, by decide⟩
  exact ⟨hcolon, hslash, (same_file_iff _ _).2 hcolon hslash (by decide)⟩

/-- A name with the ending is kept in the file of the name without it, and an address in the file of any other
with the same last part. -/
theorem one_file_two_addresses : (ModuleName.path "users/a/b:m" = ModuleName.path "users/a/b:m.js" ∧
      ModuleName.url "users/a/b:m" ≠ ModuleName.url "users/a/b:m.js") ∧
    ModuleName.path "https://x.org/m.js" = ModuleName.path "https://y.org/m.js" ∧
      ModuleName.url "https://x.org/m.js" ≠ ModuleName.url "https://y.org/m.js" := by
  decide +kernel

end Geoscript.Store
