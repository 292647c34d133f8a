import Mathlib
import ActorDiagram.Proofs.BalancedBrackets
import ActorDiagram.Proofs.Pairing
import ActorDiagram.Proofs.Tiling

/-!
# What is reported about brackets

Every bracket of a text has a partner or is reported once, at its place, and nothing else is reported. Pairs
are of one kind and do not cross. Where nothing is reported the brackets balance, and a token lies as deep
as there are pairs around it.
-/

namespace ActorDiagram.Stream

/-- What is reported at the place of a token. -/
def problemsAt (s : Stream) (t : Token) : List BracketFault :=
  s.problems.filter fun p => (p.line, p.column) = (t.line, t.column)

/-- What the pairs, problems and depths of a stream say about its brackets. -/
structure Matched (s : Stream) : Prop where
  pair : ∀ i c, (i, c) ∈ s.pairs → i < c ∧ ∃ t u, s.get? i = some t ∧ s.get? c = some u ∧
    t.kind = .mark ∧ u.kind = .mark ∧ (t.text, u.text) ∈ bracketKinds
  openings : (s.pairs.map Prod.fst).Nodup
  closings : (s.pairs.map Prod.snd).Nodup
  apart : ∀ i c j d, (i, c) ∈ s.pairs → (j, d) ∈ s.pairs → i < j → c < j ∨ d < c
  opening : ∀ i t, s.get? i = some t → t.opens = true →
    i ∈ s.pairs.map Prod.fst ∧ s.problemsAt t = [] ∨
      i ∉ s.pairs.map Prod.fst ∧ (s.problemsAt t).map (·.cause.reason) = ["unbalanced block"]
  closing : ∀ c u, s.get? c = some u → u.closes = true →
    c ∈ s.pairs.map Prod.snd ∧ s.problemsAt u = [] ∨
      c ∉ s.pairs.map Prod.snd ∧ (s.problemsAt u).map (·.cause.reason) =
        ["unbalanced block: unexpected " ++ Text.quoted u.text]
  reported : ∀ p ∈ s.problems, ∃ i t, s.get? i = some t ∧ (t.opens || t.closes) = true ∧ p ∈ s.problemsAt t
  ordered : s.problems.Pairwise fun p q => p.line < q.line ∨ p.line = q.line ∧ p.column < q.column
  balanced : s.problems = [] ↔ BalancedBrackets (bracketsOf s.lexemes)
  depth : s.problems = [] → ∀ k t, s.get? k = some t →
    t.depth = s.pairs.countP fun p => p.1 < k ∧ k < p.2

variable {s : Stream} {ts : List Lexeme} {i c : Nat}

/-! ### Pairs -/

theorem mem_pairs : (i, c) ∈ s.pairs ↔ s.roles[i]? = some (.opener c) := by
  unfold pairs
  rw [List.mem_filterMap]
  constructor
  · rintro ⟨⟨role, j⟩, hmem, h⟩
    rw [List.mk_mem_zipIdx_iff_getElem?, Array.getElem?_toList] at hmem
    cases role <;> cases h
    exact hmem
  · intro h
    refine ⟨(.opener c, i), ?_, rfl⟩
    rw [List.mk_mem_zipIdx_iff_getElem?, Array.getElem?_toList, h]

lemma mem_pairs_iff_closer : (i, c) ∈ s.pairs ↔ s.closer i = .ok c := by
  rw [mem_pairs, closer_eq_ok_iff]

theorem nodup_openings (s : Stream) : (s.pairs.map Prod.fst).Nodup := by
  have hindices : (s.roles.toList.zipIdx).Pairwise fun x y => x.2 < y.2 := by
    rw [← List.pairwise_map, List.zipIdx_map_snd]
    exact List.pairwise_lt_range'
  refine List.Pairwise.imp Nat.ne_of_lt (List.pairwise_map.mpr ?_)
  refine List.Pairwise.filterMap _ ?_ hindices
  rintro ⟨role, i⟩ ⟨role', j⟩ hij p hp q hq
  cases role <;> cases hp
  cases role' <;> cases hq
  exact hij

theorem nodup_closings (ts : List Lexeme) : ((ofLexemes ts).pairs.map Prod.snd).Nodup := by
  refine List.Nodup.map_on ?_ (nodup_openings _).of_map
  rintro ⟨i, c⟩ hi ⟨j, d⟩ hj rfl
  have hpartner := (BracketState.paired_run ts).partner
  have hij := (hpartner i c).mpr (mem_pairs.mp hi)
  rw [(hpartner j c).mpr (mem_pairs.mp hj)] at hij
  cases hij
  rfl

lemma mem_openings : i ∈ s.pairs.map Prod.fst ↔ ∃ c, s.roles[i]? = some (.opener c) := by
  rw [List.mem_map]
  constructor
  · rintro ⟨⟨i, c⟩, h, rfl⟩
    exact ⟨c, mem_pairs.mp h⟩
  · rintro ⟨c, h⟩
    exact ⟨(i, c), mem_pairs.mpr h, rfl⟩

lemma mem_closings : c ∈ (ofLexemes ts).pairs.map Prod.snd ↔
    ∃ i, (ofLexemes ts).roles[c]? = some (.closer i) := by
  have hpartner := (BracketState.paired_run ts).partner
  rw [List.mem_map]
  constructor
  · rintro ⟨⟨i, c⟩, h, rfl⟩
    exact ⟨i, (hpartner i c).mpr (mem_pairs.mp h)⟩
  · rintro ⟨i, h⟩
    exact ⟨(i, c), mem_pairs.mpr ((hpartner i c).mp h), rfl⟩

/-- Partners are of one kind. -/
theorem pair_kind (h : (i, c) ∈ (ofLexemes ts).pairs) : i < c ∧
    ∃ t u, (ofLexemes ts).get? i = some t ∧ (ofLexemes ts).get? c = some u ∧
      t.kind = .mark ∧ u.kind = .mark ∧ (t.text, u.text) ∈ bracketKinds := by
  have hclosed := mem_pairs_iff_closer.mp h
  obtain ⟨hic, hc⟩ := (nested_ofLexemes ts).lt_closer hclosed
  have ht := get?_of_lt (hic.trans hc)
  have hu := get?_of_lt hc
  obtain ⟨hmark, hkind⟩ :=
    Lexeme.closes?_word_iff.mp ((nested_ofLexemes ts).depth_closer hclosed ht hu).2
  have ho := (BracketState.paired_run ts).fits i _ _ ht (mem_pairs.mp h)
  simp only [BracketRole.Fits, Word.isOpening, Bool.and_eq_true, beq_iff_eq] at ho
  exact ⟨hic, _, _, ht, hu, ho.1, hmark, hkind⟩

/-- Pairs lie one in the other, or one after the other. -/
theorem pairs_apart {j d : Nat} (hp : (i, c) ∈ (ofLexemes ts).pairs) (hq : (j, d) ∈ (ofLexemes ts).pairs)
    (hij : i < j) : c < j ∨ d < c := by
  rcases Nat.lt_trichotomy c j with hlt | rfl | hgt
  · exact .inl hlt
  · have hcloser := ((BracketState.paired_run ts).partner i c).mpr (mem_pairs.mp hp)
    have hopener : (BracketState.run ts).roles[c]? = some (.opener d) := mem_pairs.mp hq
    rw [hcloser] at hopener
    cases hopener
  · rw [mem_pairs_iff_closer] at hp hq
    exact .inr ((nested_ofLexemes ts).closer_lt_closer hp hij hgt hq)

/-! ### Problems -/

lemma exists_role {t : Token} (ht : (ofLexemes ts).get? i = some t) :
    ∃ role : BracketRole, (ofLexemes ts).roles[i]? = some role ∧ role.Fits t.word := by
  have hi : i < (BracketState.run ts).roles.size := by
    rw [(BracketState.nested_run ts).size_eq]
    exact lt_of_get? ht
  have hrole : (ofLexemes ts).roles[i]? = some (BracketState.run ts).roles[i] :=
    Array.getElem?_eq_getElem hi
  exact ⟨_, hrole, (BracketState.paired_run ts).fits i t _ ht hrole⟩

lemma place_of_problem? {t : Token} {role : BracketRole} {p : BracketFault} (h : problem? t role = some p) :
    (p.line, p.column) = (t.line, t.column) := by
  cases role <;> cases h <;> rfl

lemma bracket_of_mem_problems {p : BracketFault} (hp : p ∈ (ofLexemes ts).problems) :
    ∃ i t, (ofLexemes ts).get? i = some t ∧ (p.line, p.column) = (t.line, t.column) ∧
      (t.opens = true ∧ p.cause = .unclosedBracket ∨
        t.closes = true ∧ p.cause = .unexpectedBracket t.text) := by
  obtain ⟨⟨t, role⟩, hmem, hproblem⟩ := List.mem_filterMap.mp hp
  obtain ⟨i, hi⟩ := List.mem_iff_getElem?.mp hmem
  rw [List.getElem?_zip_eq_some, Array.getElem?_toList, Array.getElem?_toList] at hi
  have hfits := (BracketState.paired_run ts).fits i t role hi.1 hi.2
  refine ⟨i, t, hi.1, place_of_problem? hproblem, ?_⟩
  rw [← Lexeme.isOpening_word, ← Lexeme.isSome_closes?_word]
  cases role with
  | plain | opener | closer => cases hproblem
  | unclosed =>
    cases hproblem
    exact .inl ⟨hfits, rfl⟩
  | unexpected =>
    cases hproblem
    exact .inr ⟨hfits, rfl⟩

/-- Only brackets are reported. -/
theorem exists_of_mem_problems {p : BracketFault} (hp : p ∈ (ofLexemes ts).problems) :
    ∃ i t, (ofLexemes ts).get? i = some t ∧ (t.opens || t.closes) = true ∧
      p ∈ (ofLexemes ts).problemsAt t := by
  obtain ⟨i, t, ht, hplace, hbracket⟩ := bracket_of_mem_problems hp
  refine ⟨i, t, ht, ?_, List.mem_filter.mpr ⟨hp, decide_eq_true hplace⟩⟩
  rw [Bool.or_eq_true]
  exact hbracket.imp And.left And.left

lemma filter_filterMap_eq {α β γ : Type} [DecidableEq γ] {f : α → Option β} {place : α → γ}
    {placeOf : β → γ} (hf : ∀ x y, f x = some y → placeOf y = place x) {l : List α}
    (hl : (l.map place).Nodup) {x : α} (hx : x ∈ l) :
    (l.filterMap f).filter (fun y => placeOf y = place x) = (f x).toList := by
  obtain ⟨u, v, rfl⟩ := List.append_of_mem hx
  rw [List.map_append, List.map_cons, List.nodup_middle, List.nodup_cons, ← List.map_append] at hl
  have hnone : ∀ w : List α, (∀ y ∈ w, y ∈ u ++ v) →
      (w.filterMap f).filter (fun y => placeOf y = place x) = [] := by
    intro w hw
    rw [List.filter_eq_nil_iff]
    intro b hb
    obtain ⟨a, ha, hab⟩ := List.mem_filterMap.mp hb
    rw [hf a b hab, decide_eq_true_eq]
    exact fun heq => hl.1 (heq ▸ List.mem_map_of_mem (hw a ha))
  rw [List.filterMap_append, List.filter_append, hnone u fun y => List.mem_append_left v, List.nil_append,
    List.filterMap_cons]
  cases hfx : f x with
  | none => exact hnone v fun y => List.mem_append_right u
  | some b =>
    rw [List.filter_cons_of_pos (by simpa using hf x b hfx), hnone v fun y => List.mem_append_right u]
    rfl

section Starts

variable (hstarts : ts.Pairwise fun t u => t.start.Before u.start)
include hstarts

lemma starts_zip : ((ofLexemes ts).tokens.toList.zip (ofLexemes ts).roles.toList).Pairwise
    fun x y => x.1.start.Before y.1.start := by
  have hsize : (ofLexemes ts).roles.size = (ofLexemes ts).tokens.size := (BracketState.nested_run ts).size_eq
  have hfst := List.map_fst_zip
    (show (ofLexemes ts).tokens.toList.length ≤ (ofLexemes ts).roles.toList.length by simp [hsize])
  rw [← lexemes_ofLexemes ts, lexemes, List.pairwise_map, ← hfst, List.pairwise_map] at hstarts
  exact hstarts

/-- Problems are reported in the order of the text. -/
theorem problems_ordered : (ofLexemes ts).problems.Pairwise
    fun p q => p.line < q.line ∨ p.line = q.line ∧ p.column < q.column := by
  refine List.Pairwise.filterMap _ ?_ (starts_zip hstarts)
  rintro ⟨t, role⟩ ⟨u, role'⟩ hbefore p hp q hq
  obtain ⟨hline, hcolumn⟩ := Prod.mk.inj (place_of_problem? hp)
  obtain ⟨hline', hcolumn'⟩ := Prod.mk.inj (place_of_problem? hq)
  rw [hline, hcolumn, hline', hcolumn']
  exact hbefore.2

/-- At the place of a token, its role tells what is reported. -/
theorem problemsAt_eq {t : Token} {role : BracketRole} (ht : (ofLexemes ts).get? i = some t)
    (hrole : (ofLexemes ts).roles[i]? = some role) :
    (ofLexemes ts).problemsAt t = (problem? t role).toList := by
  have hmem : (t, role) ∈ (ofLexemes ts).tokens.toList.zip (ofLexemes ts).roles.toList := by
    refine List.mem_of_getElem? (i := i) ?_
    rw [List.getElem?_zip_eq_some, Array.getElem?_toList, Array.getElem?_toList]
    exact ⟨ht, hrole⟩
  refine filter_filterMap_eq (f := fun x => problem? x.1 x.2) (fun x p h => place_of_problem? h) ?_ hmem
  refine List.Pairwise.map _ ?_ (starts_zip hstarts)
  rintro x y ⟨-, hbefore⟩ heq
  obtain ⟨hline, hcolumn⟩ := Prod.mk.inj heq
  simp only [Token.line, Token.column] at hline hcolumn
  omega

/-- An opening bracket has a partner, or is reported. -/
theorem opening_reported {t : Token} (ht : (ofLexemes ts).get? i = some t) (ho : t.opens = true) :
    i ∈ (ofLexemes ts).pairs.map Prod.fst ∧ (ofLexemes ts).problemsAt t = [] ∨
      i ∉ (ofLexemes ts).pairs.map Prod.fst ∧
        ((ofLexemes ts).problemsAt t).map (·.cause.reason) = ["unbalanced block"] := by
  rw [← Lexeme.isOpening_word] at ho
  rcases (BracketState.nested_run ts).opening_role i t ht ho with hrole | ⟨c, hrole⟩
  · right
    rw [problemsAt_eq hstarts ht hrole, mem_openings]
    refine ⟨?_, rfl⟩
    rintro ⟨c, hc⟩
    rw [show (ofLexemes ts).roles[i]? = some .unclosed from hrole] at hc
    cases hc
  · left
    rw [problemsAt_eq hstarts ht hrole, mem_openings]
    exact ⟨⟨c, hrole⟩, rfl⟩

/-- A closing bracket has a partner, or is reported. -/
theorem closing_reported {u : Token} (hu : (ofLexemes ts).get? c = some u) (hc : u.closes = true) :
    c ∈ (ofLexemes ts).pairs.map Prod.snd ∧ (ofLexemes ts).problemsAt u = [] ∨
      c ∉ (ofLexemes ts).pairs.map Prod.snd ∧
        ((ofLexemes ts).problemsAt u).map (·.cause.reason) =
          ["unbalanced block: unexpected " ++ Text.quoted u.text] := by
  rw [← Lexeme.isSome_closes?_word] at hc
  obtain ⟨role, hrole, hfits⟩ := exists_role hu
  rw [problemsAt_eq hstarts hu hrole, mem_closings, hrole]
  have hnotOpening : u.word.isOpening = false := by
    by_contra ho
    simp [Word.closes?_eq_none_of_isOpening (by simpa using ho)] at hc
  cases role with
  | plain =>
    rw [BracketRole.Fits, Word.isPlain, ← Option.not_isSome, hc] at hfits
    simp at hfits
  | opener | unclosed => simp [BracketRole.Fits, hnotOpening] at hfits
  | closer i => exact .inl ⟨⟨i, rfl⟩, rfl⟩
  | unexpected => exact .inr ⟨by simp, rfl⟩

end Starts

/-! ### Balance and depth -/

lemma problems_eq_nil_iff_kept : (ofLexemes ts).problems = [] ↔
    (BracketState.run ts).Kept ∧ (BracketState.run ts).stack = [] := by
  constructor
  · intro h
    have hnone : ∀ (i : Nat) (role : BracketRole), (BracketState.run ts).roles[i]? = some role →
        ∃ t, problem? t role = none := by
      intro i role hrole
      have hi : i < (BracketState.run ts).tokens.size := by
        rw [← (BracketState.nested_run ts).size_eq]
        exact (Array.getElem?_eq_some_iff.mp hrole).1
      exact ⟨_, problems_eq_nil_iff.mp h i _ role (get?_of_lt hi) hrole⟩
    refine ⟨⟨fun i hi => ?_, fun i hi => ?_⟩, stack_eq_nil_of_problems h⟩
    · obtain ⟨t, ht⟩ := hnone i _ hi
      cases ht
    · obtain ⟨t, ht⟩ := hnone i _ hi
      cases ht
  · rintro ⟨hkept, hstack⟩
    rw [problems_eq_nil_iff]
    intro i t role ht hrole
    cases role with
    | plain | opener | closer => rfl
    | unclosed =>
      have hmem := hkept.unclosed i hrole
      simp [hstack] at hmem
    | unexpected => exact absurd hrole (hkept.expected i)

/-- Nothing is reported where the brackets balance. -/
theorem problems_eq_nil_iff_balanced : (ofLexemes ts).problems = [] ↔ BalancedBrackets (bracketsOf ts) := by
  rw [← balanced_iff_balancedBrackets, problems_eq_nil_iff_kept, BracketState.kept_run_iff]
  constructor
  · rintro ⟨hopened, hstack⟩
    rwa [hstack] at hopened
  · intro h
    have hstack : (BracketState.run ts).stack = [] := (BracketState.stack_foldl_step_of_balanced h).1
    rw [hstack]
    exact ⟨h, rfl⟩

/-- Where nothing is reported, a token lies as deep as there are pairs around it. -/
theorem depth_eq_countP (h : (ofLexemes ts).problems = []) {k : Nat} {t : Token}
    (ht : (ofLexemes ts).get? k = some t) :
    t.depth = (ofLexemes ts).pairs.countP fun p => p.1 < k ∧ k < p.2 := by
  obtain ⟨hkept, hstack⟩ := problems_eq_nil_iff_kept.mp h
  let around := (ofLexemes ts).pairs.filter fun p => p.1 < k ∧ k < p.2
  have hset : (BracketState.run ts).openAround k = (around.map Prod.fst).toFinset := by
    ext i
    simp only [BracketState.mem_openAround, List.mem_toFinset, List.mem_map, around, List.mem_filter,
      decide_eq_true_eq]
    constructor
    · rintro ⟨hi, hunclosed | ⟨c, hc, hclosed⟩⟩
      · have hmem := hkept.unclosed i hunclosed
        simp [hstack] at hmem
      · exact ⟨(i, c), ⟨mem_pairs.mpr hclosed, hi, hc⟩, rfl⟩
    · rintro ⟨⟨i, c⟩, ⟨hmem, hi, hc⟩, rfl⟩
      exact ⟨hi, .inr ⟨c, hc, mem_pairs.mp hmem⟩⟩
  have hnodup : (around.map Prod.fst).Nodup := (nodup_openings _).sublist (List.filter_sublist.map _)
  rw [BracketState.deep_run hkept k t ht, hset, List.toFinset_card_of_nodup hnodup, List.length_map,
    List.countP_eq_length_filter]

/-- What is reported about the brackets of a text. -/
theorem matched_ofText {text : String} (h : ofText text = .ok s) : s.Matched := by
  obtain ⟨ts, hts, rfl⟩ := map_eq_ok_iff.mp h
  have hstarts := Lexeme.starts_of_ofText hts
  exact
    { pair := fun i c hp => pair_kind hp
      openings := nodup_openings _
      closings := nodup_closings ts
      apart := fun i c j d hp hq hij => pairs_apart hp hq hij
      opening := fun i t ht ho => opening_reported hstarts ht ho
      closing := fun c u hu hc => closing_reported hstarts hu hc
      reported := fun p hp => exists_of_mem_problems hp
      ordered := problems_ordered hstarts
      balanced := by
        rw [lexemes_ofLexemes]
        exact problems_eq_nil_iff_balanced
      depth := fun hnone k t ht => depth_eq_countP hnone ht }

/-- Two brackets are given up inside a pair, one is unexpected and one is never closed. -/
def crossedBrackets : String := "(\x7b[)]("

lemma crossedBrackets_run : (ofText crossedBrackets).map (fun s => (s.pairs, s.problems.length)) =
    .ok ([(0, 3)], 4) := by decide +kernel

theorem matched_crossedBrackets : ∃ s, ofText crossedBrackets = .ok s ∧ s.pairs = [(0, 3)] ∧
    s.problems.length = 4 ∧ s.Matched := by
  obtain ⟨s, h, hrun⟩ := map_eq_ok_iff.mp crossedBrackets_run
  rw [Prod.mk.injEq] at hrun
  exact ⟨s, h, hrun.1, hrun.2, matched_ofText h⟩

end ActorDiagram.Stream
