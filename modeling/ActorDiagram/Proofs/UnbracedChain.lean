import Mathlib
import ActorDiagram.Proofs.DecisionExact

/-!
# Conditionals without braces

Bodies of `if` and `else` without braces, in which every `else` belongs to the nearest `if` before it
that has none yet. The reader lets each arm end at the first `else` behind it, so it takes a body for
one chain. All leaves are found if and only if every arm before an `else` is a leaf.
-/

namespace ActorDiagram

/-- What stands between the brackets of an `if`; it may have no text. -/
structure Test where
  words : List Word
  balanced : Balanced words

def Test.label (c : Test) : String := textOfWords c.words

/-- A body without braces. It is closed if each `if` in it has an `else`. Only a closed one can stand
before an `else`: an open one takes that `else` for itself. -/
inductive Unbraced : (closed : Bool) → Type where
  | leaf (l : Leaf) : Unbraced true
  | ifThen {closed : Bool} (c : Test) (body : Unbraced closed) : Unbraced false
  | ifElse {closed : Bool} (c : Test) (body : Unbraced true) (other : Unbraced closed) :
      Unbraced closed

namespace Unbraced

variable {closed : Bool}

def words {closed : Bool} : Unbraced closed → List Word
  | leaf l => l.words
  | ifThen c body => Body.ifHead c.words ++ body.words
  | ifElse c body other => Body.ifHead c.words ++ (body.words ++ .name "else" :: other.words)

def leaves {closed : Bool} : Unbraced closed → List Leaf
  | leaf l => [l]
  | ifThen _ body => body.leaves
  | ifElse _ body other => body.leaves ++ other.leaves

/-- Every arm before an `else` is a leaf. -/
def isChain {closed : Bool} : Unbraced closed → Bool
  | leaf _ => true
  | ifThen _ body => body.isChain
  | ifElse _ (leaf _) other => other.isChain
  | ifElse _ _ _ => false

/-- How many `if` follow each other without an `else`, and one for the leaf. -/
def nesting {closed : Bool} : Unbraced closed → Nat
  | leaf _ => 1
  | ifThen _ body => body.nesting + 1
  | ifElse _ body other => max (body.nesting + 1) other.nesting

/-! ### Runs -/

/-- What stands between two `else`: tests, each directly behind the one before, and a leaf. -/
structure Run where
  tests : List Test
  leaf : Leaf

namespace Run

def words (r : Run) : List Word := r.tests.flatMap (fun c => Body.ifHead c.words) ++ r.leaf.words

def under (c : Test) (r : Run) : Run := ⟨c :: r.tests, r.leaf⟩

/-- Runs, each behind an `else`. -/
def elseWords (rs : List Run) : List Word := rs.flatMap fun r => .name "else" :: r.words

def way (r : Run) : Way := (r.tests.map Test.label, r.leaf)

/-- Ways that are found behind an `else`. A leaf that stands there alone is the last one. -/
def found : List Run → List Way
  | [] => []
  | ⟨[], l⟩ :: _ => [(["else"], l)]
  | ⟨c :: cs, l⟩ :: rs => way ⟨c :: cs, l⟩ :: found rs

/-- A leaf without a test. -/
def isAlone (r : Run) : Bool := r.tests.isEmpty

/-- No run but the last is alone. -/
def isWhole : List Run → Bool
  | [] => true
  | r :: rs => (rs.isEmpty || !r.isAlone) && isWhole rs

end Run

/-- The run that a body starts with, and those behind its `else`s. -/
def runs {closed : Bool} : Unbraced closed → Run × List Run
  | leaf l => (⟨[], l⟩, [])
  | ifThen c body => (body.runs.1.under c, body.runs.2)
  | ifElse c body other => (body.runs.1.under c, body.runs.2 ++ other.runs.1 :: other.runs.2)

/-- Ways through a body that the reader finds. -/
def found (E : Unbraced closed) : List Way := E.runs.1.way :: Run.found E.runs.2

lemma Run.words_under (c : Test) (r : Run) : (r.under c).words = Body.ifHead c.words ++ r.words := by
  simp [words, under]

lemma words_eq_runs (E : Unbraced closed) :
    E.words = E.runs.1.words ++ Run.elseWords E.runs.2 := by
  induction E with
  | leaf l => simp [words, runs, Run.words, Run.elseWords]
  | ifThen c body ih => simp [words, runs, Run.words_under, ih]
  | ifElse c body other ih ih' =>
    simp [words, runs, Run.words_under, Run.elseWords, ih, ih', List.append_assoc]

lemma leaves_eq_runs (E : Unbraced closed) : E.leaves = E.runs.1.leaf :: E.runs.2.map (·.leaf) := by
  induction E with
  | leaf l => rfl
  | ifThen c body ih => exact ih
  | ifElse c body other ih ih' => simp [leaves, runs, Run.under, ih, ih']

lemma balanced_words (E : Unbraced closed) : Balanced E.words := by
  induction E with
  | leaf l => exact l.balanced_words
  | ifThen c body ih => exact (Body.balanced_ifHead c.balanced).1.append ih
  | ifElse c body other ih ih' =>
    exact (Body.balanced_ifHead c.balanced).1.append
      (ih.append (ih'.cons (Word.isPlain_name "else")))

/-- Only a leaf starts with a leaf, and it has no `else`. -/
lemma eq_nil_of_isAlone {E : Unbraced closed} (h : E.runs.1.isAlone = true) : E.runs.2 = [] := by
  cases E with
  | leaf l => rfl
  | ifThen c body => simp [runs, Run.under, Run.isAlone] at h
  | ifElse c body other => simp [runs, Run.under, Run.isAlone] at h

lemma length_tests_lt (E : Unbraced closed) :
    ∀ r ∈ E.runs.1 :: E.runs.2, r.tests.length < E.nesting := by
  induction E with
  | leaf l => simp [runs, nesting]
  | ifThen c body ih =>
    simp only [runs, nesting, List.forall_mem_cons] at ih ⊢
    refine ⟨by simpa [Run.under] using ih.1, fun r hr => ?_⟩
    have := ih.2 r hr
    omega
  | ifElse c body other ih ih' =>
    simp only [runs, nesting, List.forall_mem_cons, List.forall_mem_append] at ih ih' ⊢
    refine ⟨by simp [Run.under, ih.1], fun r hr => ?_, by omega, fun r hr => ?_⟩
    · have := ih.2 r hr
      omega
    · have := ih'.2 r hr
      omega

/-! ### Leaves that are found -/

lemma Run.leaves_found_prefix (rs : List Run) :
    (Run.found rs).map (·.2) <+: rs.map (·.leaf) := by
  induction rs with
  | nil => simp [Run.found]
  | cons r rs ih =>
    obtain ⟨tests, l⟩ := r
    cases tests with
    | nil => simp [Run.found]
    | cons c cs => simpa [Run.found, Run.way] using ih

lemma Run.leaves_found_eq_iff (rs : List Run) :
    (Run.found rs).map (·.2) = rs.map (·.leaf) ↔ Run.isWhole rs = true := by
  induction rs with
  | nil => simp [Run.found, Run.isWhole]
  | cons r rs ih =>
    obtain ⟨tests, l⟩ := r
    cases tests with
    | nil => cases rs <;> simp [Run.found, Run.isWhole, Run.isAlone]
    | cons c cs => simpa [Run.found, Run.way, Run.isWhole, Run.isAlone] using ih

lemma Run.isWhole_append (rs : List Run) (r : Run) (qs : List Run) :
    Run.isWhole (rs ++ r :: qs) = (rs.all (!·.isAlone) && Run.isWhole (r :: qs)) := by
  induction rs with
  | nil => simp
  | cons q rs ih =>
    have hne : (rs ++ r :: qs).isEmpty = false := by cases rs <;> rfl
    simp [Run.isWhole, ih, hne, Bool.and_assoc]

/-- In a closed body that is no leaf, some leaf is alone behind an `else`: the last one. -/
lemma exists_isAlone : ∀ {E : Unbraced true}, (∀ l, E ≠ leaf l) → ∃ r ∈ E.runs.2, r.isAlone = true
  | leaf l, h => absurd rfl (h l)
  | ifElse c body (leaf l), _ => ⟨⟨[], l⟩, by simp [runs], rfl⟩
  | ifElse c body (ifElse c' body' other), _ => by
    obtain ⟨r, hr, halone⟩ := exists_isAlone (E := ifElse c' body' other) (by simp)
    exact ⟨r, by simp [runs] at hr ⊢; tauto, halone⟩

lemma isWhole_runs (E : Unbraced closed) : Run.isWhole E.runs.2 = E.isChain := by
  induction E with
  | leaf l => rfl
  | ifThen c body ih => exact ih
  | ifElse c body other _ ih =>
    have hfirst : Run.isWhole (other.runs.1 :: other.runs.2) = Run.isWhole other.runs.2 := by
      have hnil := eq_nil_of_isAlone (E := other)
      cases halone : other.runs.1.isAlone with
      | false => simp [Run.isWhole, halone]
      | true => simp [Run.isWhole, hnil halone]
    rw [runs, Run.isWhole_append, hfirst, ih]
    cases body with
    | leaf l => simp [isChain, runs]
    | ifElse c' body' other' =>
      obtain ⟨r, hr, halone⟩ := exists_isAlone (E := ifElse c' body' other') (by simp)
      have hall : (ifElse c' body' other').runs.2.all (!·.isAlone) = false := by
        rw [List.all_eq_false]
        exact ⟨r, hr, by simp [halone]⟩
      rw [hall]
      rfl

theorem leaves_found_eq_iff (E : Unbraced closed) :
    E.found.map (·.2) = E.leaves ↔ E.isChain = true := by
  rw [leaves_eq_runs, ← isWhole_runs, ← Run.leaves_found_eq_iff]
  simp [found, Run.way]

end Unbraced

/-- What a way leads to, where its labels may be empty. -/
def Way.outcome (states : StateIndex) (w : Way) : Except Error Branch :=
  (w.2.action states).map fun a => w.1.foldr Branch.under ⟨none, a⟩

lemma Way.outcome_under (states : StateIndex) (label : String) (w : Way) :
    (w.under label).outcome states = (w.outcome states).map (Branch.under label) := by
  unfold outcome Way.under
  cases w.2.action states <;> rfl

namespace Body

open Unbraced

variable {read : Reader} {s : Stream} {states : StateIndex} {bound : List String}
  {d i stop limit : Nat} {ws v : List Word}

/-! ### Arms without braces -/

/-- Words of an arm without braces: they start with a name and leave every `else` in brackets. -/
structure IsBareArm (ws : List Word) : Prop where
  balanced : Balanced ws
  head : ∃ x rest, ws = .name x :: rest
  no_else : .name "else" ∉ topLevel ws

lemma withoutBraces_bare (h : s.Says d i ws) (hws : IsBareArm ws) (stop : Nat) :
    withoutBraces s i stop = .ok (i, stop) := by
  obtain ⟨x, rest, rfl⟩ := hws.head
  obtain ⟨t, ht, htw, -⟩ := h.head rfl
  have hbrace : t.isMark leftBrace = false :=
    Bool.eq_false_iff.mpr (mt Lexeme.isMark_iff.mp (by rw [htw]; exact fun hw => by cases hw))
  unfold withoutBraces
  rw [Stream.token_eq_ok_iff.mpr ht]
  split_ifs with hlt
  · simp [Bind.bind, Except.bind, hbrace]
  · rfl

/-- An arm without braces ends at the first `else` behind it, or with its range. -/
lemma armStop_bare (h : s.Says d i (ws ++ v)) (hws : IsBareArm ws)
    (hv : v = [] ∨ ∃ rest, v = .name "else" :: rest) (hstop : stop = i + (ws ++ v).length) :
    armStop s i stop = .ok (i + ws.length) := by
  have hleft := h.left
  have hv' := h.right_of_balanced hws.balanced
  have hsize := h.le_size
  obtain ⟨x, rest, hx⟩ := hws.head
  have hlen : 0 < ws.length := by simp [hx]
  obtain ⟨t, ht, htw, htd⟩ := hleft.head_of_balanced hws.balanced (by simp [hx])
  have hbrace : t.isMark leftBrace = false := by
    rw [hx, List.head?_cons, Option.some.injEq] at htw
    exact Bool.eq_false_iff.mpr (mt Lexeme.isMark_iff.mp (by rw [← htw]; exact fun hw => by cases hw))
  have hnone : ((s.part i ws.length).find? fun x =>
      x.2.depth == t.depth && x.2.isWord "else") = none := by
    rw [List.find?_eq_none]
    intro y hy helse
    rw [Bool.and_eq_true, beq_iff_eq, Lexeme.isWord_iff, htd] at helse
    exact hleft.not_at_depth hws.balanced (Word.isPlain_name "else") hws.no_else hy helse.1 helse.2
  rw [List.length_append] at hstop hsize
  unfold armStop
  rw [if_neg (by omega), Stream.token_eq_ok_iff.mpr ht]
  simp only [Bind.bind, Except.bind, hbrace]
  rw [if_neg Bool.false_ne_true, Stream.range_eq_part (by omega),
    show stop - i = ws.length + v.length by omega, Stream.part_add]
  simp only [List.find?_append, hnone, Option.none_or]
  rcases hv with rfl | ⟨rest, rfl⟩
  · rw [hstop]
    rfl
  · obtain ⟨t', ht', htw', htd'⟩ := hv'.head rfl
    have helse : (t'.depth == t.depth && t'.isWord "else") = true := by
      rw [Lexeme.isWord_iff.mpr htw', htd, htd']
      simp
    rw [List.length_cons, Stream.part_succ ht', List.find?_cons_of_pos (by exact helse)]
    rfl

lemma isBareArm_run (r : Run) : IsBareArm r.words := by
  obtain ⟨tests, l⟩ := r
  induction tests with
  | nil =>
    obtain ⟨x, hx, -⟩ := l.topLevel_words
    have hwords : Run.words ⟨[], l⟩ = l.words := rfl
    rw [hwords]
    refine ⟨l.balanced_words, ?_, ?_⟩
    · cases l <;> exact ⟨_, _, rfl⟩
    · cases l with
      | goto target =>
        have h := (balanced_parens (x := "goto") target.balanced_words).2
        simp only [Leaf.words, h]
        decide
      | stay => decide
      | stop => decide
  | cons c cs ih =>
    have hwords : Run.words ⟨c :: cs, l⟩ = ifHead c.words ++ Run.words ⟨cs, l⟩ := Run.words_under c ⟨cs, l⟩
    obtain ⟨hhead, htop⟩ := balanced_ifHead c.balanced
    rw [hwords]
    refine ⟨hhead.append ih.balanced, ⟨_, _, rfl⟩, ?_⟩
    rw [topLevel_append hhead, htop]
    simpa [Word.name] using ih.no_else

lemma length_le_elseWords (rs : List Run) : rs.length ≤ (Run.elseWords rs).length := by
  induction rs with
  | nil => rfl
  | cons r rs ih =>
    simp only [Run.elseWords, List.flatMap_cons, List.length_append, List.length_cons] at ih ⊢
    omega

lemma elseWords_cases (rs : List Run) :
    Run.elseWords rs = [] ∨ ∃ rest, Run.elseWords rs = .name "else" :: rest := by
  cases rs with
  | nil => exact .inl rfl
  | cons r rs => exact .inr ⟨_, rfl⟩

lemma followsMark_ifHead {c : List Word} (h : s.Says d i (ifHead c ++ v)) :
    s.followsMark (i + (ifHead c).length) "." = false := by
  have hlen := length_ifHead c
  obtain ⟨t, ht, htw⟩ := h.get?_of_lt (show i ≤ i + c.length + 2 by omega)
    (by rw [List.length_append]; omega)
  have hword : (ifHead c ++ v)[c.length + 2]? = some (.mark ")") := by simp [ifHead]
  rw [show i + c.length + 2 - i = c.length + 2 by omega, hword, Option.some.injEq] at htw
  rw [hlen]
  exact Stream.followsMark_of_get? ht (by rw [← htw]; decide)

/-! ### Runs are read one by one -/

lemma unplace_joined_eq (label : String) (x y : Except Error (List Branch)) :
    unplace (joined label x y) = joined label (unplace x) (unplace y) := by
  unfold joined
  cases x with
  | error e => rfl
  | ok bs => cases y <;> rfl

lemma joined_outcome (label : String) (w : Way) (ways : List Way) :
    joined label ((w.outcome states).map fun b => [b]) (ways.mapM (Way.outcome states)) =
      (w.under label :: ways).mapM (Way.outcome states) := by
  rw [List.mapM_cons, Way.outcome_under]
  unfold joined
  cases w.outcome states with
  | error e => rfl
  | ok b => cases ways.mapM (Way.outcome states) <;> rfl

lemma ne_nil_of_unplace {x : Except Error (List Branch)} {w : Way} {ways : List Way}
    (hx : unplace x = (w :: ways).mapM (Way.outcome states)) : ∀ bs, x = .ok bs → bs ≠ [] := by
  rintro bs rfl rfl
  have hall := forall₂_of_mapM_eq_ok hx.symm
  cases hall

/-- The first arm of an `if` is a run, with what is read behind it. -/
lemma conditional_run {c : Test} {r : Run} {rs : List Run} {ways : List Way} {fuel : Nat}
    (h : s.Says d i (ifHead c.words ++ (r.words ++ Run.elseWords rs)))
    (hstop : stop = i + (ifHead c.words ++ (r.words ++ Run.elseWords rs)).length)
    (hread : unplace (read (i + (ifHead c.words).length) (i + (ifHead c.words).length + r.words.length) bound) =
      (r.way.outcome states).map fun b => [b])
    (hafter : unplace (afterArm read s bound stop fuel (i + (ifHead c.words).length + r.words.length)) =
      ways.mapM (Way.outcome states)) :
    unplace (conditional read s bound stop (fuel + 1) i) =
      ((r.under c).way :: ways).mapM (Way.outcome states) := by
  have hrest := (says_ifHead h c.balanced).2.2
  have hlast : armStop s (i + (ifHead c.words).length) stop =
      .ok (i + (ifHead c.words).length + r.words.length) :=
    armStop_bare hrest (isBareArm_run r) (elseWords_cases rs)
      (by rw [hstop, List.length_append]; omega)
  rw [conditional_eq_joined h c.balanced hlast (withoutBraces_bare hrest.left (isBareArm_run r) _),
    unplace_joined_eq, hread, hafter]
  exact joined_outcome c.label r.way ways

lemma branchesWithin_if {c : Test} {r : Run} {rs : List Run} {ways : List Way}
    (h : s.Says d i (ifHead c.words ++ (r.words ++ Run.elseWords rs)))
    (hws : Balanced (ifHead c.words ++ (r.words ++ Run.elseWords rs)))
    (hread : unplace (branchesWithin s states limit (i + (ifHead c.words).length)
      (i + (ifHead c.words).length + r.words.length) bound) = (r.way.outcome states).map fun b => [b])
    (hafter : ∀ fuel, rs.length ≤ fuel → unplace (afterArm (branchesWithin s states limit) s bound
      (i + (ifHead c.words ++ (r.words ++ Run.elseWords rs)).length) fuel
      (i + (ifHead c.words).length + r.words.length)) = ways.mapM (Way.outcome states)) :
    unplace (branchesWithin s states (limit + 1) i
        (i + (ifHead c.words ++ (r.words ++ Run.elseWords rs)).length) bound) =
      ((r.under c).way :: ways).mapM (Way.outcome states) := by
  have hsize := h.le_size
  have hhead := length_ifHead c.words
  have hlen := length_le_elseWords rs
  rw [List.length_append, List.length_append] at hsize
  obtain ⟨fuel, hfuel⟩ : ∃ fuel, s.size = fuel + 1 := ⟨s.size - 1, by omega⟩
  have hchain := conditional_run h rfl hread (hafter fuel (by omega))
  rw [branchesWithin, branchesWith_if h hws, hfuel, orElse_eq_left (ne_nil_of_unplace hchain)]
  exact hchain

lemma branchesWithin_leaf {l : Leaf} (h : s.Says d i l.words)
    (hdot : s.followsMark i "." = false) (hlimit : 0 < limit) :
    unplace (branchesWithin s states limit i (i + l.words.length) bound) =
      (Way.outcome states ([], l)).map fun b => [b] := by
  have hread : unplace (branchesWithin s states limit i (i + l.words.length) bound) =
      outcomesOf states [([], l)] := branchesWithin_tree (T := .leaf l) h hdot hlimit rfl
  rw [hread, outcomesOf, List.mapM_cons, List.mapM_nil]
  unfold Way.branch Way.outcome
  cases l.action states <;> rfl

/-- A run is read as one outcome. -/
theorem branchesWithin_run {r : Run} (h : s.Says d i r.words)
    (hdot : s.followsMark i "." = false) (hlimit : r.tests.length < limit) :
    unplace (branchesWithin s states limit i (i + r.words.length) bound) =
      (r.way.outcome states).map fun b => [b] := by
  obtain ⟨tests, l⟩ := r
  induction tests generalizing i limit with
  | nil => exact branchesWithin_leaf h hdot hlimit
  | cons c cs ih =>
    obtain ⟨n, rfl⟩ : ∃ n, limit = n + 1 := ⟨limit - 1, by omega⟩
    have hwords : Run.words ⟨c :: cs, l⟩ = ifHead c.words ++ (Run.words ⟨cs, l⟩ ++ Run.elseWords []) := by
      rw [Run.elseWords, List.flatMap_nil, List.append_nil]
      exact Run.words_under c ⟨cs, l⟩
    have hws := (isBareArm_run ⟨c :: cs, l⟩).balanced
    rw [hwords] at h hws ⊢
    have hread := ih (followsMark_ifHead h) (says_ifHead h c.balanced).2.2.left
      (Nat.lt_of_succ_lt_succ hlimit)
    have hafter : ∀ fuel, ([] : List Run).length ≤ fuel →
        unplace (afterArm (branchesWithin s states n) s bound
          (i + (ifHead c.words ++ (Run.words ⟨cs, l⟩ ++ Run.elseWords [])).length) fuel
          (i + (ifHead c.words).length + (Run.words ⟨cs, l⟩).length)) =
        [].mapM (Way.outcome states) := by
      intro fuel _
      rw [afterArm_of_le (by simp [Run.elseWords]; omega)]
      rfl
    rw [branchesWithin_if h hws hread hafter, List.mapM_cons, List.mapM_nil]
    change _ = ((Run.under c ⟨cs, l⟩).way.outcome states).map _
    cases (Run.under c ⟨cs, l⟩).way.outcome states <;> rfl

/-- Runs behind an arm are read in order, up to the first leaf alone. -/
theorem afterArm_runs {rs : List Run} {fuel : Nat} (h : s.Says d i (Run.elseWords rs))
    (hstop : stop = i + (Run.elseWords rs).length) (hfuel : rs.length ≤ fuel)
    (hpos : 0 < limit) (hlimit : ∀ r ∈ rs, r.tests.length ≤ limit) :
    unplace (afterArm (branchesWithin s states limit) s bound stop fuel i) =
      (Run.found rs).mapM (Way.outcome states) := by
  induction rs generalizing i fuel with
  | nil =>
    rw [afterArm_of_le (by simp [Run.elseWords] at hstop; omega)]
    rfl
  | cons r rs ih =>
    obtain ⟨tests, l⟩ := r
    have hnext : s.Says d (i + 1) (Run.words ⟨tests, l⟩ ++ Run.elseWords rs) := h.tail rfl
    obtain ⟨t, ht, htw, -⟩ := h.head rfl
    have hwords : Run.elseWords (⟨tests, l⟩ :: rs) =
      .name "else" :: (Run.words ⟨tests, l⟩ ++ Run.elseWords rs) := rfl
    rw [hwords] at h hstop
    rw [List.length_cons] at hstop hfuel
    cases tests with
    | nil =>
      have hbare := isBareArm_run ⟨[], l⟩
      have hlast : armStop s (i + 1) stop = .ok (i + 1 + (Run.words ⟨[], l⟩).length) :=
        armStop_bare hnext hbare (elseWords_cases rs) (by omega)
      have hdot : s.followsMark (i + 1) "." = false := Stream.followsMark_of_get? ht (by rw [htw]; decide)
      obtain ⟨t', ht', hif⟩ : ∃ t', s.get? (i + 1) = some t' ∧ t'.word ≠ .name "if" := by
        cases l <;> obtain ⟨t', ht', htw', -⟩ := hnext.head rfl <;>
          exact ⟨t', ht', by rw [htw']; decide⟩
      rw [afterArm_else h (by omega) ht' hif hlast (withoutBraces_bare hnext.left hbare _),
        unplace_joined_eq]
      have hread : unplace (branchesWithin s states limit (i + 1)
          (i + 1 + (Run.words ⟨[], l⟩).length) bound) =
          (Way.outcome states ([], l)).map fun b => [b] :=
        branchesWithin_leaf hnext.left hdot hpos
      rw [hread]
      exact joined_outcome "else" ([], l) []
    | cons c cs =>
      obtain ⟨fuel, rfl⟩ : ∃ n, fuel = n + 1 := ⟨fuel - 1, by omega⟩
      have hsplit : Run.words ⟨c :: cs, l⟩ = ifHead c.words ++ Run.words ⟨cs, l⟩ :=
        Run.words_under c ⟨cs, l⟩
      rw [hsplit, List.append_assoc] at h hnext hstop
      have hlimits := List.forall_mem_cons.mp hlimit
      have harm := (says_ifHead hnext c.balanced).2.2
      have hrest := harm.right_of_balanced (isBareArm_run ⟨cs, l⟩).balanced
      rw [afterArm_elseIf h (by omega)]
      refine conditional_run hnext (by omega) (branchesWithin_run harm.left
        (followsMark_ifHead hnext) hlimits.1) ?_
      refine ih hrest ?_ (by omega) hlimits.2
      rw [List.length_append, List.length_append] at hstop
      omega

/-- A body is read run by run, up to the first leaf alone. -/
theorem branchesWithin_runs {r : Run} {rs : List Run} (h : s.Says d i (r.words ++ Run.elseWords rs))
    (hws : Balanced (r.words ++ Run.elseWords rs)) (halone : r.isAlone = true → rs = [])
    (hdot : s.followsMark i "." = false) (hlimit : ∀ q ∈ r :: rs, q.tests.length < limit) :
    unplace (branchesWithin s states limit i (i + (r.words ++ Run.elseWords rs).length) bound) =
      (r.way :: Run.found rs).mapM (Way.outcome states) := by
  obtain ⟨tests, l⟩ := r
  have hlimits := List.forall_mem_cons.mp hlimit
  cases tests with
  | nil =>
    cases halone rfl
    rw [Run.elseWords, List.flatMap_nil, List.append_nil] at h ⊢
    rw [branchesWithin_run h hdot hlimits.1, Run.found, List.mapM_cons, List.mapM_nil]
    cases (Run.way ⟨[], l⟩).outcome states <;> rfl
  | cons c cs =>
    obtain ⟨n, rfl⟩ : ∃ n, limit = n + 1 := ⟨limit - 1, by omega⟩
    have hsplit : Run.words ⟨c :: cs, l⟩ = ifHead c.words ++ Run.words ⟨cs, l⟩ :=
      Run.words_under c ⟨cs, l⟩
    rw [hsplit, List.append_assoc] at h hws ⊢
    have harm := (says_ifHead h c.balanced).2.2
    have hpos : cs.length < n := Nat.lt_of_succ_lt_succ hlimits.1
    refine branchesWithin_if h hws (branchesWithin_run harm.left (followsMark_ifHead h) hpos) ?_
    intro fuel hfuel
    refine afterArm_runs (harm.right_of_balanced (isBareArm_run ⟨cs, l⟩).balanced) ?_ hfuel
      (by omega) fun q hq => Nat.lt_succ_iff.mp (hlimits.2 q hq)
    rw [List.length_append, List.length_append]
    omega

/-! ### Reading a body without braces -/

lemma action_foldr_under (a : Action) (labels : List String) :
    (labels.foldr Branch.under ⟨none, a⟩).action = a := by
  induction labels with
  | nil => rfl
  | cons label labels ih => exact ih

lemma actions_of_outcomes {ways : List Way} {bs : List Branch}
    (h : ways.mapM (Way.outcome states) = .ok bs) :
    (ways.map (·.2)).mapM (Leaf.action states) = .ok (bs.map (·.action)) := by
  induction ways generalizing bs with
  | nil =>
    cases h
    rfl
  | cons w ways ih =>
    rw [List.mapM_cons] at h
    obtain ⟨b, hb, h⟩ := bind_eq_ok_iff.mp h
    obtain ⟨as, has, h⟩ := bind_eq_ok_iff.mp h
    obtain ⟨a, ha, rfl⟩ := map_eq_ok_iff.mp hb
    cases h
    rw [List.map_cons, List.mapM_cons, ha, ih has, List.map_cons, action_foldr_under]
    rfl

/-- A body without braces gives an outcome for each leaf, in order, if and only if it is a chain.
Otherwise leaves at its end are lost: what is found behind an arm ends with the first leaf that
stands alone behind an `else`. -/
theorem branches_unbraced {closed : Bool} (E : Unbraced closed) (states : StateIndex)
    (bound : List String) (before body after : List Lexeme) (hbody : wordsOf body = E.words)
    (hdot : ∀ t ∈ before.getLast?, t.word ≠ .mark ".") (hdeep : E.nesting ≤ nestingLimit) :
    let found := branches (Stream.ofLexemes (before ++ (body ++ after))) states before.length
      (before.length + body.length) bound
    unplace found = E.found.mapM (Way.outcome states) ∧
    (∀ bs, found = .ok bs →
      ((E.leaves.mapM (Leaf.action states)) = .ok (bs.map (·.action)) ↔ E.isChain = true)) ∧
    E.found.map (·.2) <+: E.leaves := by
  intro found
  have hsays : (Stream.ofLexemes (before ++ (body ++ after))).Says (levelAfter before)
      before.length E.words := ⟨before, body, after, rfl, rfl, rfl, hbody⟩
  have hprev := Stream.followsMark_ofLexemes (body ++ after) hdot
  have hlen : body.length = E.words.length := by rw [← hbody, wordsOf, List.length_map]
  have hws := E.balanced_words
  rw [words_eq_runs] at hsays hws hlen
  have hread : unplace found = E.found.mapM (Way.outcome states) := by
    change unplace (branchesWithin _ states nestingLimit before.length
      (before.length + body.length) bound) = _
    rw [hlen]
    exact branchesWithin_runs hsays hws eq_nil_of_isAlone hprev fun q hq =>
      lt_of_lt_of_le (E.length_tests_lt q hq) hdeep
  have hprefix : E.found.map (·.2) <+: E.leaves := by
    rw [leaves_eq_runs]
    exact (List.prefix_cons_inj _).mpr (Run.leaves_found_prefix _)
  refine ⟨hread, fun bs hbs => ?_, hprefix⟩
  have hactions : (E.found.map (·.2)).mapM (Leaf.action states) = .ok (bs.map (·.action)) := by
    rw [hbs] at hread
    exact actions_of_outcomes hread.symm
  rw [← leaves_found_eq_iff]
  constructor
  · intro hleaves
    have hfound := (forall₂_of_mapM_eq_ok hactions).length_eq
    have hall := (forall₂_of_mapM_eq_ok hleaves).length_eq
    exact hprefix.eq_of_length (hfound.trans hall.symm)
  · intro hleaves
    rw [← hleaves]
    exact hactions

/-- `if (a) goto(A) else if (b) stay() else stop()`. -/
def chainBody : Unbraced true :=
  .ifElse ⟨[.name "a"], balanced_name "a"⟩ (.leaf (.goto ⟨"A", []⟩))
    (.ifElse ⟨[.name "b"], balanced_name "b"⟩ (.leaf .stay) (.leaf .stop))

theorem branches_chainBody :
    chainBody.isChain = true ∧
    unplace (branches (Stream.ofLexemes ([] ++ (chainBody.words.map lexemeOf ++ []))) .empty 0
        (0 + (chainBody.words.map lexemeOf).length) []) =
      .ok [⟨some "a", .goto "A" none⟩, ⟨some "b", .stay none⟩, ⟨some "else", .stop false none⟩] := by
  have h := branches_unbraced chainBody .empty [] [] (chainBody.words.map lexemeOf) [] (by decide)
    (by decide) (by decide)
  exact ⟨rfl, h.1⟩

/-- `if (a) if (b) goto(X) else goto(Y) else goto(Z)`. -/
def nestedBody : Unbraced true :=
  .ifElse ⟨[.name "a"], balanced_name "a"⟩
    (.ifElse ⟨[.name "b"], balanced_name "b"⟩ (.leaf (.goto ⟨"X", []⟩)) (.leaf (.goto ⟨"Y", []⟩)))
    (.leaf (.goto ⟨"Z", []⟩))

/-- The first arm ends at the first `else`, the arm behind it at the second, where no arm starts. -/
theorem branches_nestedBody :
    nestedBody.leaves.mapM (Leaf.action .empty) =
      .ok [.goto "X" none, .goto "Y" none, .goto "Z" none] ∧
    branches (Stream.ofLexemes (nestedBody.words.map lexemeOf)) .empty 0 nestedBody.words.length [] =
      .ok [⟨some "a/b", .goto "X" none⟩, ⟨some "else", .goto "Y" none⟩] := by
  exact ⟨rfl, rfl⟩

end Body

end ActorDiagram
