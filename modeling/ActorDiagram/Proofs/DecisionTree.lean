import Mathlib
import ActorDiagram.Proofs.Passage

/-!
# Decision trees

Bodies that branch with `if` and `match` until every way through them ends in a directive: how such
a body is written, and the outcomes that it has.
-/

namespace ActorDiagram

namespace Word

def name (text : String) : Word := ⟨.identifier, text⟩

def mark (text : String) : Word := ⟨.mark, text⟩

/-- The arrow after a pattern. -/
def arrow : Word := ⟨.operator, "=>"⟩

end Word

/-! ### Parts of a tree -/

/-- A name `a.b.c`. -/
structure DottedName where
  first : String
  others : List String
  deriving Repr, DecidableEq

namespace DottedName

def parts (n : DottedName) : List String := n.first :: n.others

def text (n : DottedName) : String := ".".intercalate n.parts

/-- What follows the first part. -/
def tailWords : List String → List Word
  | [] => []
  | x :: xs => .mark "." :: .name x :: tailWords xs

def words (n : DottedName) : List Word := .name n.first :: tailWords n.others

end DottedName

/-- Directive at the end of a way through a body. -/
inductive Leaf where
  | goto (target : DottedName)
  | stay
  | stop
  deriving Repr, DecidableEq

namespace Leaf

def words : Leaf → List Word
  | goto target => .name "goto" :: .mark "(" :: (target.words ++ [.mark ")"])
  | stay => [.name "stay", .mark "(", .mark ")"]
  | stop => [.name "stop", .mark "(", .mark ")"]

/-- What the directive does; a state that is not declared is named as it is written. -/
def action (states : StateIndex) : Leaf → Except Error Action
  | goto target => (states.lookup target.text none none).map fun id =>
      .goto (id.getD target.text) none
  | stay => .ok (.stay none)
  | stop => .ok (.stop false none)

end Leaf

/-- What stands between the brackets of an `if`. -/
structure Condition where
  words : List Word
  balanced : Balanced words
  label_ne : textOfWords words ≠ ""

def Condition.label (c : Condition) : String := textOfWords c.words

/-- What stands between `case` and `=>`, without a guard. -/
structure CasePattern where
  words : List Word
  balanced : Balanced words
  topLevel_ne : ∀ w ∈ topLevel words, w ≠ .arrow ∧ w ≠ .name "case" ∧ w ≠ .name "if"
  head_ne : ∀ w ∈ words.head?, w ≠ .name "object" ∧ w ≠ .name "class"
  label_ne : stripQuotes (textOfWords words) ≠ ""

namespace CasePattern

def label (p : CasePattern) : String := stripQuotes (textOfWords p.words)

/-- Every identifier has a first letter. -/
def isNamed (p : CasePattern) : Bool := p.words.all (· != .name "")

end CasePattern

/-! ### Trees -/

mutual

/-- A body that branches. -/
inductive Tree where
  | leaf (l : Leaf)
  | conditional (c : Condition) (body : Tree) (rest : Chain)
  | matching (subject : DottedName) (arms : Arms)

/-- What follows an arm of an `if`. -/
inductive Chain where
  | done
  | otherwise (body : Tree)
  | elseIf (c : Condition) (body : Tree) (rest : Chain)

/-- Arms of a `match`. -/
inductive Arms where
  | one (p : CasePattern) (body : Tree)
  | more (p : CasePattern) (body : Tree) (rest : Arms)

end

/-- An arm in braces, after its head. -/
def bracedArm (head body rest : List Word) : List Word :=
  head ++ .mark leftBrace :: (body ++ .mark rightBrace :: rest)

/-- `if` with its condition. -/
def Condition.head (c : Condition) : List Word :=
  .name "if" :: .mark "(" :: (c.words ++ [.mark ")"])

/-- `case` with its pattern and arrow. -/
def CasePattern.head (p : CasePattern) : List Word :=
  .name "case" :: (p.words ++ [.arrow])

mutual

def Tree.words : Tree → List Word
  | .leaf l => l.words
  | .conditional c body rest => bracedArm c.head body.words rest.words
  | .matching subject arms => bracedArm (subject.words ++ [.name "match"]) arms.words []

def Chain.words : Chain → List Word
  | .done => []
  | .otherwise body => bracedArm [.name "else"] body.words []
  | .elseIf c body rest => .name "else" :: bracedArm c.head body.words rest.words

def Arms.words : Arms → List Word
  | .one p body => p.head ++ body.words
  | .more p body rest => p.head ++ (body.words ++ rest.words)

end

/-! ### Ways through a tree -/

/-- Labels on the way to a leaf, outermost first, and the leaf. -/
abbrev Way := List String × Leaf

def Way.under (label : String) (w : Way) : Way := (label :: w.1, w.2)

mutual

/-- Ways through a tree in the order of their leaves. -/
def Tree.ways : Tree → List Way
  | .leaf l => [([], l)]
  | .conditional c body rest => body.ways.map (Way.under c.label) ++ rest.ways
  | .matching _ arms => arms.ways

def Chain.ways : Chain → List Way
  | .done => []
  | .otherwise body => body.ways.map (Way.under "else")
  | .elseIf c body rest => body.ways.map (Way.under c.label) ++ rest.ways

def Arms.ways : Arms → List Way
  | .one p body => body.ways.map (Way.under p.label)
  | .more p body rest => body.ways.map (Way.under p.label) ++ rest.ways

end

namespace Way

/-- Labels on the way joined by slashes, none for a leaf that stands alone. -/
def label (w : Way) : Option String := if w.1.isEmpty then none else some ("/".intercalate w.1)

/-- What the way leads to. -/
def branch (states : StateIndex) (w : Way) : Except Error Branch :=
  (w.2.action states).map fun a => ⟨w.label, a⟩

end Way

/-- Outcomes of some ways in order. -/
def outcomesOf (states : StateIndex) (ways : List Way) : Except Error (List Branch) :=
  ways.mapM (Way.branch states)

/-- Outcomes of a tree: one for each leaf, labelled with the way to it. -/
def Tree.outcomes (states : StateIndex) (T : Tree) : Except Error (List Branch) :=
  outcomesOf states T.ways

mutual

/-- How deep branches nest in a tree. -/
def Tree.nesting : Tree → Nat
  | .leaf _ => 1
  | .conditional _ body rest => max body.nesting rest.nesting + 1
  | .matching _ arms => arms.nesting + 1

def Chain.nesting : Chain → Nat
  | .done => 0
  | .otherwise body => body.nesting
  | .elseIf _ body rest => max body.nesting rest.nesting

def Arms.nesting : Arms → Nat
  | .one _ body => body.nesting
  | .more _ body rest => max body.nesting rest.nesting

end

/-! ### Trees that read as they are written -/

/-- As the body of an arm, the tree does not look like the start of another arm: no part of its
subject is the word `case`, which back quotes would allow. -/
def Tree.isWhole : Tree → Bool
  | .matching subject _ => !subject.parts.contains "case"
  | _ => true

mutual

/-- All patterns are named and all arms of a `match` are whole. -/
def Tree.isLegible : Tree → Bool
  | .leaf _ => true
  | .conditional _ body rest => body.isLegible && rest.isLegible
  | .matching _ arms => arms.isLegible

def Chain.isLegible : Chain → Bool
  | .done => true
  | .otherwise body => body.isLegible
  | .elseIf _ body rest => body.isLegible && rest.isLegible

def Arms.isLegible : Arms → Bool
  | .one p body => p.isNamed && body.isWhole && body.isLegible
  | .more p body rest => p.isNamed && body.isWhole && body.isLegible && rest.isLegible

end

/-! ### Brackets of a tree -/

lemma Word.isPlain_name (x : String) : (Word.name x).isPlain = true := rfl

lemma balanced_name (x : String) : Balanced [.name x] := balanced_singleton (Word.isPlain_name x)

lemma Word.isPlain_dot : (Word.mark ".").isPlain = true := by decide

lemma Word.isPlain_arrow : Word.arrow.isPlain = true := by decide

lemma balanced_of_isPlain {ws : List Word} (h : ∀ w ∈ ws, w.isPlain = true) :
    Balanced ws ∧ topLevel ws = ws := by
  induction ws with
  | nil => exact ⟨balanced_nil, rfl⟩
  | cons w ws ih =>
    obtain ⟨hb, ht⟩ := ih fun x hx => h x (List.mem_cons_of_mem _ hx)
    have hw := h w List.mem_cons_self
    exact ⟨hb.cons hw, by rw [topLevel_cons hw, ht]⟩

lemma DottedName.mem_tailWords {xs : List String} {w : Word} (h : w ∈ tailWords xs) :
    w = .mark "." ∨ ∃ x ∈ xs, w = .name x := by
  induction xs with
  | nil => simp [tailWords] at h
  | cons x xs ih =>
    rw [tailWords, List.mem_cons, List.mem_cons] at h
    rcases h with rfl | rfl | h
    · exact .inl rfl
    · exact .inr ⟨x, List.mem_cons_self, rfl⟩
    · rcases ih h with rfl | ⟨y, hy, rfl⟩
      · exact .inl rfl
      · exact .inr ⟨y, List.mem_cons_of_mem _ hy, rfl⟩

lemma DottedName.mem_words {n : DottedName} {w : Word} (h : w ∈ n.words) :
    w = .mark "." ∨ ∃ x ∈ n.parts, w = .name x := by
  rw [words, List.mem_cons] at h
  rcases h with rfl | h
  · exact .inr ⟨n.first, List.mem_cons_self, rfl⟩
  · rcases mem_tailWords h with rfl | ⟨x, hx, rfl⟩
    · exact .inl rfl
    · exact .inr ⟨x, List.mem_cons_of_mem _ hx, rfl⟩

lemma DottedName.length_tailWords (xs : List String) : (tailWords xs).length = 2 * xs.length := by
  induction xs with
  | nil => rfl
  | cons x xs ih =>
    rw [tailWords, List.length_cons, List.length_cons, List.length_cons, ih]
    omega

lemma DottedName.length_words (n : DottedName) : n.words.length = 1 + 2 * n.others.length := by
  rw [words, List.length_cons, length_tailWords]
  omega

lemma DottedName.isPlain_words (n : DottedName) : ∀ w ∈ n.words, w.isPlain = true := by
  intro w hw
  rcases mem_words hw with rfl | ⟨x, -, rfl⟩
  · exact Word.isPlain_dot
  · rfl

lemma DottedName.balanced_words (n : DottedName) : Balanced n.words :=
  (balanced_of_isPlain n.isPlain_words).1

lemma balanced_parens {x : String} {ws : List Word} (h : Balanced ws) :
    Balanced (.name x :: .mark "(" :: (ws ++ [.mark ")"])) ∧
      topLevel (.name x :: .mark "(" :: (ws ++ [.mark ")"])) = [.name x] := by
  have ho : (Word.mark "(").isOpening = true := by decide
  have hc : (Word.mark ")").closes? = some "(" := by decide
  refine ⟨(Balanced.bracket ho hc h).cons (Word.isPlain_name x), ?_⟩
  rw [topLevel_cons (Word.isPlain_name x), topLevel_bracket ho hc h]
  rfl

lemma isOpening_leftBrace : (Word.mark leftBrace).isOpening = true := by decide

lemma closes?_rightBrace : (Word.mark rightBrace).closes? = some leftBrace := by decide

lemma balanced_bracedArm {head body rest : List Word} (hh : Balanced head) (hb : Balanced body)
    (hr : Balanced rest) : Balanced (bracedArm head body rest) := by
  have h := hh.append ((Balanced.bracket isOpening_leftBrace closes?_rightBrace hb).append hr)
  unfold bracedArm
  simpa using h

lemma length_bracedArm (head body rest : List Word) :
    (bracedArm head body rest).length = head.length + body.length + rest.length + 2 := by
  simp [bracedArm]
  omega

lemma topLevel_bracedArm {head body : List Word} (hh : Balanced head) (hb : Balanced body)
    (rest : List Word) : topLevel (bracedArm head body rest) = topLevel head ++ topLevel rest := by
  unfold bracedArm
  rw [topLevel_append hh, topLevel_bracket isOpening_leftBrace closes?_rightBrace hb]

lemma Leaf.balanced_words (l : Leaf) : Balanced l.words := by
  cases l with
  | goto target => exact (balanced_parens target.balanced_words).1
  | stay => exact (balanced_parens balanced_nil).1
  | stop => exact (balanced_parens balanced_nil).1

lemma Leaf.topLevel_words (l : Leaf) :
    ∃ x, topLevel l.words = [.name x] ∧ x ≠ "case" ∧ x ≠ "match" ∧ x ≠ "if" := by
  cases l with
  | goto target => exact ⟨"goto", (balanced_parens target.balanced_words).2, by decide⟩
  | stay => exact ⟨"stay", (balanced_parens balanced_nil).2, by decide⟩
  | stop => exact ⟨"stop", (balanced_parens balanced_nil).2, by decide⟩

lemma Leaf.words_ne_nil (l : Leaf) : l.words ≠ [] := by
  cases l <;> simp [Leaf.words]

lemma Condition.balanced_head (c : Condition) :
    Balanced c.head ∧ topLevel c.head = [.name "if"] :=
  balanced_parens c.balanced

lemma DottedName.balanced_match (n : DottedName) :
    Balanced (n.words ++ [.name "match"]) ∧
      topLevel (n.words ++ [.name "match"]) = n.words ++ [.name "match"] := by
  apply balanced_of_isPlain
  intro w hw
  rcases List.mem_append.mp hw with hw | hw
  · exact n.isPlain_words w hw
  · rw [List.mem_singleton.mp hw]
    rfl

lemma CasePattern.length_head (p : CasePattern) : p.head.length = p.words.length + 2 := by
  simp [CasePattern.head]

lemma CasePattern.balanced_head (p : CasePattern) : Balanced p.head :=
  (p.balanced.append (balanced_singleton Word.isPlain_arrow)).cons (Word.isPlain_name "case")

mutual

theorem Tree.balanced_words : ∀ T : Tree, Balanced T.words
  | .leaf l => l.balanced_words
  | .conditional c body rest =>
    balanced_bracedArm c.balanced_head.1 body.balanced_words rest.balanced_words
  | .matching subject arms =>
    balanced_bracedArm subject.balanced_match.1 arms.balanced_words balanced_nil

theorem Chain.balanced_words : ∀ rest : Chain, Balanced rest.words
  | .done => balanced_nil
  | .otherwise body =>
    balanced_bracedArm (balanced_name "else") body.balanced_words
      balanced_nil
  | .elseIf c body rest =>
    (balanced_bracedArm c.balanced_head.1 body.balanced_words rest.balanced_words).cons
      (Word.isPlain_name "else")

theorem Arms.balanced_words : ∀ arms : Arms, Balanced arms.words
  | .one p body => p.balanced_head.append body.balanced_words
  | .more p body rest => p.balanced_head.append (body.balanced_words.append rest.balanced_words)

end

/-- Outside its brackets, what follows an `if` says only `else` and `if`. -/
lemma Chain.mem_topLevel {rest : Chain} {w : Word} (h : w ∈ topLevel rest.words) :
    w = .name "else" ∨ w = .name "if" := by
  cases rest with
  | done => simp [Chain.words] at h
  | otherwise body =>
    rw [Chain.words, topLevel_bracedArm (balanced_name "else")
      body.balanced_words, topLevel_cons (Word.isPlain_name "else")] at h
    exact .inl (by simpa using h)
  | elseIf c body rest =>
    rw [Chain.words, topLevel_cons (Word.isPlain_name "else"),
      topLevel_bracedArm c.balanced_head.1 body.balanced_words, c.balanced_head.2] at h
    rcases List.mem_cons.mp h with rfl | h
    · exact .inl rfl
    · rcases List.mem_append.mp h with h | h
      · exact .inr (by simpa using h)
      · exact Chain.mem_topLevel h

/-- Outside its brackets, a tree has no arrow, and the word `case` only when it is not whole. -/
theorem Tree.mem_topLevel {T : Tree} {w : Word} (h : w ∈ topLevel T.words) :
    w ≠ .arrow ∧ (w = .name "case" → T.isWhole = false) := by
  cases T with
  | leaf l =>
    obtain ⟨x, hx, hcase, -⟩ := l.topLevel_words
    rw [Tree.words, hx, List.mem_singleton] at h
    subst h
    exact ⟨by simp [Word.name, Word.arrow], fun hw => absurd (congrArg Word.text hw) hcase⟩
  | conditional c body rest =>
    rw [Tree.words, topLevel_bracedArm c.balanced_head.1 body.balanced_words, c.balanced_head.2]
      at h
    have hw : w = .name "else" ∨ w = .name "if" := by
      rcases List.mem_append.mp h with h | h
      · exact .inr (by simpa using h)
      · exact Chain.mem_topLevel h
    rcases hw with rfl | rfl <;> exact ⟨by decide, fun hw => absurd hw (by decide)⟩
  | matching subject arms =>
    rw [Tree.words, topLevel_bracedArm subject.balanced_match.1 arms.balanced_words,
      subject.balanced_match.2, topLevel_nil, List.append_nil] at h
    rcases List.mem_append.mp h with h | h
    · rcases DottedName.mem_words h with rfl | ⟨x, hx, rfl⟩
      · exact ⟨by decide, fun hw => absurd hw (by decide)⟩
      · refine ⟨by simp [Word.name, Word.arrow], fun hw => ?_⟩
        have hcase : x = "case" := congrArg Word.text hw
        rw [hcase] at hx
        simp [Tree.isWhole, hx]
    · rw [List.mem_singleton.mp h]
      exact ⟨by decide, fun hw => absurd hw (by decide)⟩

/-! ### Labels of a tree -/

/-- No label on these ways is empty. -/
def Labelled (ways : List Way) : Prop := ∀ w ∈ ways, ∀ x ∈ w.1, x ≠ ""

lemma Labelled.append {u v : List Way} (hu : Labelled u) (hv : Labelled v) : Labelled (u ++ v) := by
  intro w hw
  rcases List.mem_append.mp hw with hw | hw
  · exact hu w hw
  · exact hv w hw

lemma Labelled.under {label : String} {ways : List Way} (hl : label ≠ "") (h : Labelled ways) :
    Labelled (ways.map (Way.under label)) := by
  intro w hw x hx
  obtain ⟨v, hv, rfl⟩ := List.mem_map.mp hw
  rcases List.mem_cons.mp hx with rfl | hx
  · exact hl
  · exact h v hv x hx

mutual

theorem Tree.labelled : ∀ T : Tree, Labelled T.ways
  | .leaf _ => by simp [Labelled, Tree.ways]
  | .conditional c body rest => (body.labelled.under c.label_ne).append rest.labelled
  | .matching _ arms => arms.labelled

theorem Chain.labelled : ∀ rest : Chain, Labelled rest.ways
  | .done => by simp [Labelled, Chain.ways]
  | .otherwise body => body.labelled.under (by decide)
  | .elseIf c body rest => (body.labelled.under c.label_ne).append rest.labelled

theorem Arms.labelled : ∀ arms : Arms, Labelled arms.ways
  | .one p body => body.labelled.under p.label_ne
  | .more p body rest => (body.labelled.under p.label_ne).append rest.labelled

end

mutual

theorem Tree.ways_ne_nil : ∀ T : Tree, T.ways ≠ []
  | .leaf _ => by simp [Tree.ways]
  | .conditional _ body _ => by simp [Tree.ways, body.ways_ne_nil]
  | .matching _ arms => arms.ways_ne_nil

theorem Arms.ways_ne_nil : ∀ arms : Arms, arms.ways ≠ []
  | .one _ body => by simp [Arms.ways, body.ways_ne_nil]
  | .more _ body _ => by simp [Arms.ways, body.ways_ne_nil]

end

lemma path_ne_of_under {label : String} {ways : List Way} {w : Way}
    (h : w ∈ ways.map (Way.under label)) : w.1 ≠ [] := by
  obtain ⟨v, -, rfl⟩ := List.mem_map.mp h
  exact List.cons_ne_nil _ _

lemma Chain.path_ne : ∀ rest : Chain, ∀ w ∈ rest.ways, w.1 ≠ []
  | .done, w, hw => by simp [Chain.ways] at hw
  | .otherwise _, _, hw => path_ne_of_under hw
  | .elseIf _ _ rest, w, hw => (List.mem_append.mp hw).elim path_ne_of_under (rest.path_ne w)

lemma Arms.path_ne : ∀ arms : Arms, ∀ w ∈ arms.ways, w.1 ≠ []
  | .one _ _, _, hw => path_ne_of_under hw
  | .more _ _ rest, w, hw => (List.mem_append.mp hw).elim path_ne_of_under (rest.path_ne w)

lemma Branch.nonempty?_of_ne {x : String} (h : x ≠ "") : Branch.nonempty? x = some x := by
  unfold Branch.nonempty?
  rw [if_neg (by simpa using h)]

lemma intercalate_ne {x : String} {xs : List String} (h : x ≠ "") :
    "/".intercalate (x :: xs) ≠ "" := by
  cases xs with
  | nil => simpa using h
  | cons y ys => simp [String.intercalate_cons_cons, h]

lemma Way.label_under {label : String} {w : Way} (hl : label ≠ "") (hw : ∀ x ∈ w.1, x ≠ "") :
    (w.under label).label = Branch.joinLabels label w.label := by
  obtain ⟨path, leaf⟩ := w
  unfold Branch.joinLabels
  rw [Branch.nonempty?_of_ne hl]
  cases path with
  | nil => simp [Way.label, Way.under]
  | cons x xs =>
    have hne : "/".intercalate (x :: xs) ≠ "" := intercalate_ne (hw x List.mem_cons_self)
    simp [Way.label, Way.under, Branch.nonempty?_of_ne hne, String.intercalate_cons_cons,
      String.append_assoc]

/-! ### Outcomes of ways -/

section Outcomes

variable {states : StateIndex} {u v ways : List Way} {label : String}

lemma outcomesOf_cons (w : Way) : outcomesOf states (w :: ways) = (do
    let b ← w.branch states
    let bs ← outcomesOf states ways
    .ok (b :: bs)) :=
  List.mapM_cons

lemma outcomesOf_append : outcomesOf states (u ++ v) = (do
    let bs ← outcomesOf states u
    let cs ← outcomesOf states v
    .ok (bs ++ cs)) := by
  unfold outcomesOf
  rw [List.mapM_append]
  rfl

lemma outcomesOf_under (hl : label ≠ "") (h : Labelled ways) :
    outcomesOf states (ways.map (Way.under label)) =
      (outcomesOf states ways).map (List.map (Branch.under label)) := by
  induction ways with
  | nil => rfl
  | cons w ways ih =>
    have hlabel := Way.label_under hl (h w List.mem_cons_self)
    have hbranch : (w.under label).branch states =
        (w.branch states).map (Branch.under label) := by
      unfold Way.branch Way.under
      rw [show Way.label (label :: w.1, w.2) = _ from hlabel]
      cases w.2.action states <;> rfl
    rw [List.map_cons, outcomesOf_cons, outcomesOf_cons, hbranch,
      ih fun x hx => h x (List.mem_cons_of_mem _ hx)]
    cases w.branch states with
    | error e => rfl
    | ok b => cases outcomesOf states ways <;> rfl

/-- There is one outcome for each way, and it has the label of that way. -/
theorem labels_of_outcomesOf {bs : List Branch} (h : outcomesOf states ways = .ok bs) :
    bs.map (·.label) = ways.map Way.label := by
  induction ways generalizing bs with
  | nil =>
    cases h
    rfl
  | cons w ways ih =>
    rw [outcomesOf_cons] at h
    obtain ⟨b, hb, h⟩ := bind_eq_ok_iff.mp h
    obtain ⟨cs, hcs, h⟩ := bind_eq_ok_iff.mp h
    cases h
    obtain ⟨a, -, rfl⟩ := map_eq_ok_iff.mp hb
    rw [List.map_cons, List.map_cons, ih hcs]

end Outcomes

end ActorDiagram
