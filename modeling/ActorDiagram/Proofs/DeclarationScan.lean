import Mathlib
import ActorDiagram.Proofs.SpliceStates
import ActorDiagram.Proofs.TypeClause

/-!
# The scan for declarations

Which groups the scan of a stream opens, which declarations it accepts, and where it goes on after each.
The scan is described by its steps; the reader keeps a stack of groups that it clears as it goes, and
gives the same.
-/

namespace ActorDiagram.StateIndex

/-- At `i` stands a declaration: its head, the types that it extends and where its clause ends. -/
structure Declares (s : Stream) (i : Nat) (head : DeclHead) (supers : List String) (next : Nat) :
    Prop where
  starts : ∃ first, s.get? i = some first ∧ declHead? s i first = some head
  clause : s.TypeClause head.next supers next

/-- Group that a scan opens: its name and its braces. -/
structure Opened where
  name : String
  start : Nat
  close : Nat

/-- State that a scan accepts: where its declaration starts, where its name stands, and the braces of its
body if it has one. -/
structure Accepted where
  start : Nat
  place : Nat
  name : Token
  body : Option (Nat × Nat)

/-- The head opens a group if a brace follows its clause. -/
def DeclHead.isGroup (head : DeclHead) : Bool := head.isObject && !head.isCase

/-- What a scan does at `i`: the groups that it opens, the states that it accepts, and where it goes on.
The body of a state is passed over. -/
inductive Step (s : Stream) (types : Option (List String)) (i : Nat) :
    List Opened → List Accepted → Nat → Prop
  | pass {first : Token} : s.get? i = some first → declHead? s i first = none →
      Step s types i [] [] (i + 1)
  | other {head : DeclHead} {supers : List String} {next : Nat} : Declares s i head supers next →
      declaresState types head supers = false → (head.isGroup && opensBody s next) = false →
      Step s types i [] [] next
  | group {head : DeclHead} {supers : List String} {next close : Nat} : Declares s i head supers next →
      declaresState types head supers = false → (head.isGroup && opensBody s next) = true →
      s.closer next = .ok close → Step s types i [⟨head.name.text, next, close⟩] [] next
  | state {head : DeclHead} {supers : List String} {next : Nat} : Declares s i head supers next →
      declaresState types head supers = true → opensBody s next = false →
      Step s types i [] [⟨i, head.next - 1, head.name, none⟩] next
  | body {head : DeclHead} {supers : List String} {next close : Nat} : Declares s i head supers next →
      declaresState types head supers = true → opensBody s next = true → s.closer next = .ok close →
      Step s types i [] [⟨i, head.next - 1, head.name, some (next, close)⟩] (close + 1)

/-- A scan from the start of the stream comes to `i`, has opened these groups and accepted these
states. -/
inductive Scan (s : Stream) (types : Option (List String)) : Nat → List Opened → List Accepted → Prop
  | start : Scan s types 0 [] []
  | step {i k : Nat} {groups groups' : List Opened} {found found' : List Accepted} :
      Scan s types i groups found → Step s types i groups' found' k →
      Scan s types k (groups ++ groups') (found ++ found')

/-- Groups whose braces enclose a place, in the order in which they open. -/
def enclosing (groups : List Opened) (i : Nat) : List Opened :=
  groups.filter fun g => g.start < i && i < g.close

/-- Scope of what stands at a place. Names that join to nothing make no scope. -/
def scopeAt (groups : List Opened) (i : Nat) : Option String :=
  let path := (enclosing groups i).map (·.name)
  if path = [] ∨ path = [""] then none else some (".".intercalate path)

/-- The state that an accepted declaration declares. -/
def declOf (groups : List Opened) (a : Accepted) : DeclaredState :=
  let scope := scopeAt groups a.start
  ⟨scope, a.name.text, qualify scope a.name.text, a.name.line, a.name.column⟩

variable {s : Stream} {types : Option (List String)} {i k next : Nat} {head : DeclHead}
  {supers : List String} {groups groups' : List Opened} {found found' : List Accepted}

/-! ### Heads -/

lemma words_of_declHead? {first : Token} (h : declHead? s i first = some head) : ∃ k keyword,
      (k = i ∧ head.isCase = false ∨ k = i + 1 ∧ head.isCase = true) ∧
      head.isCase = first.isWord "case" ∧ head.isObject = (keyword.text == "object") ∧
      s.get? k = some keyword ∧ keyword.isWordOf ["object", "class"] = true ∧
      s.get? (k + 1) = some head.name ∧ head.name.isIdentifier = true ∧ head.next = k + 2 := by
  unfold declHead? at h
  simp only at h
  cases hcase : first.isWord "case" with
  | false =>
    simp only [hcase, Bool.false_eq_true, if_false] at h
    split at h
    · rename_i keyword name hkeyword hname
      rw [Option.ite_none_right_eq_some] at h
      obtain ⟨hwords, h⟩ := h
      cases h
      rw [Bool.and_eq_true, Bool.and_eq_true] at hwords
      exact ⟨i, keyword, .inl ⟨rfl, rfl⟩, rfl, rfl, hkeyword, hwords.1.1, hname, hwords.1.2, rfl⟩
    · cases h
  | true =>
    simp only [hcase, if_true] at h
    split at h
    · rename_i keyword name hkeyword hname
      rw [Option.ite_none_right_eq_some] at h
      obtain ⟨hwords, h⟩ := h
      cases h
      rw [Bool.and_eq_true, Bool.and_eq_true] at hwords
      exact ⟨i + 1, keyword, .inr ⟨rfl, rfl⟩, rfl, rfl, hkeyword, hwords.1.1, hname, hwords.1.2, rfl⟩
    · cases h

namespace Declares

lemma isNameAt (h : Declares s i head supers next) : i + 2 ≤ head.next ∧ head.next ≤ i + 3 ∧
    s.get? (head.next - 1) = some head.name ∧ ∀ k, i ≤ k → k < head.next → s.isNameAt k = true := by
  obtain ⟨first, ht, hhead⟩ := h.starts
  obtain ⟨k, keyword, hk, hcase, -, hkeyword, hof, hname, hident, hnext⟩ := words_of_declHead? hhead
  have hfirst : s.isNameAt k = true :=
    Stream.isNameAt_eq_true_iff.mpr ⟨keyword, hkeyword, Lexeme.isIdentifier_of_isWordOf hof⟩
  have hlast : s.isNameAt (k + 1) = true := Stream.isNameAt_eq_true_iff.mpr ⟨_, hname, hident⟩
  have hget : s.get? (head.next - 1) = some head.name := by
    rw [hnext]
    exact hname
  rcases hk with ⟨rfl, -⟩ | ⟨rfl, hcase'⟩
  · refine ⟨by omega, by omega, hget, fun k' hge hlt => ?_⟩
    obtain rfl | rfl : k' = k ∨ k' = k + 1 := by omega
    · exact hfirst
    · exact hlast
  · have hword : s.isNameAt i = true :=
      Stream.isNameAt_eq_true_iff.mpr ⟨first, ht, Lexeme.isIdentifier_of_isWord (hcase.symm.trans hcase')⟩
    refine ⟨by omega, by omega, hget, fun k' hge hlt => ?_⟩
    obtain rfl | rfl | rfl : k' = i ∨ k' = i + 1 ∨ k' = i + 1 + 1 := by omega
    · exact hword
    · exact hfirst
    · exact hlast

lemma isNameAt_start (h : Declares s i head supers next) : s.isNameAt i = true := by
  obtain ⟨hlow, -, -, hnames⟩ := h.isNameAt
  exact hnames i (le_refl i) (by omega)

lemma le_next (hs : s.Nested) (h : Declares s i head supers next) : head.next ≤ next := h.clause.le hs

lemma lt_next (hs : s.Nested) (h : Declares s i head supers next) : i + 2 ≤ next :=
  h.isNameAt.1.trans (h.le_next hs)

end Declares

lemma Declares.le_closer (hs : s.Nested) (h : Declares s i head supers next) {o c : Nat}
    (hc : s.closer o = .ok c) (ho : o < i) (hic : i ≤ c) : next ≤ c := by
  obtain ⟨hlow, -, -, hnames⟩ := h.isNameAt
  apply h.clause.le_closer hs hc (by omega)
  by_contra hlt
  exact Stream.ne_closer_of_isNameAt hs hc (hnames c hic (by omega)) rfl

/-! ### Steps -/

namespace Step

/-- A step leaves a token behind. -/
lemma lt (hs : s.Nested) (h : Step s types i groups found k) : i < s.size ∧ i < k := by
  have hsize : ∀ {head supers next}, Declares s i head supers next → i < s.size := by
    intro head supers next hdecl
    obtain ⟨first, ht, -⟩ := hdecl.starts
    exact Stream.lt_of_get? ht
  cases h with
  | pass ht => exact ⟨Stream.lt_of_get? ht, Nat.lt_succ_self i⟩
  | other hdecl | group hdecl | state hdecl =>
    have := hdecl.lt_next hs
    exact ⟨hsize hdecl, by omega⟩
  | body hdecl _ _ hc =>
    have := hdecl.lt_next hs
    have := (hs.lt_closer hc).1
    exact ⟨hsize hdecl, by omega⟩

lemma opened (hs : s.Nested) (h : Step s types i groups found k) {g : Opened} (hg : g ∈ groups) :
    i < g.start ∧ g.start = k ∧ s.hasMark g.start leftBrace = true ∧ s.closer g.start = .ok g.close ∧
      ∀ o c, s.closer o = .ok c → o < i → i ≤ c → k ≤ c := by
  cases h with
  | group hdecl _ hopens hc =>
    rw [List.mem_singleton.mp hg]
    rw [Bool.and_eq_true] at hopens
    have := hdecl.lt_next hs
    exact ⟨by simp only; omega, rfl, hopens.2, hc, fun o c hoc ho hic => hdecl.le_closer hs hoc ho hic⟩
  | pass | other | state | body => simp at hg

lemma accepted (hs : s.Nested) (h : Step s types i groups found k) {a : Accepted} (ha : a ∈ found) :
    a.start = i ∧ i < a.place ∧ a.place < k ∧ s.isNameAt i = true ∧ s.isNameAt a.place = true ∧
      s.get? a.place = some a.name ∧ ∀ o c, a.body = some (o, c) →
        s.hasMark o leftBrace = true ∧ s.closer o = .ok c ∧ a.place < o ∧ c < k := by
  cases h with
  | pass | other | group => simp at ha
  | @state head _ _ hdecl =>
    rw [List.mem_singleton.mp ha]
    obtain ⟨hlow, -, hname, hnames⟩ := hdecl.isNameAt
    have := hdecl.le_next hs
    have hplace : i < head.next - 1 ∧ head.next - 1 < k := ⟨by omega, by omega⟩
    exact ⟨rfl, hplace.1, hplace.2, hnames i (le_refl i) (by omega),
      hnames (head.next - 1) hplace.1.le (by omega),
      hname, by simp⟩
  | @body head _ next close hdecl _ hopens hc =>
    rw [List.mem_singleton.mp ha]
    obtain ⟨hlow, -, hname, hnames⟩ := hdecl.isNameAt
    have := hdecl.le_next hs
    have := (hs.lt_closer hc).1
    have hplace : i < head.next - 1 ∧ head.next - 1 < next := ⟨by omega, by omega⟩
    have hclose : head.next - 1 < close + 1 := by omega
    refine ⟨rfl, hplace.1, hclose, hnames i (le_refl i) (by omega),
      hnames (head.next - 1) hplace.1.le (by omega), hname, fun o c hoc => ?_⟩
    cases hoc
    exact ⟨hopens, hc, hplace.2, Nat.lt_succ_self _⟩

end Step

/-! ### Scans -/

namespace Scan

lemma opened (hs : s.Nested) (h : Scan s types i groups found) : ∀ g ∈ groups,
    g.start ≤ i ∧ s.hasMark g.start leftBrace = true ∧ s.closer g.start = .ok g.close := by
  induction h with
  | start => simp
  | step _ hstep ih =>
    have := hstep.lt hs
    intro g hg
    rcases List.mem_append.mp hg with hg | hg
    · obtain ⟨hle, hrest⟩ := ih g hg
      exact ⟨by omega, hrest⟩
    · obtain ⟨-, heq, hmark, hc, -⟩ := hstep.opened hs hg
      exact ⟨heq.le, hmark, hc⟩

lemma accepted (hs : s.Nested) (h : Scan s types i groups found) : ∀ a ∈ found,
    a.start < a.place ∧ a.place < i ∧ s.isNameAt a.start = true ∧ s.isNameAt a.place = true ∧
      s.get? a.place = some a.name ∧ ∀ o c, a.body = some (o, c) →
        s.hasMark o leftBrace = true ∧ s.closer o = .ok c ∧ a.place < o ∧ c < i := by
  induction h with
  | start => simp
  | step _ hstep ih =>
    have := hstep.lt hs
    intro a ha
    rcases List.mem_append.mp ha with ha | ha
    · obtain ⟨hlt, hi, hword, hname, hget, hbody⟩ := ih a ha
      refine ⟨hlt, by omega, hword, hname, hget, fun o c hoc => ?_⟩
      obtain ⟨hmark, hc, ho, hci⟩ := hbody o c hoc
      exact ⟨hmark, hc, ho, by omega⟩
    · obtain ⟨rfl, hlt, hk, hrest⟩ := hstep.accepted hs ha
      exact ⟨hlt, hk, hrest⟩

lemma groups_pairwise (hs : s.Nested) (h : Scan s types i groups found) :
    groups.Pairwise fun g g' => g.start < g'.start := by
  induction h with
  | start => exact .nil
  | step hscan hstep ih =>
    rw [List.pairwise_append]
    refine ⟨ih, ?_, fun g hg g' hg' => ?_⟩
    · cases hstep with
      | group => exact List.pairwise_singleton _ _
      | pass | other | state | body => exact .nil
    · have := (hscan.opened hs g hg).1
      have := (hstep.opened hs hg').1
      omega

lemma found_pairwise (hs : s.Nested) (h : Scan s types i groups found) :
    found.Pairwise fun a b => a.place < b.start ∧ ∀ o c, a.body = some (o, c) → c < b.start := by
  induction h with
  | start => exact .nil
  | step hscan hstep ih =>
    rw [List.pairwise_append]
    refine ⟨ih, ?_, fun a ha b hb => ?_⟩
    · cases hstep with
      | state | body => exact List.pairwise_singleton _ _
      | pass | other | group => exact .nil
    · obtain ⟨-, hlt, -, -, -, hbody⟩ := hscan.accepted hs a ha
      rw [(hstep.accepted hs hb).1]
      exact ⟨hlt, fun o c hoc => (hbody o c hoc).2.2.2⟩

end Scan

/-! ### Scopes -/

lemma intercalate_isEmpty_iff {path : List String} :
    (".".intercalate path).isEmpty = true ↔ path = [] ∨ path = [""] := by
  rw [String.isEmpty_iff]
  match path with
  | [] => simp
  | [name] => simp
  | name :: name' :: path => simp

/-- Groups that do not end before a place, innermost first. -/
def stackAt (groups : List Opened) (i : Nat) : List Group :=
  (groups.map fun g => ⟨g.name, g.close⟩).reverse.filter (i ≤ ·.close)

lemma dropWhile_eq_filter {stack : List Group} (h : stack.Pairwise fun g g' => g.close < g'.close) :
    stack.dropWhile (·.close < k) = stack.filter (k ≤ ·.close) := by
  induction stack with
  | nil => rfl
  | cons g stack ih =>
    rw [List.pairwise_cons] at h
    by_cases hg : g.close < k
    · rw [List.dropWhile_cons_of_pos (by simpa using hg), List.filter_cons_of_neg (by simpa using hg),
        ih h.2]
    · rw [List.dropWhile_cons_of_neg (by simpa using hg), Eq.comm, List.filter_eq_self]
      intro g' hg'
      rw [decide_eq_true_eq]
      rcases List.mem_cons.mp hg' with rfl | hg'
      · omega
      · have := h.1 g' hg'
        omega

lemma filter_stackAt (hik : i ≤ k) : (stackAt groups i).filter (k ≤ ·.close) = stackAt groups k := by
  rw [stackAt, List.filter_filter]
  refine List.filter_congr fun g _ => ?_
  rw [Bool.eq_iff_iff, Bool.and_eq_true, decide_eq_true_eq, decide_eq_true_eq]
  omega

lemma ne_of_hasMark {text : String} (hmark : s.hasMark i text = true) (hname : s.isNameAt k = true) :
    i ≠ k := by
  rintro rfl
  obtain ⟨t, ht, hident⟩ := Stream.isNameAt_eq_true_iff.mp hname
  rw [Stream.hasMark_eq_any, ht, Option.any_some, Lexeme.isMark_eq_true] at hmark
  rw [Lexeme.isIdentifier_eq_true, hmark.1] at hident
  cases hident

namespace Scan

/-- Of two groups around a place the later one ends first. -/
lemma stackAt_pairwise (hs : s.Nested) (h : Scan s types i groups found) :
    (stackAt groups i).Pairwise fun g g' => g.close < g'.close := by
  have hopened := h.opened hs
  rw [stackAt, List.filter_reverse, List.pairwise_reverse, List.filter_map, List.pairwise_map]
  refine ((h.groups_pairwise hs).filter _).imp_of_mem fun {g g'} hg hg' hlt => ?_
  rw [List.mem_filter] at hg hg'
  simp only [Function.comp_apply, decide_eq_true_eq] at hg hg'
  obtain ⟨-, -, hc⟩ := hopened g hg.1
  obtain ⟨hle, hmark, hc'⟩ := hopened g' hg'.1
  obtain ⟨t, ht, hmark⟩ := Stream.hasMark_eq_true_iff.mp hmark
  have := hs.ne_closer_of_isOpening hc ht (Lexeme.isOpening_of_isMark hmark (by decide))
  exact hs.closer_lt_closer hc hlt (by omega) hc'

lemma enclosing_eq (hs : s.Nested) (h : Scan s types i groups found) (hname : s.isNameAt i = true) :
    enclosing groups i = groups.filter (i ≤ ·.close) := by
  refine List.filter_congr fun g hg => ?_
  obtain ⟨hle, hmark, hc⟩ := h.opened hs g hg
  have hne := Stream.ne_closer_of_isNameAt hs hc hname
  have hne' := ne_of_hasMark hmark hname
  rw [Bool.eq_iff_iff, Bool.and_eq_true, decide_eq_true_eq, decide_eq_true_eq, decide_eq_true_eq]
  omega

/-- The stack of the reader gives a state its scope. -/
theorem declIn_stackAt (hs : s.Nested) (h : Scan s types i groups found) {a : Accepted}
    (ha : a.start = i) (hname : s.isNameAt i = true) :
    declIn (stackAt groups i) a.name = declOf groups a := by
  have hpath : (stackAt groups i).reverse.map (·.name) = (enclosing groups i).map (·.name) := by
    rw [h.enclosing_eq hs hname, stackAt, List.filter_reverse, List.reverse_reverse, List.filter_map,
      List.map_map]
    rfl
  have hscope : scopeOf (stackAt groups i) = scopeAt groups i := by
    unfold scopeOf scopeAt
    simp only [hpath]
    exact if_congr intercalate_isEmpty_iff rfl rfl
  rw [declIn, declOf, ha, hscope]

end Scan

lemma declOf_append {a : Accepted} (h : ∀ g ∈ groups', a.start ≤ g.start) :
    declOf (groups ++ groups') a = declOf groups a := by
  have hnone : groups'.filter (fun g => g.start < a.start && a.start < g.close) = [] := by
    rw [List.filter_eq_nil_iff]
    intro g hg
    have := h g hg
    rw [Bool.and_eq_true, decide_eq_true_eq]
    omega
  rw [declOf, declOf, scopeAt, scopeAt, enclosing, enclosing, List.filter_append, hnone, List.append_nil]

lemma Scan.decls_step (hs : s.Nested) (h : Scan s types i groups found)
    (hstep : Step s types i groups' found' k) :
    (found ++ found').map (declOf (groups ++ groups')) =
      found.map (declOf groups) ++ found'.map (declOf groups) := by
  rw [List.map_append]
  congr 1
  · refine List.map_congr_left fun a ha => declOf_append fun g hg => ?_
    have := h.accepted hs a ha
    have := (hstep.opened hs hg).1
    omega
  · refine List.map_congr_left fun a ha => declOf_append fun g hg => ?_
    have := (hstep.accepted hs ha).1
    have := (hstep.opened hs hg).1
    omega

/-! ### The reader -/

/-- The states of a scan have ids of their own. -/
def DistinctIds (groups : List Opened) (found : List Accepted) : Prop :=
  ((found.map (declOf groups)).map (·.id)).Nodup

/-- A scan has come to a declaration that repeats the id of an earlier state, which is the failure that
the reader ends with. -/
inductive Repeats (s : Stream) (types : Option (List String)) : Error → Prop
  | repeated {i next : Nat} {groups : List Opened} {found : List Accepted} {head : DeclHead}
      {supers : List String} : Scan s types i groups found → DistinctIds groups found →
      Declares s i head supers next → declaresState types head supers = true →
      (∃ a ∈ found, (declOf groups a).id = qualify (scopeAt groups i) head.name.text) →
      Repeats s types (.source (.duplicateState (qualify (scopeAt groups i) head.name.text))
        (some head.name.line) (some head.name.column))

lemma declsFrom_stackAt {fuel : Nat} {decls : List DeclaredState} (hs : s.Nested)
    (h : Scan s types i groups found) (hik : i ≤ k) :
    declsFrom s types fuel k (stackAt groups i) decls =
      declsFrom s types fuel k (stackAt groups k) decls := by
  rw [← declsFrom_dropWhile (le_refl k) (stackAt groups i), dropWhile_eq_filter (h.stackAt_pairwise hs),
    filter_stackAt hik]

lemma dropWhile_stackAt (hs : s.Nested) (h : Scan s types i groups found) :
    (stackAt groups i).dropWhile (·.close < i) = stackAt groups i := by
  rw [dropWhile_eq_filter (h.stackAt_pairwise hs), filter_stackAt (le_refl i)]

lemma declsFrom_of_pass {fuel : Nat} {decls : List DeclaredState} (hs : s.Nested)
    (h : Scan s types i groups found) {first : Token} (ht : s.get? i = some first)
    (hhead : declHead? s i first = none) : declsFrom s types (fuel + 1) i (stackAt groups i) decls =
      declsFrom s types fuel (i + 1) (stackAt groups i) decls := by
  rw [declsFrom, ht]
  simp only
  rw [hhead, dropWhile_stackAt hs h]

lemma declsFrom_of_declares (fuel : Nat) (decls : List DeclaredState) (hs : s.Nested)
    (h : Scan s types i groups found) (hdecl : Declares s i head supers next) {a : Accepted}
    (ha : a.start = i) (hname : a.name = head.name) :
    declsFrom s types (fuel + 1) i (stackAt groups i) decls =
      if declaresState types head supers then
        if decls.any (·.id == (declOf groups a).id) then
          .error (.source (.duplicateState (declOf groups a).id) (some head.name.line)
            (some head.name.column))
        else if opensBody s next then s.closer next >>= fun close =>
          declsFrom s types fuel (close + 1) (stackAt groups i) (decls ++ [declOf groups a])
        else declsFrom s types fuel next (stackAt groups i) (decls ++ [declOf groups a])
      else if head.isGroup && opensBody s next then s.closer next >>= fun close =>
        declsFrom s types fuel next (⟨head.name.text, close⟩ :: stackAt groups i) decls
      else declsFrom s types fuel next (stackAt groups i) decls := by
  obtain ⟨first, ht, hhead⟩ := hdecl.starts
  rw [declsFrom, ht]
  simp only
  rw [hhead, dropWhile_stackAt hs h]
  simp only [(Stream.supertypes_eq_ok_iff hs).mpr hdecl.clause]
  rw [← h.declIn_stackAt hs ha hdecl.isNameAt_start, hname]
  rfl

/-- No state of these has the id of the declaration. -/
def Fresh (groups : List Opened) (found : List Accepted) (a : Accepted) : Prop :=
  (found.map (declOf groups)).any (·.id == (declOf groups a).id) = false

/-- A group that opens is put on the stack, and none of those around it is taken off. -/
lemma Scan.stackAt_group (hs : s.Nested) (h : Scan s types i groups found)
    (hdecl : Declares s i head supers next) {close : Nat} (hc : s.closer next = .ok close) :
    ⟨head.name.text, close⟩ :: stackAt groups i =
      stackAt (groups ++ [⟨head.name.text, next, close⟩]) next := by
  have hnext := hdecl.lt_next hs
  have hkeep : stackAt groups i = stackAt groups next := by
    rw [← filter_stackAt (show i ≤ next by omega), Eq.comm, List.filter_eq_self]
    intro g hg
    rw [stackAt, List.mem_filter, List.mem_reverse, List.mem_map, decide_eq_true_eq] at hg
    obtain ⟨⟨g, hmem, rfl⟩, hlive⟩ := hg
    obtain ⟨hle, hmark, hgc⟩ := h.opened hs g hmem
    have hne := ne_of_hasMark hmark hdecl.isNameAt_start
    exact decide_eq_true (hdecl.le_closer hs hgc (by omega) hlive)
  have hclose := (hs.lt_closer hc).1.le
  rw [hkeep, stackAt, stackAt, List.map_append, List.map_singleton, List.reverse_append,
    List.reverse_singleton, List.singleton_append, List.filter_cons_of_pos (by simpa using hclose)]

/-- The reader makes a step of the scan. -/
theorem declsFrom_of_step {fuel : Nat} (hs : s.Nested) (h : Scan s types i groups found)
    (hstep : Step s types i groups' found' k)
    (hdistinct : DistinctIds (groups ++ groups') (found ++ found')) :
    declsFrom s types (fuel + 1) i (stackAt groups i) (found.map (declOf groups)) =
      declsFrom s types fuel k (stackAt (groups ++ groups') k)
        ((found ++ found').map (declOf (groups ++ groups'))) := by
  have hlt := (hstep.lt hs).2.le
  rw [DistinctIds, h.decls_step hs hstep, List.map_append] at hdistinct
  rw [h.decls_step hs hstep]
  have hfresh : ∀ a ∈ found', Fresh groups found a := by
    intro a ha
    rw [Fresh, List.any_eq_false]
    intro d hd heq
    rw [beq_iff_eq] at heq
    exact List.disjoint_of_nodup_append hdistinct (List.mem_map_of_mem hd)
      (heq ▸ List.mem_map_of_mem (List.mem_map_of_mem ha))
  cases hstep with
  | pass ht hhead =>
    rw [declsFrom_of_pass hs h ht hhead, declsFrom_stackAt hs h hlt]
    simp only [List.append_nil, List.map_nil]
  | @other head _ _ hdecl hstate hgroup =>
    rw [declsFrom_of_declares _ _ hs h hdecl (a := ⟨i, 0, head.name, none⟩) rfl rfl,
      if_neg (by simp [hstate]), if_neg (by simp [hgroup]), declsFrom_stackAt hs h hlt]
    simp only [List.append_nil, List.map_nil]
  | @group head _ _ close hdecl hstate hgroup hc =>
    rw [declsFrom_of_declares _ _ hs h hdecl (a := ⟨i, 0, head.name, none⟩) rfl rfl,
      if_neg (by simp [hstate]), if_pos hgroup, hc]
    simp only [Bind.bind, Except.bind, h.stackAt_group hs hdecl hc, List.append_nil, List.map_nil]
  | @state head _ _ hdecl hstate hbody =>
    rw [declsFrom_of_declares _ _ hs h hdecl (a := ⟨i, head.next - 1, head.name, none⟩) rfl rfl,
      if_pos hstate, if_neg (ne_true_of_eq_false (hfresh _ (List.mem_singleton_self _))),
      if_neg (by simp [hbody]), declsFrom_stackAt hs h hlt]
    simp only [List.append_nil, List.map_singleton]
  | @body head _ next close hdecl hstate hbody hc =>
    rw [declsFrom_of_declares _ _ hs h hdecl (a := ⟨i, head.next - 1, head.name, some (next, close)⟩)
      rfl rfl, if_pos hstate, if_neg (ne_true_of_eq_false (hfresh _ (List.mem_singleton_self _))),
      if_pos hbody, hc]
    simp only [Bind.bind, Except.bind]
    rw [declsFrom_stackAt hs h hlt]
    simp only [List.append_nil, List.map_singleton]

lemma DistinctIds.step (hs : s.Nested) (h : Scan s types i groups found)
    (hstep : Step s types i groups' found' k) (hdistinct : DistinctIds groups found)
    (hfresh : ∀ a ∈ found', Fresh groups found a) :
    DistinctIds (groups ++ groups') (found ++ found') := by
  have hsingle : ((found'.map (declOf groups)).map (·.id)).Nodup := by cases hstep <;> simp
  rw [DistinctIds, h.decls_step hs hstep, List.map_append, List.nodup_append]
  refine ⟨hdistinct, hsingle, fun id hid id' hid' heq => ?_⟩
  obtain ⟨d, hd, rfl⟩ := List.mem_map.mp hid
  obtain ⟨_, hd', rfl⟩ := List.mem_map.mp hid'
  obtain ⟨a, ha, rfl⟩ := List.mem_map.mp hd'
  exact List.any_eq_false.mp (hfresh a ha) d hd (beq_iff_eq.mpr heq)

lemma DistinctIds.of_step (hs : s.Nested) (h : Scan s types i groups found)
    (hstep : Step s types i groups' found' k)
    (hdistinct : DistinctIds (groups ++ groups') (found ++ found')) : DistinctIds groups found := by
  rw [DistinctIds, h.decls_step hs hstep, List.map_append] at hdistinct
  exact hdistinct.of_append_left

/-- The reader makes a scan whose states have ids of their own. -/
theorem Scan.replay (hs : s.Nested) (h : Scan s types i groups found)
    (hdistinct : DistinctIds groups found) :
    ∃ fuel, s.size ≤ i + fuel ∧ declsFrom s types s.size 0 [] [] =
      declsFrom s types fuel i (stackAt groups i) (found.map (declOf groups)) := by
  induction h with
  | start => exact ⟨s.size, by omega, rfl⟩
  | step hscan hstep ih =>
    obtain ⟨fuel, hfuel, heq⟩ := ih (hdistinct.of_step hs hscan hstep)
    have hlt := hstep.lt hs
    obtain ⟨fuel, rfl⟩ : ∃ n, fuel = n + 1 := ⟨fuel - 1, by omega⟩
    exact ⟨fuel, by omega, by rw [heq, declsFrom_of_step hs hscan hstep hdistinct]⟩

/-- A scan has come to a body whose brace is not closed, which is the failure that the reader ends with. It
is the body of a group, or of a state with an id of its own. -/
inductive BodyUnclosed (s : Stream) (types : Option (List String)) : Error → Prop
  | body {i next : Nat} {groups : List Opened} {found : List Accepted} {head : DeclHead}
      {supers : List String} {e : Error} : Scan s types i groups found → DistinctIds groups found →
      Declares s i head supers next →
      (declaresState types head supers = true ∧
          (∀ a ∈ found, (declOf groups a).id ≠ qualify (scopeAt groups i) head.name.text) ∨
        declaresState types head supers = false ∧ head.isGroup = true) →
      opensBody s next = true → s.closer next = .error e → BodyUnclosed s types e

/-- What the reader of declarations stops at. -/
inductive Stopped (s : Stream) (types : Option (List String)) : Error → Prop
  | repeats {e : Error} : Repeats s types e → Stopped s types e
  | body {e : Error} : BodyUnclosed s types e → Stopped s types e
  | clause {i : Nat} {first : Token} {head : DeclHead} {e : Error} : s.get? i = some first →
      declHead? s i first = some head → s.supertypes head.next = .error e → Stopped s types e

lemma Scan.progress_of_declares (hs : s.Nested) (h : Scan s types i groups found)
    (hdistinct : DistinctIds groups found) (hdecl : Declares s i head supers next) :
    (∃ groups' found' k, Step s types i groups' found' k ∧ ∀ a ∈ found', Fresh groups found a) ∨
    ∃ e, Stopped s types e ∧ ∀ fuel,
      declsFrom s types (fuel + 1) i (stackAt groups i) (found.map (declOf groups)) = .error e := by
  have hreads := fun fuel => declsFrom_of_declares fuel (found.map (declOf groups)) hs h hdecl
    (a := ⟨i, head.next - 1, head.name, none⟩) rfl rfl
  cases hstate : declaresState types head supers with
  | true =>
    simp only [hstate, if_true] at hreads
    cases hnew : (found.map (declOf groups)).any
        (·.id == (declOf groups ⟨i, head.next - 1, head.name, none⟩).id) with
    | true =>
      simp only [hnew, if_true] at hreads
      refine .inr ⟨_, .repeats ?_, hreads⟩
      obtain ⟨d, hd, heq⟩ := List.any_eq_true.mp hnew
      obtain ⟨a, ha, rfl⟩ := List.mem_map.mp hd
      exact .repeated h hdistinct hdecl hstate ⟨a, ha, beq_iff_eq.mp heq⟩
    | false =>
      simp only [hnew, Bool.false_eq_true, if_false] at hreads
      cases hbody : opensBody s next with
      | false =>
        refine .inl ⟨_, _, _, .state hdecl hstate hbody, fun a ha => ?_⟩
        rw [List.mem_singleton.mp ha]
        exact hnew
      | true =>
        simp only [hbody, if_true] at hreads
        cases hc : s.closer next with
        | ok close =>
          refine .inl ⟨_, _, _, .body hdecl hstate hbody hc, fun a ha => ?_⟩
          rw [List.mem_singleton.mp ha]
          exact hnew
        | error e =>
          refine .inr ⟨e, .body (.body h hdistinct hdecl (.inl ⟨hstate, ?_⟩) hbody hc), fun fuel => ?_⟩
          · exact fun a ha heq => List.any_eq_false.mp hnew _ (List.mem_map_of_mem ha) (beq_iff_eq.mpr heq)
          · rw [hreads, hc]
            rfl
  | false =>
    simp only [hstate, Bool.false_eq_true, if_false] at hreads
    cases hgroup : head.isGroup && opensBody s next with
    | false => exact .inl ⟨_, _, _, .other hdecl hstate hgroup, by simp⟩
    | true =>
      simp only [hgroup, if_true] at hreads
      cases hc : s.closer next with
      | ok close => exact .inl ⟨_, _, _, .group hdecl hstate hgroup hc, by simp⟩
      | error e =>
        have hboth := hgroup
        rw [Bool.and_eq_true] at hboth
        refine .inr ⟨e, .body (.body h hdistinct hdecl (.inr ⟨hstate, hboth.1⟩) hboth.2 hc), fun fuel => ?_⟩
        rw [hreads, hc]
        rfl

/-- Where tokens are left the scan makes a step, or the reader fails. -/
theorem Scan.progress (hs : s.Nested) (h : Scan s types i groups found)
    (hdistinct : DistinctIds groups found) (hi : i < s.size) :
    (∃ groups' found' k, Step s types i groups' found' k ∧ ∀ a ∈ found', Fresh groups found a) ∨
    ∃ e, Stopped s types e ∧ ∀ fuel,
      declsFrom s types (fuel + 1) i (stackAt groups i) (found.map (declOf groups)) = .error e := by
  obtain ⟨first, ht⟩ : ∃ t, s.get? i = some t := ⟨_, Stream.get?_of_lt hi⟩
  cases hhead : declHead? s i first with
  | none => exact .inl ⟨_, _, _, .pass ht hhead, by simp⟩
  | some head =>
    cases hread : s.supertypes head.next with
    | error e =>
      refine .inr ⟨e, .clause ht hhead hread, fun fuel => ?_⟩
      rw [declsFrom, ht]
      simp only [hhead, hread]
      rfl
    | ok x =>
      exact h.progress_of_declares hs hdistinct
        ⟨⟨first, ht, hhead⟩, (Stream.supertypes_eq_ok_iff hs).mp hread⟩

/-- The reader comes to the end of a scan whose states have ids of their own, or to what stops it. -/
theorem declsFrom_yields {fuel : Nat} (hs : s.Nested) (h : Scan s types i groups found)
    (hdistinct : DistinctIds groups found) (hfuel : s.size ≤ i + fuel) :
    Yields (Stopped s types) (declsFrom s types fuel i (stackAt groups i) (found.map (declOf groups)))
      fun decls => ∃ last groups found, Scan s types last groups found ∧ s.size ≤ last ∧
        DistinctIds groups found ∧ decls = found.map (declOf groups) := by
  induction fuel generalizing i groups found with
  | zero => exact ⟨i, groups, found, h, hfuel, hdistinct, rfl⟩
  | succ fuel ih =>
    by_cases hi : i < s.size
    · rcases h.progress hs hdistinct hi with ⟨groups', found', k, hstep, hfresh⟩ | ⟨e, he, hfails⟩
      · have hdistinct' := hdistinct.step hs h hstep hfresh
        have := (hstep.lt hs).2
        rw [declsFrom_of_step hs h hstep hdistinct']
        exact ih (h.step hstep) hdistinct' (by omega)
      · rw [hfails]
        exact he
    · rw [declsFrom, Stream.get?_eq_none (by omega)]
      exact ⟨i, groups, found, h, by omega, hdistinct, rfl⟩

end ActorDiagram.StateIndex
