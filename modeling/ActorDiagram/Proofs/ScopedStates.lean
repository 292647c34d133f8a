import Mathlib
import ActorDiagram.Proofs.ReadingStops
import ActorDiagram.Proofs.Tiling

/-!
# Declared states and their scopes

What the states of a text are: one for each declaration that the scan accepts, in order, under the names
of the groups around it. No case object of a state type is missed outside parentheses, brackets and the
bodies of states, and two states with one id are a failure at the second of them.
-/

namespace ActorDiagram

namespace Stream

variable {s : Stream} {i j p : Nat}

/-- At `p` a case object is declared that extends these types. -/
structure CaseObjectAt (s : Stream) (p : Nat) (supers : List String) : Prop where
  case : s.isWordAt p "case" = true
  object : s.isWordAt (p + 1) "object" = true
  isName : s.isNameAt (p + 2) = true
  clause : ∃ j, s.TypeClause (p + 3) supers j

/-- No parentheses and no square brackets enclose the place. -/
def Unenclosed (s : Stream) (p : Nat) : Prop :=
  ∀ o c, s.opensGroup o = true → s.closer o = .ok c → ¬ (o < p ∧ p < c)

lemma ne_of_opensGroup (h : s.opensGroup i = true) (hname : s.isNameAt j = true) : i ≠ j := by
  rw [opensGroup, Bool.or_eq_true] at h
  rcases h with h | h
  · exact StateIndex.ne_of_hasMark h hname
  · exact StateIndex.ne_of_hasMark h hname

lemma not_joins {word : String} (h : s.isWordAt i word = true) (hextends : word ≠ "extends")
    (hwith : word ≠ "with") : ¬ s.Joins i := by
  rintro (hjoins | hjoins | hjoins)
  · exact hextends (eq_of_isWordAt h hjoins)
  · exact hwith (eq_of_isWordAt h hjoins)
  · exact StateIndex.ne_of_hasMark hjoins (isNameAt_of_isWordAt h) rfl

lemma TypeClause.unique (hs : s.Nested) {names names' : List String} {k : Nat} (h : s.TypeClause i names j)
    (h' : s.TypeClause i names' k) : names = names' ∧ j = k := by
  rw [← supertypes_eq_ok_iff hs] at h h'
  rw [h] at h'
  cases h'
  exact ⟨rfl, rfl⟩

namespace CaseObjectAt

variable {supers : List String}

lemma le_of_typeClause (hs : s.Nested) (h : s.CaseObjectAt p supers) (hfree : s.Unenclosed p)
    {names : List String} (hclause : s.TypeClause i names j) (hi : i ≤ p + 1) : j ≤ p + 1 := by
  by_contra hlt
  rcases hclause.inClause hs hi (by omega) with
    ⟨o, c, hopens, hc, -, ho, hpc, -⟩ | hjoins | ⟨-, q, hq, hjoins⟩
  · have hne := ne_of_opensGroup hopens (isNameAt_of_isWordAt h.object)
    have hne' := ne_of_opensGroup hopens (isNameAt_of_isWordAt h.case)
    exact hfree o c hopens hc ⟨by omega, by omega⟩
  · exact not_joins h.object (by decide) (by decide) hjoins
  · obtain rfl : p = q := by omega
    exact not_joins h.case (by decide) (by decide) hjoins

lemma declHead? (h : s.CaseObjectAt p supers) (hi : i = p ∨ i = p + 1) : ∃ first head,
    s.get? i = some first ∧ StateIndex.declHead? s i first = some head ∧ head.next = p + 3 := by
  obtain ⟨t, ht, hcase⟩ := isWordAt_eq_true_iff.mp h.case
  obtain ⟨u, hu, hobject⟩ := isWordAt_eq_true_iff.mp h.object
  obtain ⟨name, hname, hident⟩ := isNameAt_eq_true_iff.mp h.isName
  have hof : u.isWordOf ["object", "class"] = true := by
    rw [Lexeme.isWord_eq_true] at hobject
    exact Lexeme.isWordOf_eq_true.mpr ⟨hobject.1, by rw [hobject.2]; decide⟩
  rcases hi with rfl | rfl
  · refine ⟨t, ⟨true, u.text == "object", name, i + 1 + 2⟩, ht, ?_, rfl⟩
    unfold StateIndex.declHead?
    simp only [hcase, if_true, hu, hname]
    rw [if_pos (by simp [hof, hident])]
  · have hno : u.isWord "case" = false := by
      rw [Bool.eq_false_iff, Ne, Lexeme.isWord_eq_true, (Lexeme.isWord_eq_true.mp hobject).2]
      exact fun hword => absurd hword.2 (by decide)
    have hclass : u.text ≠ "class" := by
      rw [(Lexeme.isWord_eq_true.mp hobject).2]
      decide
    refine ⟨u, ⟨false, u.text == "object", name, p + 1 + 2⟩, hu, ?_, rfl⟩
    unfold StateIndex.declHead?
    simp only [hno, Bool.false_eq_true, if_false, hu, hname]
    rw [if_pos (by simp [hof, hident, hclass])]

end CaseObjectAt

lemma before_of_lt {text : String} (h : ofText text = .ok s) {t u : Token} (ht : s.get? i = some t)
    (hu : s.get? j = some u) (hij : i < j) : t.start.Before u.start := by
  obtain ⟨ts, hts, rfl⟩ := map_eq_ok_iff.mp h
  have hstarts := Lexeme.starts_of_ofText hts
  rw [← lexemes_ofLexemes ts, lexemes, List.pairwise_map, List.pairwise_iff_getElem] at hstarts
  obtain ⟨hi, ht⟩ := Array.getElem?_eq_some_iff.mp ht
  obtain ⟨hj, hu⟩ := Array.getElem?_eq_some_iff.mp hu
  have hbefore := hstarts i j (by simpa using hi) (by simpa using hj) hij
  rw [Array.getElem_toList, Array.getElem_toList, ht, hu] at hbefore
  exact hbefore

end Stream

namespace StateIndex

variable {s : Stream} {types : Option (List String)} {names supers : List String} {i k p : Nat}
  {groups groups' : List Opened} {found found' : List Accepted}

/-! ### No case object is missed -/

/-- The place is not in the body of the state. -/
def OutsideBody (a : Accepted) (p : Nat) : Prop := ∀ o c, a.body = some (o, c) → ¬ (o < p ∧ p < c)

lemma Step.accepts (hs : s.Nested) (h : Step s (some names) i groups found k)
    (hcase : s.CaseObjectAt p supers)
    (htype : ∃ name ∈ supers, name ∈ names) (hi : i = p ∨ i = p + 1) : ∃ a ∈ found, a.place = p + 2 := by
  obtain ⟨first, head, ht, hhead, hnext⟩ := hcase.declHead? hi
  obtain ⟨j, hclause⟩ := hcase.clause
  have hread : ∀ {head' supers' next}, Declares s i head' supers' next →
      head'.next = p + 3 ∧ declaresState (some names) head' supers' = true := by
    intro head' supers' next hdecl
    obtain ⟨first', ht', hhead'⟩ := hdecl.starts
    rw [ht] at ht'
    cases ht'
    rw [hhead] at hhead'
    cases hhead'
    obtain ⟨rfl, -⟩ := (hnext ▸ hclause : s.TypeClause head.next supers j).unique hs hdecl.clause
    obtain ⟨name, hsuper, hname⟩ := htype
    exact ⟨hnext, List.any_eq_true.mpr ⟨name, hname, List.contains_iff_mem.mpr hsuper⟩⟩
  cases h with
  | pass ht' hhead' =>
    rw [ht] at ht'
    cases ht'
    rw [hhead] at hhead'
    cases hhead'
  | other hdecl hstate | group hdecl hstate =>
    rw [(hread hdecl).2] at hstate
    cases hstate
  | state hdecl | body hdecl =>
    refine ⟨_, List.mem_singleton_self _, ?_⟩
    simp only [(hread hdecl).1]
    omega

lemma Declares.le_of_caseObject (hs : s.Nested) {head : DeclHead} {supers' : List String} {next : Nat}
    (h : Declares s i head supers' next) (hcase : s.CaseObjectAt p supers) (hfree : s.Unenclosed p)
    (hi : i < p) : next ≤ p + 1 := by
  refine hcase.le_of_typeClause hs hfree h.clause ?_
  obtain ⟨first, ht, hhead⟩ := h.starts
  obtain ⟨k, keyword, hk, -, -, hkeyword, hof, -, -, hnext⟩ := words_of_declHead? hhead
  by_contra hlt
  obtain rfl : k = p := by omega
  obtain ⟨t, ht', hword⟩ := Stream.isWordAt_eq_true_iff.mp hcase.case
  rw [hkeyword] at ht'
  cases ht'
  rw [Lexeme.isWordOf_eq_true, (Lexeme.isWord_eq_true.mp hword).2] at hof
  simp at hof

/-- A scan behind a case object of a state type has accepted it. -/
theorem Scan.accepts (hs : s.Nested) (h : Scan s (some names) i groups found)
    (hcase : s.CaseObjectAt p supers) (htype : ∃ name ∈ supers, name ∈ names) (hfree : s.Unenclosed p)
    (hbody : ∀ a ∈ found, OutsideBody a p) (hp : p + 1 < i) :
    ∃ a ∈ found, a.place = p + 2 := by
  induction h with
  | start => omega
  | @step i k _ groups' _ found' hscan hstep ih =>
    rcases Nat.lt_or_ge (p + 1) i with hlt | hge
    · obtain ⟨a, ha, hplace⟩ := ih (fun a ha => hbody a (List.mem_append_left _ ha)) hlt
      exact ⟨a, List.mem_append_left _ ha, hplace⟩
    · rcases Nat.lt_or_ge i p with hip | hip
      · -- a step from before the case object ends before its name
        exfalso
        have hnext : ∀ {head supers' next}, Declares s i head supers' next → next ≤ p + 1 :=
          fun hdecl => hdecl.le_of_caseObject hs hcase hfree hip
        cases hstep with
        | pass => omega
        | other hdecl | group hdecl | state hdecl =>
          have := hnext hdecl
          omega
        | body hdecl hstate hopens hc =>
          have := hnext hdecl
          have hne := ne_of_hasMark hopens (Stream.isNameAt_of_isWordAt hcase.object)
          have hne' := ne_of_hasMark hopens (Stream.isNameAt_of_isWordAt hcase.case)
          have hne'' := Stream.ne_closer_of_isNameAt hs hc (Stream.isNameAt_of_isWordAt hcase.object)
          exact hbody _ (List.mem_append_right _ (List.mem_singleton_self _)) _ _ rfl ⟨by omega, by omega⟩
      · obtain ⟨a, ha, hplace⟩ := hstep.accepts hs hcase htype (by omega)
        exact ⟨a, List.mem_append_right _ ha, hplace⟩

/-! ### States of a text -/

/-- A scan through the whole stream opens these groups and accepts these states. -/
def Scanned (s : Stream) (types : Option (List String)) (groups : List Opened)
    (found : List Accepted) : Prop :=
  ∃ last, Scan s types last groups found ∧ s.size ≤ last

/-- What is known of a declared state: its name is a token of the stream and gives its place, the names of
the groups around it give its scope, outermost first, and both give its id. -/
structure DeclaredBy (s : Stream) (groups : List Opened) (d : DeclaredState) (a : Accepted) : Prop where
  token : s.get? a.place = some a.name
  name : d.name = a.name.text
  line : d.line = a.name.line
  column : d.column = a.name.column
  scope : d.scope =
    if (enclosing groups a.start).map (·.name) = [] ∨ (enclosing groups a.start).map (·.name) = [""]
    then none else some (".".intercalate ((enclosing groups a.start).map (·.name)))
  id : d.id = match d.scope with
    | none => d.name
    | some path => path ++ "." ++ d.name
  body : ∀ o c, a.body = some (o, c) → s.hasMark o leftBrace = true ∧ s.closer o = .ok c ∧ a.place < o

/-- What the states of a text are, by the groups that the scan opens and the declarations that it
accepts. -/
structure Extracted (s : Stream) (types : Option (List String)) (groups : List Opened)
    (found : List Accepted) (states : StateIndex) : Prop where
  ids_nodup : states.ids.Nodup
  ordered : states.decls.Pairwise fun d e => d.line < e.line ∨ d.line = e.line ∧ d.column < e.column
  declared : List.Forall₂ (DeclaredBy s groups) states.decls found
  braces : ∀ g ∈ groups, s.hasMark g.start leftBrace = true ∧ s.closer g.start = .ok g.close
  outermost : ∀ i, (enclosing groups i).Pairwise fun g g' => g.start < g'.start ∧ g'.close < g.close
  outside : ∀ a ∈ found, ∀ b ∈ found, OutsideBody a b.start
  complete : ∀ names, types = some names → ∀ p supers, s.CaseObjectAt p supers →
    (∃ name ∈ supers, name ∈ names) → s.Unenclosed p →
    (∀ a ∈ found, OutsideBody a p) → ∃ a ∈ found, a.place = p + 2

lemma qualify_eq (scope : Option String) (name : String) : scope ≠ some "" →
    qualify scope name = match scope with
      | none => name
      | some path => path ++ "." ++ name := by
  intro h
  cases scope with
  | none => rfl
  | some path =>
    refine if_neg fun hempty => h ?_
    rw [String.isEmpty_iff] at hempty
    rw [hempty]

lemma scopeAt_ne (groups : List Opened) (i : Nat) : scopeAt groups i ≠ some "" := by
  intro h
  unfold scopeAt at h
  simp only at h
  split_ifs at h with hpath
  · rw [← intercalate_isEmpty_iff, String.isEmpty_iff] at hpath
    exact hpath (Option.some.inj h)

lemma Scan.outermost (hs : s.Nested) (h : Scan s types i groups found) (p : Nat) :
    (enclosing groups p).Pairwise fun g g' => g.start < g'.start ∧ g'.close < g.close := by
  unfold enclosing
  refine ((h.groups_pairwise hs).filter _).imp_of_mem fun {g g'} hg hg' hlt => ⟨hlt, ?_⟩
  simp only [List.mem_filter, Bool.and_eq_true, decide_eq_true_eq] at hg hg'
  obtain ⟨-, -, hc⟩ := h.opened hs g hg.1
  obtain ⟨-, -, hc'⟩ := h.opened hs g' hg'.1
  exact hs.closer_lt_closer hc hlt (by omega) hc'

lemma Scan.declaredBy (hs : s.Nested) (h : Scan s types i groups found) {a : Accepted} (ha : a ∈ found) :
    DeclaredBy s groups (declOf groups a) a := by
  obtain ⟨-, -, -, -, hget, hbody⟩ := h.accepted hs a ha
  exact
    { token := hget
      name := rfl
      line := rfl
      column := rfl
      scope := rfl
      id := qualify_eq _ _ (scopeAt_ne groups a.start)
      body := fun o c hoc => ⟨(hbody o c hoc).1, (hbody o c hoc).2.1, (hbody o c hoc).2.2.1⟩ }

/-- No accepted state lies in the body of another, or in its own. -/
lemma Scan.outside (hs : s.Nested) (h : Scan s types i groups found) :
    ∀ a ∈ found, ∀ b ∈ found, OutsideBody a b.start := by
  have hbefore : ∀ a ∈ found, ∀ p, p ≤ a.start → OutsideBody a p := by
    intro a ha p hp o c hoc
    obtain ⟨hlt, -, -, -, -, hbody⟩ := h.accepted hs a ha
    obtain ⟨-, -, ho, -⟩ := hbody o c hoc
    omega
  have hlater : found.Pairwise fun a b => OutsideBody a b.start := by
    refine (h.found_pairwise hs).imp fun {a b} hab o c hoc => ?_
    have := hab.2 o c hoc
    omega
  have hearlier : found.Pairwise (flip fun a b => OutsideBody a b.start) := by
    refine (h.found_pairwise hs).imp_of_mem fun {a b} ha hb hab => ?_
    have := (h.accepted hs a ha).1
    exact hbefore b hb _ (by omega)
  exact hlater.forall_of_forall_of_flip (fun a ha => hbefore a ha _ (le_refl _)) hearlier

lemma Scan.ordered {text : String} (h : Stream.ofText text = .ok s) (hs : s.Nested)
    (hscan : Scan s types i groups found) : (found.map (declOf groups)).Pairwise
      fun d e => d.line < e.line ∨ d.line = e.line ∧ d.column < e.column := by
  rw [List.pairwise_map]
  refine (hscan.found_pairwise hs).imp_of_mem fun {a b} ha hb hab => ?_
  obtain ⟨-, -, -, -, hget, -⟩ := hscan.accepted hs a ha
  obtain ⟨hlt, -, -, -, hget', -⟩ := hscan.accepted hs b hb
  exact (Stream.before_of_lt h hget hget' (hab.1.trans hlt)).2

/-- The states of a text are those that a scan accepts. They are all there are, each in its scope and at
its place, and a failure for an id that two states have is reported where the id is repeated. -/
theorem ofStream_scans {text : String} (h : Stream.ofText text = .ok s) :
    (∀ states, ofStream s = .ok states → ∃ types groups found, StateTypes.ofStream s = .ok types ∧
      Scanned s types groups found ∧ Extracted s types groups found states) ∧
    ∀ id line column, ofStream s = .error (.source (.duplicateState id) line column) ↔
      ∃ types, StateTypes.ofStream s = .ok types ∧
        Repeats s types (.source (.duplicateState id) line column) := by
  have hs : s.Nested := by
    obtain ⟨ts, -, rfl⟩ := map_eq_ok_iff.mp h
    exact Stream.nested_ofLexemes ts
  refine ⟨fun states hstates => ?_, ofStream_eq_duplicate_iff hs⟩
  obtain ⟨types, htypes, hstates⟩ := bind_eq_ok_iff.mp hstates
  obtain ⟨decls, hdecls, hstates⟩ := bind_eq_ok_iff.mp hstates
  cases hstates
  have hread := declsFrom_of_start hs types
  rw [hdecls] at hread
  obtain ⟨last, groups, found, hscan, hlast, hdistinct, rfl⟩ := hread
  refine ⟨types, groups, found, htypes, ⟨last, hscan, hlast⟩, ?_⟩
  exact
    { ids_nodup := hdistinct
      ordered := hscan.ordered h hs
      declared := by
        rw [List.forall₂_map_left_iff, List.forall₂_same]
        exact fun a ha => hscan.declaredBy hs ha
      braces := fun g hg => (hscan.opened hs g hg).2
      outermost := hscan.outermost hs
      outside := hscan.outside hs
      complete := by
        rintro names rfl p supers hcase htype hfree hbody
        obtain ⟨t, ht, -⟩ := Stream.isNameAt_eq_true_iff.mp hcase.isName
        have := Stream.lt_of_get? ht
        exact hscan.accepts hs hcase htype hfree hbody (by omega) }

/-- Groups in a group, a state with a body that speaks of another, and one name in two scopes. -/
def nestedScopes : String :=
  "object Outer\x7bobject Inner\x7bcase object A extends S\x7bcase object X extends S\x7d\x7d\n" ++
    "case object B extends S\x7dclass M extends FSM[S,D]\ncase object A extends S"

/-- The states of these scopes. -/
def nestedStates : StateIndex :=
  ⟨[⟨some "Outer.Inner", "A", "Outer.Inner.A", 1, 39⟩, ⟨some "Outer", "B", "Outer.B", 2, 13⟩,
    ⟨none, "A", "A", 3, 13⟩]⟩

theorem ofStream_scans_nestedScopes : ∃ s types groups found, Stream.ofText nestedScopes = .ok s ∧
    ofStream s = .ok nestedStates ∧ Scanned s types groups found ∧
      Extracted s types groups found nestedStates := by
  have hrun : (Stream.ofText nestedScopes).map ofStream = .ok (.ok nestedStates) := by decide +kernel
  obtain ⟨s, h, hstates⟩ := map_eq_ok_iff.mp hrun
  obtain ⟨types, groups, found, -, hscanned, hextracted⟩ := (ofStream_scans h).1 _ hstates
  exact ⟨s, types, groups, found, h, hstates, hscanned, hextracted⟩

/-- A group whose name is two back quotes. -/
def unnamedGroup : String := "object `` \x7b case object A \x7d"

set_option synthInstance.maxSize 2000 in
lemma unnamedGroup_run : (Stream.ofText unnamedGroup).map (fun s => (s.size,
    ((s.get? 0).bind (declHead? s 0), (s.get? 2).map (declHead? s 2), (s.get? 3).bind (declHead? s 3),
      (s.get? 6).map (declHead? s 6)),
    (s.supertypes 2, s.supertypes 6, s.closer 2, opensBody s 2, opensBody s 6),
    StateTypes.ofStream s, ofStream s)) =
    .ok (7,
      (some ⟨false, true, ⟨⟨.identifier, "", ⟨7, 1, 8⟩⟩, 0⟩, 2⟩, some none,
        some ⟨true, true, ⟨⟨.identifier, "A", ⟨24, 1, 25⟩⟩, 1⟩, 6⟩, some none),
      (.ok ([], 2), .ok ([], 6), .ok 6, true, false),
      .ok none, .ok ⟨[⟨none, "A", "A", 1, 25⟩]⟩) := by decide +kernel

/-- A group without letters in its name encloses a state, and the state has no scope. -/
theorem scope_in_unnamedGroup : ∃ s groups a, Stream.ofText unnamedGroup = .ok s ∧
    StateTypes.ofStream s = .ok none ∧ Scanned s none groups [a] ∧
      (enclosing groups a.start).map (·.name) = [""] ∧
        ofStream s = .ok ⟨[⟨none, a.name.text, a.name.text, a.name.line, a.name.column⟩]⟩ := by
  obtain ⟨s, h, hrun⟩ := map_eq_ok_iff.mp unnamedGroup_run
  simp only [Prod.mk.injEq, Option.bind_eq_some_iff, Option.map_eq_some_iff] at hrun
  obtain ⟨hsize, ⟨⟨t₀, ht₀, hhead₀⟩, ⟨t₂, ht₂, hhead₂⟩, ⟨t₃, ht₃, hhead₃⟩, t₆, ht₆, hhead₆⟩,
    ⟨hsupers₂, hsupers₆, hclose, hopens₂, hopens₆⟩, htypes, hstates⟩ := hrun
  have hs : s.Nested := by
    obtain ⟨ts, -, rfl⟩ := map_eq_ok_iff.mp h
    exact Stream.nested_ofLexemes ts
  have hgroup : Declares s 0 _ [] 2 := ⟨⟨t₀, ht₀, hhead₀⟩, (Stream.supertypes_eq_ok_iff hs).mp hsupers₂⟩
  have hstate : Declares s 3 _ [] 6 := ⟨⟨t₃, ht₃, hhead₃⟩, (Stream.supertypes_eq_ok_iff hs).mp hsupers₆⟩
  have hscan : Scan s none 7 _ _ :=
    (((Scan.start.step (.group hgroup rfl (by rw [hopens₂]; rfl) hclose)).step
    (.pass ht₂ hhead₂)).step (.state hstate rfl hopens₆)).step (.pass ht₆ hhead₆)
  exact ⟨s, _, _, h, htypes, ⟨7, hscan, hsize.le⟩, rfl, hstates⟩

end StateIndex

end ActorDiagram
