import Mathlib
import ActorDiagram.Proofs.FunctionExtent
import ActorDiagram.Proofs.Lockstep
import ActorDiagram.Proofs.Unplaced

/-!
# Scans in lockstep

Declarations, the heads of transition blocks and those of functions are found alike in two streams in
lockstep.
-/

namespace ActorDiagram

/-! ### Declarations -/

namespace StateIndex

/-- Groups of one name whose bodies end at corresponding places. -/
abbrev GroupsAlike (R : Nat → Nat → Prop) : List Group → List Group → Prop :=
  List.Forall₂ fun g g' => g.name = g'.name ∧ R g.close g'.close

/-- States of one name and scope, wherever they are declared. -/
abbrev DeclsAlike (decls decls' : List DeclaredState) : Prop :=
  decls.map DeclaredState.unplaced = decls'.map DeclaredState.unplaced

/-- Heads of corresponding declarations. -/
structure DeclHead.Alike (σ : Likeness) (R : Nat → Nat → Prop) (d d' : DeclHead) : Prop where
  isCase : d.isCase = d'.isCase
  isObject : d.isObject = d'.isObject
  name : d.name.Alike σ 0 0 d'.name
  isIdentifier : d.name.isIdentifier = true
  next : R d.next d'.next

lemma opensBody_eq_any (s : Stream) (i : Nat) :
    opensBody s i = (s.get? i).any (·.isMark leftBrace) := by
  unfold opensBody
  cases s.get? i <;> rfl

lemma declsFrom_of_none {s : Stream} {types : Option (List String)} {fuel i : Nat}
    (hi : s.get? i = none) (groups : List Group) (decls : List DeclaredState) :
    declsFrom s types fuel i groups decls = .ok decls := by
  cases fuel with
  | zero => rfl
  | succ fuel => rw [declsFrom, hi]

lemma DeclHead.Alike.declaresState {σ : Likeness} {R : Nat → Nat → Prop} {d d' : DeclHead}
    (h : d.Alike σ R d') (types : Option (List String)) (supers : List String) :
    StateIndex.declaresState types d supers = StateIndex.declaresState types d' supers := by
  unfold StateIndex.declaresState
  rw [h.isCase, h.isObject]

lemma unplaced_declIn {R : Nat → Nat → Prop} {groups groups' : List Group}
    (hgroups : GroupsAlike R groups groups') {name name' : Token} (hname : name.text = name'.text) :
    (declIn groups name).unplaced = (declIn groups' name').unplaced := by
  have hscope : scopeOf groups = scopeOf groups' := by
    unfold scopeOf
    rw [List.map_reverse, List.map_reverse, map_eq_of_forall₂ hgroups fun _ _ hg => hg.1]
  unfold declIn DeclaredState.unplaced
  rw [hscope, hname]

lemma DeclsAlike.concat {decls decls' : List DeclaredState} (h : DeclsAlike decls decls')
    {d d' : DeclaredState} (hd : d.unplaced = d'.unplaced) :
    DeclsAlike (decls ++ [d]) (decls' ++ [d']) := by
  unfold DeclsAlike
  rw [List.map_append, List.map_append, h, List.map_singleton, List.map_singleton, hd]

lemma any_id_eq {decls decls' : List DeclaredState} (h : DeclsAlike decls decls') (id : String) :
    decls.any (·.id == id) = decls'.any (·.id == id) := by
  have hany : ∀ l : List DeclaredState, l.any (·.id == id) =
      (l.map DeclaredState.unplaced).any (·.id == id) := by
    intro l
    rw [List.any_map]
    rfl
  rw [hany, hany decls', h]

end StateIndex

namespace Stream.Lockstep

open StateIndex

variable {σ : Likeness} {R : Nat → Nat → Prop} {s s' : Stream} {i j : Nat}

lemma opensBody (h : Lockstep σ R s s') (hij : R i j) :
    StateIndex.opensBody s i = StateIndex.opensBody s' j := by
  rw [opensBody_eq_any, opensBody_eq_any]
  exact h.any_get? hij fun _ _ halike => halike.isMark leftBrace

lemma groups_dropWhile (h : Lockstep σ R s s') (hij : R i j) {groups groups' : List Group}
    (hgroups : GroupsAlike R groups groups') :
    GroupsAlike R (groups.dropWhile (·.close < i)) (groups'.dropWhile (·.close < j)) := by
  induction hgroups with
  | nil => exact .nil
  | @cons g g' _ _ hg hrest ih =>
    have hlt : decide (g.close < i) = decide (g'.close < j) :=
      decide_eq_decide.mpr (h.inOrder _ _ _ _ hg.2 hij)
    rw [List.dropWhile_cons, List.dropWhile_cons, hlt]
    split_ifs
    · exact ih
    · exact .cons hg hrest

lemma afterCase (h : Lockstep σ R s s') (hij : R i j) {t : Token} (ht : s.get? i = some t) :
    R (if t.isWord "case" then i + 1 else i) (if t.isWord "case" then j + 1 else j) := by
  by_cases hcase : t.isWord "case" = true
  · rw [if_pos hcase, if_pos hcase]
    exact h.next_of_isWord hij ht hcase
  · rw [if_neg hcase, if_neg hcase]
    exact hij

lemma declHead? (h : Lockstep σ R s s') (hij : R i j) {t t' : Token} (ht : s.get? i = some t)
    (halike : t.Alike σ 0 0 t') :
    Option.Rel (fun d d' => d.Alike σ R d' ∧ i < d.next) (StateIndex.declHead? s i t)
      (StateIndex.declHead? s' j t') := by
  have hk := h.afterCase hij ht
  have hle : i ≤ (if t.isWord "case" then i + 1 else i) := by
    split_ifs <;> omega
  unfold StateIndex.declHead?
  rw [← halike.isWord]
  simp only
  generalize (if t.isWord "case" then i + 1 else i) = k at hk hle ⊢
  generalize (if t.isWord "case" then j + 1 else j) = l at hk ⊢
  rcases h.get_cases hk with ⟨hi, hj⟩ | ⟨keyword, keyword', hw, hw', hkeyword⟩
  · rw [hi, hj]
    exact .none
  · rw [hw, hw']
    by_cases hdecl : keyword.isWordOf ["object", "class"] = true
    · have hk' := h.next_of_isWordOf hk hw hdecl
      rcases h.get_cases hk' with ⟨hi, hj⟩ | ⟨name, name', hn, hn', hname⟩
      · rw [hi, hj]
        exact .none
      · rw [hn, hn']
        simp only [← hkeyword.isWordOf, ← hname.isIdentifier,
          ← hkeyword.text_of_isIdentifier (Lexeme.isIdentifier_of_isWordOf hdecl)]
        split_ifs with hhead
        · simp only [Bool.and_eq_true] at hhead
          refine .some ⟨⟨rfl, rfl, hname, hhead.1.2, ?_⟩, by simp only; omega⟩
          exact h.next_of_isIdentifier hk' hn hhead.1.2
        · exact .none
    · have hdecl' : ¬ keyword'.isWordOf ["object", "class"] = true := by
        rwa [← hkeyword.isWordOf]
      cases s.get? (k + 1) <;> cases s'.get? (l + 1) <;> simp [hdecl, hdecl']

/-- Declarations are read alike, if they are from the other side of an arrow that the streams differ
after. -/
theorem declsFrom (h : Lockstep σ R s s') {types types' : Option (List String)}
    (htypes : ∀ head supers, declaresState types head supers = declaresState types' head supers)
    {fuel fuel' : Nat} (hij : R i j) (hfuel : s.size ≤ fuel + i) (hfuel' : s'.size ≤ fuel' + j)
    {groups groups' : List Group} (hgroups : GroupsAlike R groups groups')
    {decls decls' : List DeclaredState} (hdecls : DeclsAlike decls decls')
    (hcross : ∀ k l groups groups' decls decls' fuel fuel', R k l → ¬ R (k + 1) (l + 1) → i ≤ k →
      GroupsAlike R groups groups' → DeclsAlike decls decls' → s.size ≤ fuel + (k + 1) →
      s'.size ≤ fuel' + (l + 1) →
      σ.Agree DeclsAlike (StateIndex.declsFrom s types fuel (k + 1) groups decls)
        (StateIndex.declsFrom s' types' fuel' (l + 1) groups' decls')) :
    σ.Agree DeclsAlike (StateIndex.declsFrom s types fuel i groups decls)
      (StateIndex.declsFrom s' types' fuel' j groups' decls') := by
  induction fuel generalizing fuel' i j groups groups' decls decls' with
  | zero =>
    have hi : s.get? i = none := get?_eq_none (by omega)
    rw [declsFrom_of_none hi, declsFrom_of_none (h.get_none hij hi)]
    exact hdecls
  | succ fuel ih =>
    rcases h.get_cases hij with ⟨hi, hj⟩ | ⟨t, t', ht, ht', halike⟩
    · rw [declsFrom_of_none hi, declsFrom_of_none hj]
      exact hdecls
    · obtain ⟨fuel', rfl⟩ := exists_fuel ht' hfuel'
      have hgroups := h.groups_dropWhile hij hgroups
      -- Reading goes on at a later place that corresponds to one of the other stream.
      have hnext : ∀ {k l groups groups' decls decls'}, R k l → i < k →
          GroupsAlike R groups groups' → DeclsAlike decls decls' →
          σ.Agree DeclsAlike (StateIndex.declsFrom s types fuel k groups decls)
            (StateIndex.declsFrom s' types' fuel' l groups' decls') := by
        intro k l groups groups' decls decls' hkl hik hgroups hdecls
        have hjl : j < l := (h.inOrder _ _ _ _ hij hkl).mp hik
        refine ih hkl (by omega) (by omega) hgroups hdecls ?_
        intro a b _ _ _ _ _ _ hab hno hle
        exact hcross a b _ _ _ _ _ _ hab hno (by omega)
      rw [StateIndex.declsFrom, StateIndex.declsFrom, ht, ht']
      simp only
      have hhead := h.declHead? hij ht halike
      cases hd : StateIndex.declHead? s i t with
      | none =>
        rw [hd] at hhead
        rw [eq_none_of_rel_none hhead]
        simp only
        by_cases hstep : R (i + 1) (j + 1)
        · exact hnext hstep (by omega) hgroups hdecls
        · exact hcross i j _ _ _ _ _ _ hij hstep (le_refl i) hgroups hdecls (by omega) (by omega)
      | some head =>
        rw [hd] at hhead
        obtain ⟨head', hd', hhead, hlt⟩ := exists_of_rel_some hhead
        have hname := hhead.name.text_of_isIdentifier hhead.isIdentifier
        rw [hd']
        simp only
        apply Agree.bind (h.supertypes hhead.next)
        rintro ⟨supers, k⟩ ⟨_, l⟩ ⟨rfl, hkl, hle⟩
        simp only at hkl hle ⊢
        have hdecl := unplaced_declIn hgroups hname
        have hid := congrArg DeclaredState.id hdecl
        simp only [DeclaredState.unplaced] at hid
        rw [← htypes, ← hhead.declaresState, ← h.opensBody hkl, ← hhead.isCase, ← hhead.isObject,
          ← hid, ← any_id_eq hdecls]
        split_ifs
        · exact .source _ hhead.name.place
        · apply Agree.bind (h.closer hkl)
          rintro c c' ⟨-, hc, hkc, -⟩
          exact hnext hc (by omega) hgroups (hdecls.concat hdecl)
        · exact hnext hkl (by omega) hgroups (hdecls.concat hdecl)
        · apply Agree.bind (h.closer hkl)
          rintro c c' ⟨hc, -, -, -⟩
          exact hnext hkl (by omega) (.cons ⟨hname, hc⟩ hgroups) hdecls
        · exact hnext hkl (by omega) hgroups hdecls

end Stream.Lockstep

/-! ### Heads of blocks -/

/-- Heads of corresponding blocks of one state. -/
structure Blocks.BlockHead.Alike (s : Stream) (R : Nat → Nat → Prop) (d d' : Blocks.BlockHead) :
    Prop where
  ref : d.ref = d'.ref
  source : d.source = d'.source
  brace : R d.brace d'.brace
  isBrace : s.hasMark d.brace leftBrace = true

lemma Blocks.blockHead?_of_not_when {s : Stream} {states : StateIndex} {i : Nat} {t : Token}
    (ht : s.get? i = some t) (hno : (t.isWord "when" && s.hasMark (i + 1) "(") = false) :
    Blocks.blockHead? s states i = .ok none := by
  unfold Blocks.blockHead?
  rw [Stream.token_eq_ok_iff.mpr ht]
  simp only [Bind.bind, Except.bind, hno, Bool.false_and]
  cases s.get? (i + 2) <;> rfl

namespace Stream.Lockstep

variable {σ : Likeness} {R : Nat → Nat → Prop} {s s' : Stream} {states states' : StateIndex}
  {i j : Nat}

lemma braceAfter? (h : Lockstep σ R s s') (hij : R (i + 1) (j + 1)) :
    Option.Rel (fun k l => R k l ∧ s.hasMark k leftBrace = true) (Blocks.braceAfter? s i)
      (Blocks.braceAfter? s' j) := by
  unfold Blocks.braceAfter?
  rw [← h.hasMark hij, ← h.hasMark hij]
  by_cases hbrace : s.hasMark (i + 1) leftBrace = true
  · rw [if_pos hbrace, if_pos hbrace]
    exact .some ⟨hij, hbrace⟩
  · rw [if_neg hbrace, if_neg hbrace]
    by_cases hparen : s.hasMark (i + 1) "(" = true
    · have hnext := h.next_of_hasMark hij hparen
      rw [← h.hasMark hnext]
      split_ifs with hboth
      · rw [Bool.and_eq_true] at hboth
        exact .some ⟨hnext, hboth.2⟩
      · exact .none
    · rw [if_neg (by simp [hparen]), if_neg (by simp [hparen])]
      exact .none

lemma startsBlock (h : Lockstep σ R s s') (hij : R i j) {t t' : Token} (ht : s.get? i = some t)
    (halike : t.Alike σ 0 0 t') : (t.isWord "when" && s.hasMark (i + 1) "(") =
      (t'.isWord "when" && s'.hasMark (j + 1) "(") := by
  rw [← halike.isWord]
  by_cases hwhen : t.isWord "when" = true
  · rw [h.hasMark (h.next_of_isWord hij ht hwhen)]
  · rw [Bool.not_eq_true] at hwhen
    rw [hwhen, Bool.false_and, Bool.false_and]

/-- Heads of blocks are found alike. -/
theorem blockHead? (h : Lockstep σ R s s') (hstates : states.unplaced = states'.unplaced)
    (hij : R i j) :
    σ.Agree (Option.Rel (Blocks.BlockHead.Alike s R)) (Blocks.blockHead? s states i)
      (Blocks.blockHead? s' states' j) := by
  rcases h.get_cases hij with ⟨hi, hj⟩ | ⟨t, t', ht, ht', halike⟩
  · unfold Blocks.blockHead? Stream.token
    rw [hi, hj]
    exact .noToken
  have hstarts := h.startsBlock hij ht halike
  by_cases hwhen : (t.isWord "when" && s.hasMark (i + 1) "(") = true
  · have hwhen' : (t'.isWord "when" && s'.hasMark (j + 1) "(") = true := by rwa [← hstarts]
    have h₁ := h.next_of_isWord hij ht (Bool.and_eq_true_iff.mp hwhen).1
    have h₂ := h.next_of_hasMark h₁ (Bool.and_eq_true_iff.mp hwhen).2
    unfold Blocks.blockHead?
    rw [token_eq_ok_iff.mpr ht, token_eq_ok_iff.mpr ht']
    simp only [Bind.bind, Except.bind]
    rcases h.get_cases h₂ with ⟨hi, hj⟩ | ⟨first, first', hf, hf', hfirst⟩
    · rw [hi, hj]
      exact .none
    · rw [hf, hf']
      simp only [hwhen, hwhen', ← hfirst.isIdentifier, Bool.true_and]
      by_cases hident : first.isIdentifier = true
      · rw [if_pos hident, if_pos hident]
        apply Agree.bind (h.closer h₁)
        rintro c c' ⟨-, hc, -, -⟩
        apply Agree.bind (h.dotted h₂ hf hident)
        rintro ⟨ref, next⟩ ⟨_, next'⟩ ⟨rfl, -, -⟩
        have hbrace := h.braceAfter? hc
        cases hb : Blocks.braceAfter? s c with
        | none =>
          rw [hb] at hbrace
          rw [eq_none_of_rel_none hbrace]
          exact .none
        | some brace =>
          rw [hb] at hbrace
          obtain ⟨brace', hb', hbb, hmark⟩ := exists_of_rel_some hbrace
          rw [hb']
          apply Agree.bind (StateIndex.lookup_agree hstates ref hfirst.place)
          rintro resolved _ rfl
          exact .some ⟨rfl, rfl, hbb, hmark⟩
      · rw [if_neg hident, if_neg hident]
        exact .none
  · rw [Bool.not_eq_true] at hwhen
    rw [Blocks.blockHead?_of_not_when ht hwhen, Blocks.blockHead?_of_not_when ht' (by rwa [← hstarts])]
    exact .none

end Stream.Lockstep

/-! ### Heads of functions -/

/-- Ends of heads at corresponding places. -/
inductive Helper.HeadEnd.Alike (R : Nat → Nat → Prop) : Helper.HeadEnd → Helper.HeadEnd → Prop
  | braces {k l : Nat} (h : R k l) (hnext : R (k + 1) (l + 1)) : Alike R (.braces k) (.braces l)
  | equals {k l : Nat} (h : R k l) (hnext : R (k + 1) (l + 1)) : Alike R (.equals k) (.equals l)
  | missing : Alike R .missing .missing

/-- Ranges of bodies at corresponding places. -/
structure Helper.BodyAlike (R : Nat → Nat → Prop) (s : Stream) (p q : Nat × Nat) : Prop where
  before : ∃ k l, R k l ∧ p.1 = k + 1 ∧ q.1 = l + 1
  start : R p.1 q.1
  stop : R p.2 q.2
  le_size : p.2 ≤ s.size

namespace Stream.Lockstep

open Helper

variable {σ : Likeness} {R : Nat → Nat → Prop} {s s' : Stream} {i j : Nat}

lemma nameAt? (h : Lockstep σ R s s') (hij : R i j) :
    Option.Rel (fun t t' => t.Alike σ 0 0 t' ∧ t.isIdentifier = true ∧ R (i + 2) (j + 2))
      (Helper.nameAt? s i) (Helper.nameAt? s' j) := by
  unfold Helper.nameAt?
  rcases h.get_cases hij with ⟨hi, hj⟩ | ⟨word, word', hw, hw', hword⟩
  · rw [hi, hj]
    exact .none
  · rw [hw, hw']
    by_cases hdef : word.isWord "def" = true
    · have hnext := h.next_of_isWord hij hw hdef
      rcases h.get_cases hnext with ⟨hi, hj⟩ | ⟨name, name', hn, hn', hname⟩
      · rw [hi, hj]
        exact .none
      · rw [hn, hn']
        simp only [← hword.isWord, ← hname.isIdentifier, hdef, Bool.true_and]
        split_ifs with hident
        · exact .some ⟨hname, hident, h.next_of_isIdentifier hnext hn hident⟩
        · exact .none
    · have hdef' : ¬ word'.isWord "def" = true := by rwa [← hword.isWord]
      cases s.get? (i + 1) <;> cases s'.get? (j + 1) <;> simp [hdef, hdef']

lemma endsAt {t t' : Token} (halike : t.Alike σ 0 0 t') (depth : Nat) :
    Helper.endsAt depth t = Helper.endsAt depth t' := by
  have hd : t.depth = t'.depth := by simpa using halike.depth
  unfold Helper.endsAt
  rw [hd, halike.isWordOf]

/-- The end of a head is found alike, or the head goes past an arrow that the streams differ
after. -/
theorem headEndFrom (h : Lockstep σ R s s') (depth : Nat) {fuel fuel' : Nat} (hij : R i j)
    (hfuel : s.size ≤ fuel + i) (hfuel' : s'.size ≤ fuel' + j)
    (hdeep : ∀ u, s.get? i = some u → u.word.closes? = none → depth ≤ u.depth) :
    σ.Agree (HeadEnd.Alike R) (Helper.headEndFrom s depth fuel i)
        (Helper.headEndFrom s' depth fuel' j) ∨
      ∃ k l, R k l ∧ ¬ R (k + 1) (l + 1) ∧ i ≤ k ∧ HeadSpans s depth i k := by
  induction fuel generalizing fuel' i j with
  | zero =>
    have hi : s.get? i = none := get?_eq_none (by omega)
    rw [headEndFrom_of_none hi, headEndFrom_of_none (h.get_none hij hi)]
    exact .inl .missing
  | succ fuel ih =>
    rcases h.get_cases hij with ⟨hi, hj⟩ | ⟨t, t', ht, ht', halike⟩
    · rw [headEndFrom_of_none hi, headEndFrom_of_none hj]
      exact .inl .missing
    · obtain ⟨fuel', rfl⟩ := exists_fuel ht' hfuel'
      rw [Helper.headEndFrom, Helper.headEndFrom, ht, ht']
      simp only [← halike.isMark, ← halike.isOperator, ← endsAt halike]
      by_cases hgroup : (t.isMark "(" || t.isMark "[") = true
      · rw [if_pos hgroup, if_pos hgroup]
        rcases Agree.cases (h.closer hij) with ⟨c, c', hc, hc', -, hnext, hic, hjc⟩ | ⟨e, e', hc, hc', he⟩
        · rw [hc, hc']
          have hfuel₁ : s'.size ≤ fuel' + (c' + 1) := by omega
          have hd := hdeep t ht (closes?_of_group hgroup)
          have hlast := get?_of_lt (h.nested.lt_closer hc).2
          have hdepth := (h.nested.depth_closer hc ht hlast).1
          rcases ih hnext (by omega) hfuel₁ (deep_next h.nested hlast (by omega)) with
            hagree | ⟨k, l, hkl, hno, hle, hspans⟩
          · exact .inl hagree
          · refine .inr ⟨k, l, hkl, hno, by omega, ?_⟩
            exact (headSpans_of_group h.nested ht hgroup hc hd).trans hspans
        · rw [hc, hc']
          exact .inl he
      · rw [if_neg hgroup, if_neg hgroup]
        by_cases hbrace : t.isMark leftBrace = true
        · rw [if_pos hbrace, if_pos hbrace]
          exact .inl (.braces hij (h.next_of_isMark hij ht hbrace))
        · rw [if_neg hbrace, if_neg hbrace]
          by_cases hequals : t.isOperator "=" = true
          · rw [if_pos hequals, if_pos hequals]
            rcases h.next i j t hij ht with harrow | hnext
            · rw [Lexeme.isOperator_eq_true, (Lexeme.isOperator_eq_true.mp hequals).2] at harrow
              exact absurd harrow.2 (by decide)
            · exact .inl (.equals hij hnext)
          · rw [if_neg hequals, if_neg hequals]
            by_cases hends : Helper.endsAt depth t = true
            · rw [if_pos hends, if_pos hends]
              exact .inl .missing
            · rw [if_neg hends, if_neg hends]
              simp only [Bool.not_eq_true] at hbrace hequals hends
              have hspan : HeadSpans s depth i i :=
                headSpans_self ht (by simp [endsHead, hends, hbrace, hequals])
              by_cases hnext : R (i + 1) (j + 1)
              · have hfuel₁ : s'.size ≤ fuel' + (j + 1) := by omega
                rcases ih hnext (by omega) hfuel₁ (deep_next h.nested ht (deep_of_not_endsAt hends))
                  with hagree | ⟨k, l, hkl, hno, hle, hspans⟩
                · exact .inl hagree
                · exact .inr ⟨k, l, hkl, hno, by omega, hspan.trans hspans⟩
              · exact .inr ⟨i, j, hij, hnext, le_refl i, hspan⟩

/-- A body without braces ends alike, or goes past an arrow that the streams differ after. -/
lemma plainBody (h : Lockstep σ R s s') (depth : Nat) (hij : R i j) :
    R (Helper.plainBody s depth i).2 (Helper.plainBody s' depth j).2 ∨
      ∃ k l, R k l ∧ ¬ R (k + 1) (l + 1) ∧ i ≤ k ∧ k < (Helper.plainBody s depth i).2 := by
  obtain ⟨-, hle, hbody, hend⟩ := plainBody_spec s depth i
  obtain ⟨-, hle', hbody', hend'⟩ := plainBody_spec s' depth j
  generalize (Helper.plainBody s depth i).2 = y at hle hbody hend ⊢
  generalize (Helper.plainBody s' depth j).2 = y' at hle' hbody' hend' ⊢
  obtain ⟨n, hn⟩ : ∃ n, y = i + n := ⟨y - i, by omega⟩
  induction n generalizing i j with
  | zero =>
    left
    obtain rfl : y = i := by omega
    rcases Nat.eq_or_lt_of_le hle' with rfl | hlt
    · exact hij
    · obtain ⟨t', ht', hno⟩ := hbody' j (le_refl j) hlt
      cases ht : s.get? y with
      | none =>
        rw [h.get_none hij ht] at ht'
        cases ht'
      | some t =>
        obtain ⟨u, hu, halike⟩ := h.exists_get hij ht
        rw [ht'] at hu
        cases hu
        rw [← endsAt halike, hend t ht] at hno
        cases hno
  | succ n ih =>
    obtain ⟨t, ht, hno⟩ := hbody i (le_refl i) (by omega)
    obtain ⟨t', ht', halike⟩ := h.exists_get hij ht
    have hlt : j < y' := by
      rcases Nat.eq_or_lt_of_le hle' with rfl | hlt
      · rw [endsAt halike, hend' t' ht'] at hno
        cases hno
      · exact hlt
    by_cases hnext : R (i + 1) (j + 1)
    · rcases ih hnext (by omega) (fun k hk => hbody k (by omega)) (by omega)
        (fun k hk => hbody' k (by omega)) (by omega) with hy | ⟨k, l, hkl, hno, hik, hlt⟩
      · exact .inl hy
      · exact .inr ⟨k, l, hkl, hno, by omega, hlt⟩
    · exact .inr ⟨i, j, hij, hnext, le_refl i, by omega⟩

lemma bracedBody (h : Lockstep σ R s s') (hij : R i j) (hnext : R (i + 1) (j + 1)) :
    σ.Agree (BodyAlike R s) (Helper.bracedBody s i) (Helper.bracedBody s' j) := by
  unfold Helper.bracedBody
  rcases Agree.cases (h.closer hij) with ⟨c, c', hc, hc', hcc, -⟩ | ⟨e, e', hc, hc', he⟩
  · rw [hc, hc']
    exact ⟨⟨i, j, hij, rfl, rfl⟩, hnext, hcc, le_of_lt (h.nested.lt_closer hc).2⟩
  · rw [hc, hc']
    exact he

/-- Behind corresponding ends of heads, bodies are found alike, or go past an arrow that the streams
differ after. -/
lemma bodyFrom (h : Lockstep σ R s s') (depth : Nat) {e e' : HeadEnd} (he : e.Alike R e') :
    σ.Agree (Option.Rel (BodyAlike R s)) (Helper.bodyFrom s depth e) (Helper.bodyFrom s' depth e') ∨
      ∃ p k l, Helper.bodyFrom s depth e = .ok (some p) ∧ R k l ∧ ¬ R (k + 1) (l + 1) ∧ p.1 ≤ k ∧
        k < p.2 := by
  cases he with
  | missing => exact .inl .none
  | braces hkl hnext => exact .inl (Agree.map (h.bracedBody hkl hnext) fun _ _ hpq => .some hpq)
  | @equals k l hkl hnext =>
    unfold Helper.bodyFrom
    simp only
    rcases h.get_cases hnext with ⟨hi, hj⟩ | ⟨first, first', hf, hf', hfirst⟩
    · rw [hi, hj]
      exact .inl .none
    · rw [hf, hf']
      simp only [← hfirst.isMark]
      by_cases hbrace : first.isMark leftBrace = true
      · rw [if_pos hbrace, if_pos hbrace]
        have hbody := h.bracedBody hnext (h.next_of_isMark hnext hf hbrace)
        exact .inl (Agree.map hbody fun _ _ hpq => .some hpq)
      · rw [if_neg hbrace, if_neg hbrace]
        have hsize := plainBody_le_size depth hf
        rcases h.plainBody depth hnext with hend | ⟨a, b, hab, hno, hka, hlt⟩
        · exact .inl (.some ⟨⟨k, l, hkl, rfl, rfl⟩, hnext, hend, hsize⟩)
        · exact .inr ⟨_, a, b, rfl, hab, hno, hka, hlt⟩

/-- The body of a function is found alike, or the function goes past an arrow that the streams differ
after. -/
theorem body? (h : Lockstep σ R s s') (hij : R i j) (hname : R (i + 2) (j + 2)) {name : Token}
    (hn : Helper.nameAt? s i = some name) :
    σ.Agree (Option.Rel (BodyAlike R s)) (Helper.body? s i) (Helper.body? s' j) ∨
      ∃ k l, R k l ∧ ¬ R (k + 1) (l + 1) ∧ (inHead s i k || inBody s i k) = true := by
  rcases Agree.cases (h.token hij) with ⟨word, word', hw, hw', hget, -, halike⟩ | ⟨e, e', hw, hw', he⟩
  · have hd : word.depth = word'.depth := by simpa using halike.depth
    have hbody : Helper.body? s i = (do
        let e ← Helper.headEndFrom s word.depth s.size (i + 2)
        Helper.bodyFrom s word.depth e) := by
      rw [body?_eq, hw]
      rfl
    have hbody' : Helper.body? s' j = (do
        let e ← Helper.headEndFrom s' word.depth s'.size (j + 2)
        Helper.bodyFrom s' word.depth e) := by
      rw [body?_eq, hw', hd]
      rfl
    rcases h.headEndFrom word.depth hname (by omega : s.size ≤ s.size + (i + 2))
        (by omega : s'.size ≤ s'.size + (j + 2)) (deep_of_nameAt? h.nested hget hn) with
      hhead | ⟨k, l, hkl, hno, hle, hspans⟩
    · rcases Agree.cases hhead with ⟨e, e', he, he', hee⟩ | ⟨e, e', he, he', hee⟩
      · rw [he] at hbody
        rw [he'] at hbody'
        rcases h.bodyFrom word.depth hee with hagree | ⟨p, k, l, hp, hkl, hno, hpk, hkp⟩
        · rw [hbody, hbody']
          exact .inl hagree
        · refine .inr ⟨k, l, hkl, hno, ?_⟩
          unfold inBody
          rw [hbody.trans hp]
          simp [hpk, hkp]
      · rw [hbody, hbody', he, he']
        exact .inl hee
    · refine .inr ⟨k, l, hkl, hno, ?_⟩
      rw [inHead_of_headSpans hget hle hspans, Bool.true_or]
  · rw [body?_eq, body?_eq, hw, hw']
    exact .inl he

end Stream.Lockstep

end ActorDiagram
