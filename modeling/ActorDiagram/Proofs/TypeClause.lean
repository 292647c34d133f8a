import Mathlib
import ActorDiagram.Proofs.Yields

/-!
# Type clauses

What stands between the name of a declaration and its body: groups in brackets, and the types that the
declaration extends. The readers of a stream read exactly this grammar, whatever the fuel they are given
for it.
-/

namespace ActorDiagram.Stream

/-- The token at `i` is an identifier. -/
def isNameAt (s : Stream) (i : Nat) : Bool := (s.get? i).any (·.isIdentifier)

/-- The token at `i` is this identifier. -/
def isWordAt (s : Stream) (i : Nat) (word : String) : Bool := (s.get? i).any (·.isWord word)

/-- Type or constructor parameters open at `i`. -/
def opensGroup (s : Stream) (i : Nat) : Bool := s.hasMark i "[" || s.hasMark i "("

/-- A dot and one more part of a name stand at `i`. -/
def goesOn (s : Stream) (i : Nat) : Bool := s.hasMark i "." && s.isNameAt (i + 1)

/-- The parts of a dotted name from `i` up to `j`. -/
inductive Path (s : Stream) : Nat → List String → Nat → Prop
  | last {i : Nat} {t : Token} : s.get? i = some t → s.goesOn (i + 1) = false → Path s i [t.text] (i + 1)
  | dot {i j : Nat} {t : Token} {parts : List String} : s.get? i = some t → s.goesOn (i + 1) = true →
      Path s (i + 2) parts j → Path s i (t.text :: parts) j

/-- Groups in brackets from `i` up to `j`, where no more follows. -/
inductive Groups (s : Stream) : Nat → Nat → Prop
  | done {i : Nat} : s.opensGroup i = false → Groups s i i
  | group {i c j : Nat} : s.opensGroup i = true → s.closer i = .ok c → Groups s (c + 1) j → Groups s i j

/-- What a dotted name says last. -/
def lastName (parts : List String) : String :=
  String.ofList (lastSegment (".".intercalate parts).toList)

/-- Types `A[...](...) with B ...` from `i` up to `j`, each by what its name says last. -/
inductive Supers (s : Stream) : Nat → List String → Nat → Prop
  | none {i : Nat} : s.isNameAt i = false → Supers s i [] i
  | last {i j k : Nat} {parts : List String} : s.isNameAt i = true → s.Path i parts j → s.Groups j k →
      s.isWordAt k "with" = false → Supers s i [lastName parts] k
  | cons {i j k l : Nat} {parts names : List String} : s.isNameAt i = true → s.Path i parts j →
      s.Groups j k → s.isWordAt k "with" = true → Supers s (k + 1) names l →
      Supers s i (lastName parts :: names) l

/-- From `i` up to `j` stands what follows the name of a declaration that extends these types. -/
inductive TypeClause (s : Stream) : Nat → List String → Nat → Prop
  | none {i j : Nat} : s.Groups i j → s.isWordAt j "extends" = false → TypeClause s i [] j
  | supers {i j k : Nat} {names : List String} : s.Groups i j → s.isWordAt j "extends" = true →
      s.Supers (j + 1) names k → TypeClause s i names k

variable {s : Stream} {fuel i j : Nat} {names parts : List String}

/-! ### Tokens at a place -/

lemma isNameAt_eq_true_iff : s.isNameAt i = true ↔ ∃ t, s.get? i = some t ∧ t.isIdentifier = true :=
  Option.any_eq_true _ _

lemma isWordAt_eq_true_iff {word : String} :
    s.isWordAt i word = true ↔ ∃ t, s.get? i = some t ∧ t.isWord word = true :=
  Option.any_eq_true _ _

lemma hasMark_eq_true_iff {text : String} :
    s.hasMark i text = true ↔ ∃ t, s.get? i = some t ∧ t.isMark text = true := by
  rw [hasMark_eq_any, Option.any_eq_true]

lemma isNameAt_of_isWordAt {word : String} (h : s.isWordAt i word = true) : s.isNameAt i = true := by
  obtain ⟨t, ht, hword⟩ := isWordAt_eq_true_iff.mp h
  exact isNameAt_eq_true_iff.mpr ⟨t, ht, Lexeme.isIdentifier_of_isWord hword⟩

lemma eq_of_isWordAt {word word' : String} (h : s.isWordAt i word = true)
    (h' : s.isWordAt i word' = true) : word = word' := by
  obtain ⟨t, ht, hword⟩ := isWordAt_eq_true_iff.mp h
  obtain ⟨t', ht', hword'⟩ := isWordAt_eq_true_iff.mp h'
  rw [ht] at ht'
  cases ht'
  exact (Lexeme.isWord_eq_true.mp hword).2.symm.trans (Lexeme.isWord_eq_true.mp hword').2

lemma hasMark_of_le (h : s.size ≤ i) (text : String) : s.hasMark i text = false := by
  rw [hasMark_eq_any, get?_eq_none h]
  rfl

lemma goesOn_eq_true_iff : s.goesOn i = true ↔ ∃ dot name, s.get? i = some dot ∧
    s.get? (i + 1) = some name ∧ dot.isMark "." = true ∧ name.isIdentifier = true := by
  rw [goesOn, Bool.and_eq_true, hasMark_eq_true_iff, isNameAt_eq_true_iff]
  constructor
  · rintro ⟨⟨dot, hdot, hmark⟩, name, hname, hident⟩
    exact ⟨dot, name, hdot, hname, hmark, hident⟩
  · rintro ⟨dot, name, hdot, hname, hmark, hident⟩
    exact ⟨⟨dot, hdot, hmark⟩, name, hname, hident⟩

/-! ### Dotted names -/

lemma dottedTail_of_goesOn {name : Token} (h : s.goesOn i = true) (hname : s.get? (i + 1) = some name) :
    s.dottedTail (fuel + 1) i = name.text :: s.dottedTail fuel (i + 2) := by
  obtain ⟨dot, name', hdot, hname', hmark, hident⟩ := goesOn_eq_true_iff.mp h
  obtain rfl : name' = name := Option.some.inj (hname'.symm.trans hname)
  rw [dottedTail, hdot, hname']
  simp only
  rw [hmark, hident, Bool.and_self, if_pos rfl]

lemma dottedTail_of_not_goesOn (h : s.goesOn i = false) : s.dottedTail fuel i = [] := by
  cases fuel with
  | zero => rfl
  | succ fuel =>
    unfold dottedTail
    split
    · rename_i dot name hdot hname
      rw [goesOn, hasMark_eq_any, hdot, isNameAt, hname] at h
      exact if_neg (by simpa using h)
    · rfl

/-- A dotted name is read to its end. -/
theorem Path.dottedTail {t : Token} (h : s.Path i parts j) (ht : s.get? i = some t) (fuel : Nat)
    (hfuel : s.size ≤ i + 1 + fuel) : parts = t.text :: s.dottedTail fuel (i + 1) ∧
      j = i + 1 + 2 * (s.dottedTail fuel (i + 1)).length := by
  induction h generalizing t fuel with
  | last hget hend =>
    rw [hget] at ht
    cases ht
    rw [dottedTail_of_not_goesOn hend]
    exact ⟨rfl, rfl⟩
  | @dot i j t' parts hget hon hrest ih =>
    rw [hget] at ht
    cases ht
    obtain ⟨dot, name, hdot, hname, -, -⟩ := goesOn_eq_true_iff.mp hon
    have hlt := lt_of_get? hname
    obtain ⟨fuel, rfl⟩ : ∃ n, fuel = n + 1 := ⟨fuel - 1, by omega⟩
    obtain ⟨hparts, hj⟩ := ih hname fuel (by omega)
    rw [dottedTail_of_goesOn hon hname, ← hparts]
    refine ⟨rfl, ?_⟩
    rw [hj, hparts, List.length_cons]
    omega

lemma exists_path (h : s.isNameAt i = true) : ∃ parts j, s.Path i parts j := by
  obtain ⟨n, hn⟩ : ∃ n, s.size ≤ i + n := ⟨s.size, by omega⟩
  induction n using Nat.strong_induction_on generalizing i with
  | _ n ih =>
    obtain ⟨t, ht, -⟩ := isNameAt_eq_true_iff.mp h
    have hlt := lt_of_get? ht
    cases hon : s.goesOn (i + 1) with
    | false => exact ⟨_, _, .last ht hon⟩
    | true =>
      have hname : s.isNameAt (i + 2) = true := (Bool.and_eq_true _ _ ▸ hon).2
      obtain ⟨parts, j, hrest⟩ := ih (n - 1) (by omega) hname (by omega)
      exact ⟨_, _, .dot ht hon hrest⟩

/-- The reader of dotted names reads exactly these. -/
theorem dotted_eq_ok_iff {name : String} (h : s.isNameAt i = true) : s.dotted i = .ok (name, j) ↔
    ∃ parts, s.Path i parts j ∧ name = ".".intercalate parts := by
  obtain ⟨t, ht, -⟩ := isNameAt_eq_true_iff.mp h
  obtain ⟨parts, k, hpath⟩ := exists_path h
  rw [dotted_of_get? ht]
  constructor
  · intro heq
    cases heq
    obtain ⟨hparts, hk⟩ := hpath.dottedTail ht s.size (by omega)
    rw [← hparts, ← hk]
    exact ⟨parts, hpath, rfl⟩
  · rintro ⟨parts', hpath', rfl⟩
    obtain ⟨hparts, hj⟩ := hpath'.dottedTail ht s.size (by omega)
    rw [← hparts, ← hj]

/-! ### Groups -/

lemma skipGroupsFrom_succ : s.skipGroupsFrom (fuel + 1) i =
    if s.opensGroup i then s.closer i >>= fun c => s.skipGroupsFrom fuel (c + 1) else .ok i := by
  rw [skipGroupsFrom, opensGroup, hasMark_eq_any, hasMark_eq_any]
  cases s.get? i <;> rfl

lemma opensGroup_of_le (h : s.size ≤ i) : s.opensGroup i = false := by
  rw [opensGroup, hasMark_of_le h, hasMark_of_le h]
  rfl

lemma Groups.eq_of_not_opens (h : s.Groups i j) (hno : s.opensGroup i = false) : j = i := by
  cases h with
  | done => rfl
  | group ho => simp [ho] at hno

/-- Groups are skipped to the last of them. -/
theorem skipGroupsFrom_eq_ok_iff (hs : s.Nested) (hfuel : s.size ≤ i + fuel) :
    s.skipGroupsFrom fuel i = .ok j ↔ s.Groups i j := by
  induction fuel generalizing i with
  | zero =>
    have hno := opensGroup_of_le (s := s) (show s.size ≤ i by omega)
    constructor
    · intro h
      cases h
      exact .done hno
    · intro h
      rw [h.eq_of_not_opens hno]
      rfl
  | succ fuel ih =>
    rw [skipGroupsFrom_succ]
    split_ifs with ho
    · rw [bind_eq_ok_iff]
      constructor
      · rintro ⟨c, hc, h⟩
        have := (hs.lt_closer hc).1
        exact .group ho hc ((ih (by omega)).mp h)
      · intro h
        cases h with
        | done hno => simp [ho] at hno
        | @group _ c _ _ hc hrest =>
          have := (hs.lt_closer hc).1
          exact ⟨c, hc, (ih (by omega)).mpr hrest⟩
    · rw [Bool.not_eq_true] at ho
      constructor
      · intro h
        cases h
        exact .done ho
      · intro h
        rw [h.eq_of_not_opens ho]

/-- The reader that skips groups ends where they do. -/
theorem skipGroups_eq_ok_iff (hs : s.Nested) : s.skipGroups i = .ok j ↔ s.Groups i j :=
  skipGroupsFrom_eq_ok_iff hs (by omega)

/-! ### Supertypes -/

lemma Path.lt (h : s.Path i parts j) : i < j ∧ j ≤ s.size := by
  induction h with
  | last ht => exact ⟨Nat.lt_succ_self _, lt_of_get? ht⟩
  | dot _ _ _ ih => exact ⟨by omega, ih.2⟩

lemma Groups.le (hs : s.Nested) (h : s.Groups i j) : i ≤ j := by
  induction h with
  | done => exact le_refl _
  | group _ hc _ ih =>
    have := (hs.lt_closer hc).1
    omega

lemma supertypesFrom_succ : s.supertypesFrom (fuel + 1) i =
    if s.isNameAt i then do
      let (name, next) ← s.dotted i
      let next ← s.skipGroups next
      if s.isWordAt next "with" then do
        let (names, next) ← s.supertypesFrom fuel (next + 1)
        .ok (String.ofList (lastSegment name.toList) :: names, next)
      else .ok ([String.ofList (lastSegment name.toList)], next)
    else .ok ([], i) := by
  rw [supertypesFrom, isNameAt]
  cases ht : s.get? i with
  | none => rfl
  | some t =>
    simp only [Option.any_some]
    split_ifs with hident
    · congr 1
      funext x
      congr 1
      funext next
      rw [isWordAt]
      cases s.get? next <;> rfl
    · rfl

lemma Supers.eq_of_not_name (h : s.Supers i names j) (hno : s.isNameAt i = false) :
    names = [] ∧ j = i := by
  cases h with
  | none => exact ⟨rfl, rfl⟩
  | last hname | cons hname => simp [hname] at hno

/-- Supertypes are read to the last of them. -/
theorem supertypesFrom_eq_ok_iff (hs : s.Nested) (hfuel : s.size ≤ i + fuel) :
    s.supertypesFrom fuel i = .ok (names, j) ↔ s.Supers i names j := by
  induction fuel generalizing i names with
  | zero =>
    have hno : s.isNameAt i = false := by rw [isNameAt, get?_eq_none (by omega)]; rfl
    constructor
    · intro h
      cases h
      exact .none hno
    · intro h
      obtain ⟨rfl, rfl⟩ := h.eq_of_not_name hno
      rfl
  | succ fuel ih =>
    rw [supertypesFrom_succ]
    by_cases hname : s.isNameAt i = true
    · rw [if_pos hname]
      constructor
      · intro h
        obtain ⟨⟨name, next⟩, hdotted, h⟩ := bind_eq_ok_iff.mp h
        obtain ⟨k, hskip, h⟩ := bind_eq_ok_iff.mp h
        obtain ⟨parts, hpath, rfl⟩ := (dotted_eq_ok_iff hname).mp hdotted
        have hgroups := (skipGroups_eq_ok_iff hs).mp hskip
        have := hpath.lt.1
        have := hgroups.le hs
        split_ifs at h with hwith
        · obtain ⟨⟨rest, l⟩, hrest, h⟩ := bind_eq_ok_iff.mp h
          cases h
          exact .cons hname hpath hgroups hwith ((ih (by omega)).mp hrest)
        · cases h
          exact .last hname hpath hgroups (by simpa using hwith)
      · intro h
        cases h with
        | none hno => simp [hname] at hno
        | last _ hpath hgroups hwith =>
          rw [(dotted_eq_ok_iff hname).mpr ⟨_, hpath, rfl⟩]
          simp only [Bind.bind, Except.bind]
          rw [(skipGroups_eq_ok_iff hs).mpr hgroups]
          simp only [hwith]
          rfl
        | cons _ hpath hgroups hwith hrest =>
          have := hpath.lt.1
          have := hgroups.le hs
          rw [(dotted_eq_ok_iff hname).mpr ⟨_, hpath, rfl⟩]
          simp only [Bind.bind, Except.bind]
          rw [(skipGroups_eq_ok_iff hs).mpr hgroups]
          simp only [hwith, if_true]
          rw [(ih (by omega)).mpr hrest]
          rfl
    · rw [if_neg hname]
      constructor
      · intro h
        cases h
        exact .none (by simpa using hname)
      · intro h
        obtain ⟨rfl, rfl⟩ := h.eq_of_not_name (by simpa using hname)
        rfl

lemma supertypes_eq : s.supertypes i = s.skipGroups i >>= fun k =>
    if s.isWordAt k "extends" then s.supertypesFrom s.size (k + 1) else .ok ([], k) := by
  unfold supertypes
  congr 1
  funext k
  rw [isWordAt]
  cases s.get? k <;> rfl

/-- The reader of supertypes reads exactly type clauses. -/
theorem supertypes_eq_ok_iff (hs : s.Nested) :
    s.supertypes i = .ok (names, j) ↔ s.TypeClause i names j := by
  rw [supertypes_eq, bind_eq_ok_iff]
  constructor
  · rintro ⟨k, hskip, h⟩
    have hgroups := (skipGroups_eq_ok_iff hs).mp hskip
    split_ifs at h with hextends
    · exact .supers hgroups hextends ((supertypesFrom_eq_ok_iff hs (by omega)).mp h)
    · cases h
      exact .none hgroups (by simpa using hextends)
  · intro h
    cases h with
    | none hgroups hno =>
      refine ⟨_, (skipGroups_eq_ok_iff hs).mpr hgroups, ?_⟩
      rw [hno]
      rfl
    | supers hgroups hextends hsupers =>
      refine ⟨_, (skipGroups_eq_ok_iff hs).mpr hgroups, ?_⟩
      rw [if_pos hextends]
      exact (supertypesFrom_eq_ok_iff hs (by omega)).mpr hsupers

lemma Supers.le (hs : s.Nested) (h : s.Supers i names j) : i ≤ j := by
  induction h with
  | none => exact le_refl _
  | last _ hpath hgroups _ =>
    have := hpath.lt
    have := hgroups.le hs
    omega
  | cons _ hpath hgroups _ _ ih =>
    have := hpath.lt
    have := hgroups.le hs
    omega

lemma TypeClause.le (hs : s.Nested) (h : s.TypeClause i names j) : i ≤ j := by
  cases h with
  | none hgroups => exact hgroups.le hs
  | supers hgroups _ hsupers =>
    have := hgroups.le hs
    have := hsupers.le hs
    omega

/-! ### What a clause spans -/

/-- The token at `i` joins parts of a clause. -/
def Joins (s : Stream) (i : Nat) : Prop :=
  s.isWordAt i "extends" = true ∨ s.isWordAt i "with" = true ∨ s.hasMark i "." = true

/-- From `i` up to `j` stands a group in brackets with this place in it. -/
def InGroup (s : Stream) (i j k : Nat) : Prop :=
  ∃ o c, s.opensGroup o = true ∧ s.closer o = .ok c ∧ i ≤ o ∧ o ≤ k ∧ k ≤ c ∧ c < j

/-- What stands at a place of a clause: a part of a group, what joins names, or a name after that. -/
def InClause (s : Stream) (i j k : Nat) : Prop :=
  s.InGroup i j k ∨ s.Joins k ∨ s.isNameAt k = true ∧ ∃ p, k = p + 1 ∧ s.Joins p

lemma InClause.widen {i' j' k : Nat} (h : s.InClause i j k) (hi : i' ≤ i) (hj : j ≤ j') :
    s.InClause i' j' k := by
  rcases h with ⟨o, c, ho, hc, hio, hok, hkc, hcj⟩ | h
  · exact .inl ⟨o, c, ho, hc, by omega, hok, hkc, by omega⟩
  · exact .inr h

lemma Groups.inClause (hs : s.Nested) (h : s.Groups i j) {k : Nat} (hik : i ≤ k) (hkj : k < j) :
    s.InClause i j k := by
  induction h with
  | done => omega
  | @group i c j ho hc hrest ih =>
    have := hs.lt_closer hc
    have := hrest.le hs
    rcases Nat.lt_or_ge c k with hlt | hle
    · exact (ih (by omega) hkj).widen (by omega) (le_refl _)
    · exact .inl ⟨i, c, ho, hc, le_refl _, hik, hle, by omega⟩

lemma Path.inClause (h : s.Path i parts j) (hname : s.isNameAt i = true)
    (hbefore : ∃ p, i = p + 1 ∧ s.Joins p) {k : Nat} (hik : i ≤ k) (hkj : k < j) : s.InClause i j k := by
  induction h with
  | @last i t _ _ =>
    obtain rfl : k = i := by omega
    exact .inr (.inr ⟨hname, hbefore⟩)
  | @dot i j t parts _ hon hrest ih =>
    rw [goesOn, Bool.and_eq_true] at hon
    have hdot : s.Joins (i + 1) := .inr (.inr hon.1)
    rcases Nat.lt_or_ge k (i + 2) with hlt | hge
    · rcases Nat.eq_or_lt_of_le hik with rfl | hgt
      · exact .inr (.inr ⟨hname, hbefore⟩)
      · obtain rfl : k = i + 1 := by omega
        exact .inr (.inl hdot)
    · exact (ih hon.2 ⟨i + 1, rfl, hdot⟩ hge hkj).widen (by omega) (le_refl _)

lemma Supers.inClause (hs : s.Nested) (h : s.Supers i names j) (hbefore : ∃ p, i = p + 1 ∧ s.Joins p)
    {k : Nat} (hik : i ≤ k) (hkj : k < j) : s.InClause i j k := by
  induction h with
  | none => omega
  | @last i m j parts hname hpath hgroups _ =>
    have := hpath.lt
    have := hgroups.le hs
    rcases Nat.lt_or_ge k m with hlt | hge
    · exact (hpath.inClause hname hbefore hik hlt).widen (le_refl _) (by omega)
    · exact (hgroups.inClause hs hge hkj).widen (by omega) (le_refl _)
  | @cons i m n l parts names hname hpath hgroups hwith hrest ih =>
    have := hpath.lt
    have := hgroups.le hs
    have := hrest.le hs
    have hjoins : s.Joins n := .inr (.inl hwith)
    rcases Nat.lt_or_ge k m with hlt | hge
    · exact (hpath.inClause hname hbefore hik hlt).widen (le_refl _) (by omega)
    · rcases Nat.lt_trichotomy k n with hlt | rfl | hgt
      · exact (hgroups.inClause hs hge hlt).widen (by omega) (by omega)
      · exact .inr (.inl hjoins)
      · exact (ih ⟨n, rfl, hjoins⟩ hgt hkj).widen (by omega) (le_refl _)

/-- Nothing else stands in a clause. -/
theorem TypeClause.inClause (hs : s.Nested) (h : s.TypeClause i names j) {k : Nat} (hik : i ≤ k)
    (hkj : k < j) : s.InClause i j k := by
  cases h with
  | none hgroups => exact hgroups.inClause hs hik hkj
  | @supers m _ _ hgroups hextends hsupers =>
    have := hgroups.le hs
    have := hsupers.le hs
    have hjoins : s.Joins m := .inl hextends
    rcases Nat.lt_trichotomy k m with hlt | rfl | hgt
    · exact (hgroups.inClause hs hik hlt).widen (le_refl _) (by omega)
    · exact .inr (.inl hjoins)
    · exact (hsupers.inClause hs ⟨m, rfl, hjoins⟩ hgt hkj).widen (by omega) (le_refl _)

lemma Joins.exists_name (h : s.Joins i) :
    ∃ t, s.get? i = some t ∧ (t.isMark "." || t.isIdentifier) = true := by
  have hword : ∀ {word : String}, s.isWordAt i word = true →
      ∃ t, s.get? i = some t ∧ (t.isMark "." || t.isIdentifier) = true := by
    intro word hword
    obtain ⟨t, ht, hword⟩ := isWordAt_eq_true_iff.mp hword
    refine ⟨t, ht, ?_⟩
    rw [Lexeme.isIdentifier_of_isWord hword, Bool.or_true]
  rcases h with h | h | h
  · exact hword h
  · exact hword h
  · obtain ⟨t, ht, hdot⟩ := hasMark_eq_true_iff.mp h
    exact ⟨t, ht, by rw [hdot, Bool.true_or]⟩

lemma isOpening_of_opensGroup (h : s.opensGroup i = true) :
    ∃ t, s.get? i = some t ∧ t.word.isOpening = true := by
  rw [opensGroup, Bool.or_eq_true, hasMark_eq_true_iff, hasMark_eq_true_iff] at h
  rcases h with ⟨t, ht, hmark⟩ | ⟨t, ht, hmark⟩
  · exact ⟨t, ht, Lexeme.isOpening_of_isMark hmark (by decide)⟩
  · exact ⟨t, ht, Lexeme.isOpening_of_isMark hmark (by decide)⟩

lemma ne_closer_of_isNameAt (hs : s.Nested) {o c k : Nat} (hc : s.closer o = .ok c)
    (hname : s.isNameAt k = true) : k ≠ c := by
  obtain ⟨t, ht, hident⟩ := isNameAt_eq_true_iff.mp hname
  exact hs.ne_closer_of_name hc ht (by rw [hident, Bool.or_true])

/-- A clause that starts inside a pair of brackets ends there. -/
theorem TypeClause.le_closer (hs : s.Nested) (h : s.TypeClause i names j) {o c : Nat}
    (hc : s.closer o = .ok c) (ho : o < i) (hic : i ≤ c) : j ≤ c := by
  by_contra hcj
  rcases h.inClause hs hic (by omega) with ⟨o', c', hopens, hc', hio, hok, hkc, -⟩ | hjoins | ⟨hname, -⟩
  · obtain ⟨t, ht, hopening⟩ := isOpening_of_opensGroup hopens
    have hne := hs.ne_closer_of_isOpening hc ht hopening
    have := hs.closer_lt_closer hc (show o < o' by omega) (by omega) hc'
    omega
  · obtain ⟨t, ht, hname⟩ := hjoins.exists_name
    exact hs.ne_closer_of_name hc ht hname rfl
  · exact ne_closer_of_isNameAt hs hc hname rfl

/-! ### Balanced streams -/

lemma exists_closer_of_opensGroup (hs : s.Nested) (hbalance : s.problems = [])
    (h : s.opensGroup i = true) : ∃ c, s.closer i = .ok c := by
  obtain ⟨t, ht, hopen⟩ := isOpening_of_opensGroup h
  exact hs.exists_closer hbalance ht hopen

lemma exists_groups (hs : s.Nested) (hbalance : s.problems = []) (i : Nat) : ∃ j, s.Groups i j := by
  obtain ⟨n, hn⟩ : ∃ n, s.size ≤ i + n := ⟨s.size, by omega⟩
  induction n using Nat.strong_induction_on generalizing i with
  | _ n ih =>
    cases ho : s.opensGroup i with
    | false => exact ⟨i, .done ho⟩
    | true =>
      obtain ⟨c, hc⟩ := exists_closer_of_opensGroup hs hbalance ho
      have := hs.lt_closer hc
      obtain ⟨j, hj⟩ := ih (n - 1) (by omega) (c + 1) (by omega)
      exact ⟨j, .group ho hc hj⟩

lemma exists_supers (hs : s.Nested) (hbalance : s.problems = []) (i : Nat) :
    ∃ names j, s.Supers i names j := by
  obtain ⟨n, hn⟩ : ∃ n, s.size ≤ i + n := ⟨s.size, by omega⟩
  induction n using Nat.strong_induction_on generalizing i with
  | _ n ih =>
    cases hname : s.isNameAt i with
    | false => exact ⟨[], i, .none hname⟩
    | true =>
      obtain ⟨parts, j, hpath⟩ := exists_path hname
      obtain ⟨k, hgroups⟩ := exists_groups hs hbalance j
      have := hpath.lt
      have := hgroups.le hs
      cases hwith : s.isWordAt k "with" with
      | false => exact ⟨_, k, .last hname hpath hgroups hwith⟩
      | true =>
        obtain ⟨names, l, hrest⟩ := ih (n - 1) (by omega) (k + 1) (by omega)
        exact ⟨_, l, .cons hname hpath hgroups hwith hrest⟩

/-- In a balanced stream every place is the start of a type clause. -/
theorem exists_typeClause (hs : s.Nested) (hbalance : s.problems = []) (i : Nat) :
    ∃ names j, s.TypeClause i names j := by
  obtain ⟨j, hgroups⟩ := exists_groups hs hbalance i
  cases hextends : s.isWordAt j "extends" with
  | false => exact ⟨[], j, .none hgroups hextends⟩
  | true =>
    obtain ⟨names, k, hsupers⟩ := exists_supers hs hbalance (j + 1)
    exact ⟨names, k, .supers hgroups hextends hsupers⟩

end ActorDiagram.Stream
