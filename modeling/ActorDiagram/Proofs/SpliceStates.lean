import Mathlib
import ActorDiagram.Proofs.SpliceRuns

/-!
# States over a splice

Two streams that differ in one part after an arrow declare the same states, when neither part declares
a type and the second names no machine that the rest does not name.
-/

namespace ActorDiagram

/-! ### State types of the same facts -/

namespace StateTypes

/-- The same names, however often and in whatever order. -/
abbrev SameMembers (l l' : List String) : Prop := ∀ x, x ∈ l ↔ x ∈ l'

variable {known known' : List String}

lemma mem_distinct {x : String} (l : List String) : x ∈ distinct l ↔ x ∈ l := by
  have hfold : ∀ (l seen : List String), x ∈ l.foldl (fun seen name =>
      if seen.contains name then seen else seen ++ [name]) seen ↔ x ∈ seen ∨ x ∈ l := by
    intro l
    induction l with
    | nil => simp
    | cons y l ih =>
      intro seen
      rw [List.foldl_cons, ih, List.mem_cons]
      split_ifs with hy
      · rw [List.contains_iff_mem] at hy
        constructor
        · tauto
        · rintro (hx | rfl | hx)
          · exact .inl hx
          · exact .inl hy
          · exact .inr hx
      · rw [List.mem_append, List.mem_singleton]
        tauto
  unfold distinct
  rw [hfold]
  simp

lemma sameMembers_distinct {l r : List String} (h : SameMembers l r) :
    SameMembers (distinct l) (distinct r) := by
  intro x
  rw [mem_distinct, mem_distinct, h]

lemma any_eq_of_sameMembers {l l' : List String} (h : SameMembers l l') (p : String → Bool) :
    l.any p = l'.any p := by
  rw [Bool.eq_iff_iff, List.any_eq_true, List.any_eq_true]
  simp only [h _]

lemma contains_eq_of_sameMembers {l l' : List String} (h : SameMembers l l') :
    l.contains = l'.contains := by
  funext x
  rw [Bool.eq_iff_iff, List.contains_iff_mem, List.contains_iff_mem, h]

lemma grow_sameMembers (h : SameMembers known known') (subtypes : List (String × List String)) :
    SameMembers (grow subtypes known) (grow subtypes known') := by
  unfold grow
  induction subtypes generalizing known known' with
  | nil => exact h
  | cons x subtypes ih =>
    rw [List.foldl_cons, List.foldl_cons]
    apply ih
    have hcontains := contains_eq_of_sameMembers h
    simp only [hcontains, congrFun hcontains x.1]
    split_ifs
    · intro y
      rw [List.mem_append, List.mem_append, h]
    · exact h

lemma closure_sameMembers (h : SameMembers known known') (subtypes : List (String × List String)) :
    SameMembers (closure subtypes known) (closure subtypes known') := by
  unfold closure
  generalize subtypes.length = rounds
  induction rounds generalizing known known' with
  | zero => exact h
  | succ rounds ih => exact ih (grow_sameMembers h subtypes)

/-- State types depend on what is said about types, and not on how often; supertypes count in their
order. -/
theorem declaresState_ofFacts {facts facts' : List TypeFact} (h : ∀ f, f ∈ facts ↔ f ∈ facts')
    (hsub : facts.filterMap TypeFact.subtype? = facts'.filterMap TypeFact.subtype?)
    (head : StateIndex.DeclHead) (supers : List String) :
    StateIndex.declaresState (ofFacts facts) head supers =
      StateIndex.declaresState (ofFacts facts') head supers := by
  have hmachines := sameMembers_distinct (l := facts.filterMap TypeFact.stateType?)
    (r := facts'.filterMap TypeFact.stateType?) (by
      intro x
      rw [List.mem_filterMap, List.mem_filterMap]
      simp only [h _])
  have hobjects := sameMembers_distinct
    (l := (facts.flatMap TypeFact.supersOfObject).filter mentionsState)
    (r := (facts'.flatMap TypeFact.supersOfObject).filter mentionsState) (by
      intro x
      rw [List.mem_filter, List.mem_filter, List.mem_flatMap, List.mem_flatMap]
      simp only [h _])
  have hempty : ∀ {l l' : List String}, SameMembers l l' → (l = [] ↔ l' = []) := by
    intro l l' hl
    rw [List.eq_nil_iff_forall_not_mem, List.eq_nil_iff_forall_not_mem]
    simp only [hl _]
  unfold ofFacts
  generalize distinct (facts.filterMap TypeFact.stateType?) = l at hmachines
  generalize distinct (facts'.filterMap TypeFact.stateType?) = l' at hmachines
  generalize distinct ((facts.flatMap TypeFact.supersOfObject).filter mentionsState) = o
    at hobjects
  generalize distinct ((facts'.flatMap TypeFact.supersOfObject).filter mentionsState) = o'
    at hobjects
  cases l with
  | nil =>
    rw [(hempty hmachines).mp rfl]
    cases o with
    | nil => rw [(hempty hobjects).mp rfl]
    | cons x o =>
      cases o' with
      | nil => exact absurd ((hempty hobjects).mpr rfl) (by simp)
      | cons y o' => exact any_eq_of_sameMembers hobjects _
  | cons x l =>
    cases l' with
    | nil => exact absurd ((hempty hmachines).mpr rfl) (by simp)
    | cons y l' =>
      rw [← hsub]
      exact any_eq_of_sameMembers (closure_sameMembers hmachines _) _

/-- A part that says nothing about types stands for one that names machines which are named around it. -/
lemma declaresState_of_parts {u v as bs : List (Option TypeFact)} (has : ∀ a ∈ as, a = none)
    (hbs : ∀ b ∈ bs, (b = none ∨ ∃ name, b = some (.stateType name)) ∧ b ∈ u ++ v)
    (head : StateIndex.DeclHead) (supers : List String) :
    StateIndex.declaresState (ofFacts ((u ++ (as ++ v)).filterMap id)) head supers =
      StateIndex.declaresState (ofFacts ((u ++ (bs ++ v)).filterMap id)) head supers := by
  apply declaresState_ofFacts
  · intro f
    simp only [List.mem_filterMap, id, exists_eq_right, List.mem_append]
    constructor
    · rintro (hf | hf | hf)
      · exact .inl hf
      · cases has _ hf
      · exact .inr (.inr hf)
    · rintro (hf | hf | hf)
      · exact .inl hf
      · exact (List.mem_append.mp (hbs _ hf).2).imp_right .inr
      · exact .inr (.inr hf)
  · have hnone : ∀ l : List (Option TypeFact),
        (∀ f ∈ l, f = none ∨ ∃ name, f = some (.stateType name)) →
        (l.filterMap id).filterMap TypeFact.subtype? = [] := by
      intro l hl
      rw [List.filterMap_filterMap, List.filterMap_eq_nil_iff]
      intro f hf
      rcases hl f hf with rfl | ⟨name, rfl⟩ <;> rfl
    simp only [List.filterMap_append, hnone as fun f hf => .inl (has f hf),
      hnone bs fun f hf => (hbs f hf).1]

end StateTypes

/-! ### Machines named in a window -/

/-- Behind a base type, a part gives the same argument wherever it stands. -/
lemma Window.Fits.argumentAt? {w : Window} {s s' : Stream} (h : w.Fits s s') {i j : Nat}
    (hij : w.At i j) (hafter : s.hasMark (w.start + w.length) "[" = false)
    (hafter' : s'.hasMark (w.start' + w.length) "[" = false) :
    ∃ fact, TypeFact.argumentAt? s i = .ok fact ∧ TypeFact.argumentAt? s' j = .ok fact ∧
      (fact = none ∨ ∃ name, fact = some (.stateType name)) := by
  have hmark : s.hasMark i "[" = s'.hasMark j "[" := by
    rcases Nat.eq_or_lt_of_le hij.2.1 with heq | hlt
    · rw [heq, show j = w.start' + w.length by omega, hafter, hafter']
    · exact h.hasMark hij hlt "["
  by_cases hbracket : s.hasMark i "[" = true
  · have hlt : i < w.start + w.length := by
      refine lt_of_le_of_ne hij.2.1 fun heq => ?_
      rw [heq, hafter] at hbracket
      cases hbracket
    obtain ⟨c, c', -, -, hcc, hic, hcw, u, hu, hcloses⟩ := h.exists_close hij hlt (.inr (.inl hbracket))
    obtain ⟨first, first', hf, hf', hff⟩ := h.get (i + 1) (j + 1) (by omega) (by omega)
    rw [TypeFact.argumentAt?_of_bracket hbracket, TypeFact.argumentAt?_of_bracket (hmark ▸ hbracket), hf,
      hf']
    simp only [← hff.isIdentifier]
    by_cases hident : first.isIdentifier = true
    · rw [if_pos hident, if_pos hident]
      have hne : i + 1 ≠ c := by
        rintro rfl
        rw [hf] at hu
        cases hu
        have := Lexeme.not_name_of_closes? hcloses
        rw [hident, Bool.or_true] at this
        cases this
      rcases Agree.cases (h.dotted (i := i + 1) (j := j + 1) (by omega) hcc (by omega) hcw
        hf hident hu hcloses) with ⟨⟨x, k⟩, ⟨y, l⟩, hx, hy, hxy, -⟩ | ⟨e, -, hx, -, -⟩
      · rw [hx, hy]
        simp only at hxy
        subst hxy
        exact ⟨_, rfl, rfl, .inr ⟨_, rfl⟩⟩
      · rw [Stream.dotted_of_get? hf] at hx
        cases hx
    · rw [if_neg hident, if_neg hident]
      exact ⟨none, rfl, rfl, .inl rfl⟩
  · rw [Bool.not_eq_true] at hbracket
    rw [TypeFact.argumentAt?_of_not_bracket hbracket,
      TypeFact.argumentAt?_of_not_bracket (hmark ▸ hbracket)]
    exact ⟨none, rfl, rfl, .inl rfl⟩

/-- A part without type declarations names the same machines wherever it stands. -/
theorem Window.Fits.machineAt? {w : Window} {s s' : Stream} (h : w.Fits s s') {i j : Nat}
    (hij : w.At i j) (hi : i < w.start + w.length)
    (hplain : ∀ t, s.get? i = some t → t.isWordOf ["trait", "class", "object"] = false)
    (hafter : s.hasMark (w.start + w.length) "[" = false)
    (hafter' : s'.hasMark (w.start' + w.length) "[" = false) :
    ∃ fact, TypeFact.at? s i = .ok fact ∧ TypeFact.at? s' j = .ok fact ∧
      (fact = none ∨ ∃ name, fact = some (.stateType name)) := by
  obtain ⟨t, t', ht, ht', halike⟩ := h.get i j hij hi
  unfold TypeFact.at?
  rw [Stream.token_eq_ok_iff.mpr ht, Stream.token_eq_ok_iff.mpr ht']
  simp only [Bind.bind, Except.bind, ← halike.isWordOf, hplain t ht]
  by_cases hmachine : t.isWordOf machineTypes = true
  · rw [if_pos hmachine, if_pos hmachine]
    exact h.argumentAt? (by omega) hafter hafter'
  · rw [if_neg hmachine, if_neg hmachine]
    exact ⟨none, rfl, rfl, .inl rfl⟩

/-! ### Declarations -/

namespace StateIndex

/-- Groups that end before a place are dropped there anyway. -/
lemma declsFrom_dropWhile {s : Stream} {types : Option (List String)} {fuel i k : Nat}
    (hk : k ≤ i) (groups : List Group) (decls : List DeclaredState) :
    declsFrom s types fuel i (groups.dropWhile (·.close < k)) decls =
      declsFrom s types fuel i groups decls := by
  have hdrop : (groups.dropWhile (·.close < k)).dropWhile (·.close < i) =
      groups.dropWhile (·.close < i) := by
    induction groups with
    | nil => rfl
    | cons g groups ih =>
      by_cases hg : g.close < k
      · rw [List.dropWhile_cons_of_pos (by simpa using hg), ih,
          List.dropWhile_cons_of_pos (by simp only [decide_eq_true_eq]; omega)]
      · rw [List.dropWhile_cons_of_neg (by simpa using hg)]
  cases fuel with
  | zero => rfl
  | succ fuel =>
    rw [declsFrom, declsFrom, hdrop]

lemma declsFrom_skip {s : Stream} {types : Option (List String)} {fuel i m : Nat}
    (h : ∀ k t, i ≤ k → k < i + m → s.get? k = some t → declHead? s k t = none)
    (hsize : i + m ≤ s.size) (hfuel : m ≤ fuel) (groups : List Group)
    (decls : List DeclaredState) :
    declsFrom s types fuel i groups decls = declsFrom s types (fuel - m) (i + m) groups decls := by
  induction m generalizing fuel i groups with
  | zero => rfl
  | succ m ih =>
    obtain ⟨fuel, rfl⟩ : ∃ n, fuel = n + 1 := ⟨fuel - 1, by omega⟩
    have ht := Stream.get?_of_lt (show i < s.size by omega)
    rw [declsFrom, ht]
    simp only
    rw [h i _ (le_refl i) (by omega) ht]
    simp only
    rw [declsFrom_dropWhile (by omega), ih (fun k t hk hkm => h k t (by omega) (by omega)) (by omega)
      (by omega), show i + 1 + m = i + (m + 1) by omega, show fuel + 1 - (m + 1) = fuel - m by omega]

end StateIndex

namespace Stream.Splice

variable {σ : Likeness} {s s' : Stream} {n m m' : Nat}

/-- The same objects are states, when the first part says nothing about types, and the second only
names machines that are named elsewhere. -/
theorem typesOfStream (h : Splice σ s s' n m m')
    (hnone : ∀ i, n ≤ i → i < n + m → TypeFact.at? s i = .ok none)
    (hmachines : ∀ j, n ≤ j → j < n + m' → ∃ fact, TypeFact.at? s' j = .ok fact ∧
      (fact = none ∨ ∃ name, fact = some (.stateType name)) ∧
      ∃ k, (k < n ∨ n + m' ≤ k) ∧ k < s'.size ∧ TypeFact.at? s' k = .ok fact) :
    σ.Agree (fun types types' => ∀ head supers, StateIndex.declaresState types head supers =
        StateIndex.declaresState types' head supers)
      (StateTypes.ofStream s) (StateTypes.ofStream s') := by
  have hrange : ∀ {a x : Nat}, x ∈ List.range' n a → n ≤ x ∧ x < n + a :=
    fun hx => List.mem_range'_1.mp hx
  obtain ⟨as, has⟩ := exists_mapM_eq_ok (f := TypeFact.at? s) (l := List.range' n m)
    fun i hi => ⟨none, hnone i (hrange hi).1 (hrange hi).2⟩
  obtain ⟨bs, hbs⟩ := exists_mapM_eq_ok (f := TypeFact.at? s') (l := List.range' n m') (by
    intro j hj
    obtain ⟨fact, hfact, -⟩ := hmachines j (hrange hj).1 (hrange hj).2
    exact ⟨fact, hfact⟩)
  have hquiet : ∀ a ∈ as, a = none := by
    intro a ha
    obtain ⟨i, hi, hia⟩ := exists_of_mem_left (forall₂_of_mapM_eq_ok has).flip ha
    rw [hnone i (hrange hi).1 (hrange hi).2] at hia
    exact (Except.ok.inj hia).symm
  unfold StateTypes.ofStream
  unfold TypeFact.ofStream
  rcases Agree.cases (h.mapM_range (fun i j hij => h.lockstep.typeFactAt? hij) has hbs) with
    ⟨x, y, hx, hy, u, v, u', v', rfl, rfl, hu, hv, helse⟩ | ⟨e, e', hx, hy, he⟩
  · rw [List.forall₂_eq_eq_eq] at hu hv
    subst hu hv
    rw [hx, hy]
    -- What the second part says is said elsewhere too.
    have hsaid : ∀ b ∈ bs, (b = none ∨ ∃ name, b = some (.stateType name)) ∧ b ∈ u ++ v := by
      intro b hb
      obtain ⟨j, hj, hjb⟩ := exists_of_mem_left (forall₂_of_mapM_eq_ok hbs).flip hb
      obtain ⟨fact, hfact, hkind, k, hk, hks, hkfact⟩ := hmachines j (hrange hj).1 (hrange hj).2
      rw [hjb] at hfact
      cases hfact
      exact ⟨hkind, helse k b hk hks hkfact⟩
    exact StateTypes.declaresState_of_parts hquiet hsaid
  · rw [hx, hy]
    exact he

/-- The same states are declared, when no declaration starts in either part. -/
theorem statesOfStream (h : Splice σ s s' n m m')
    (htypes : σ.Agree (fun types types' => ∀ head supers,
        StateIndex.declaresState types head supers = StateIndex.declaresState types' head supers)
      (StateTypes.ofStream s) (StateTypes.ofStream s'))
    (hnone : ∀ i t, n ≤ i → i < n + m → s.get? i = some t → StateIndex.declHead? s i t = none)
    (hnone' : ∀ j t, n ≤ j → j < n + m' → s'.get? j = some t →
      StateIndex.declHead? s' j t = none) :
    σ.Agree (fun x y => x.unplaced = y.unplaced) (StateIndex.ofStream s)
      (StateIndex.ofStream s') := by
  have hpos := h.pos
  have hsize := h.le_size
  have hsize' := h.le_size'
  unfold StateIndex.ofStream
  apply Agree.bind htypes
  intro types types' htypes
  apply Agree.bind (h.lockstep.declsFrom htypes (.inl ⟨rfl, hpos⟩) (by omega) (by omega) .nil rfl ?_)
  · intro decls decls' hdecls
    change StateIndex.unplaced _ = StateIndex.unplaced _
    unfold StateIndex.unplaced
    rw [hdecls]
  -- Behind the arrow, each part is passed over, and then the streams are in lockstep to their ends.
  · intro k l groups groups' decls decls' fuel fuel' hkl hno _ hgroups hdecls hfuel hfuel'
    obtain ⟨hk, hl⟩ := h.eq_of_not_next hkl hno
    rw [hk] at hfuel ⊢
    rw [hl] at hfuel' ⊢
    rw [StateIndex.declsFrom_skip hnone hsize (by omega),
      StateIndex.declsFrom_skip hnone' hsize' (by omega)]
    refine h.lockstep.declsFrom htypes (.inr ⟨le_refl _, by omega⟩) (by omega) (by omega) hgroups
      hdecls ?_
    intro k l _ _ _ _ _ _ hkl hno hle
    have := h.eq_of_not_next hkl hno
    omega

end Stream.Splice

end ActorDiagram
