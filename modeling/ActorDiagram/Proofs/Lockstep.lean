import Mathlib
import ActorDiagram.Proofs.Splice
import ActorDiagram.Proofs.Window

/-!
# Readers in lockstep

Names, supertypes and heads are read alike from corresponding places of two streams in lockstep. No
reader goes past an arrow but the one that looks for the end of a function's head.
-/

namespace ActorDiagram

namespace TypeFact

variable {s : Stream} {i : Nat}

lemma argumentAt?_of_bracket (h : s.hasMark i "[" = true) : argumentAt? s i =
    match s.get? (i + 1) with
    | some first =>
      if first.isIdentifier then do
        let (name, _) ← s.dotted (i + 1)
        .ok (some (.stateType (String.ofList (Stream.lastSegment name.toList))))
      else .ok none
    | none => .ok none := by
  rw [Stream.hasMark_eq_any, Option.any_eq_true] at h
  obtain ⟨bracket, hb, hmark⟩ := h
  unfold argumentAt?
  rw [hb]
  cases s.get? (i + 1) <;> simp [hmark]

lemma argumentAt?_of_not_bracket (h : s.hasMark i "[" = false) : argumentAt? s i = .ok none := by
  rw [Stream.hasMark_eq_any, Option.any_eq_false] at h
  unfold argumentAt?
  cases hb : s.get? i with
  | none => rfl
  | some bracket => cases s.get? (i + 1) <;> simp [h bracket hb]

end TypeFact

namespace Stream

lemma closer_eq_bind {s : Stream} {i : Nat} (hrole : ∀ c, s.roles[i]? ≠ some (.opener c)) :
    s.closer i = (do
      let t ← s.token i
      .error (.source .unclosedBracket (some t.line) (some t.column))) := by
  unfold closer
  split
  · rename_i c hc
    exact absurd hc (hrole c)
  · rfl

lemma skipGroupsFrom_of_none {s : Stream} {fuel i : Nat} (hi : s.get? i = none) :
    s.skipGroupsFrom fuel i = .ok i := by
  cases fuel with
  | zero => rfl
  | succ fuel => rw [skipGroupsFrom, hi]

lemma supertypesFrom_of_none {s : Stream} {fuel i : Nat} (hi : s.get? i = none) :
    s.supertypesFrom fuel i = .ok ([], i) := by
  cases fuel with
  | zero => rfl
  | succ fuel => rw [supertypesFrom, hi]

namespace Lockstep

variable {σ : Likeness} {R : Nat → Nat → Prop} {s s' : Stream} {i j : Nat}

/-! ### Tokens and brackets -/

lemma lt_size (h : Lockstep σ R s s') (hij : R i j) : i < s.size ↔ j < s'.size := by
  have hget := h.get i j hij
  constructor
  · intro hi
    rw [get?_of_lt hi] at hget
    obtain ⟨t', ht', -⟩ := exists_of_rel_some hget
    exact lt_of_get? ht'
  · intro hj
    by_contra hi
    rw [get?_eq_none (by omega), get?_of_lt hj] at hget
    cases hget

lemma exists_get (h : Lockstep σ R s s') (hij : R i j) {t : Token} (ht : s.get? i = some t) :
    ∃ t', s'.get? j = some t' ∧ t.Alike σ 0 0 t' :=
  exists_of_rel_some (ht ▸ h.get i j hij)

lemma get_none (h : Lockstep σ R s s') (hij : R i j) (ht : s.get? i = none) :
    s'.get? j = none :=
  eq_none_of_rel_none (ht ▸ h.get i j hij)

/-- Corresponding places lie behind both streams, or hold tokens that say the same. -/
lemma get_cases (h : Lockstep σ R s s') (hij : R i j) : s.get? i = none ∧ s'.get? j = none ∨
    ∃ t t', s.get? i = some t ∧ s'.get? j = some t' ∧ t.Alike σ 0 0 t' := by
  cases ht : s.get? i with
  | none => exact .inl ⟨rfl, h.get_none hij ht⟩
  | some t =>
    obtain ⟨t', ht', halike⟩ := h.exists_get hij ht
    exact .inr ⟨t, t', rfl, ht', halike⟩

lemma any_get? (h : Lockstep σ R s s') (hij : R i j) {p : Token → Bool}
    (hp : ∀ t t', t.Alike σ 0 0 t' → p t = p t') : (s.get? i).any p = (s'.get? j).any p := by
  rcases h.get_cases hij with ⟨hi, hj⟩ | ⟨t, t', ht, ht', halike⟩
  · rw [hi, hj]
  · rw [ht, ht']
    exact hp t t' halike

lemma hasMark (h : Lockstep σ R s s') (hij : R i j) (m : String) :
    s.hasMark i m = s'.hasMark j m := by
  rw [hasMark_eq_any, hasMark_eq_any]
  exact h.any_get? hij fun _ _ halike => halike.isMark m

/-- Both streams go on after a token that is no operator. -/
lemma next_of_kind (h : Lockstep σ R s s') (hij : R i j) {t : Token} (ht : s.get? i = some t)
    (hk : t.kind ≠ .operator) : R (i + 1) (j + 1) := by
  rcases h.next i j t hij ht with harrow | hnext
  · simp [Lexeme.isOperator, hk] at harrow
  · exact hnext

lemma next_of_isIdentifier (h : Lockstep σ R s s') (hij : R i j) {t : Token}
    (ht : s.get? i = some t) (hident : t.isIdentifier = true) : R (i + 1) (j + 1) := by
  apply h.next_of_kind hij ht
  rw [Lexeme.isIdentifier_eq_true.mp hident]
  decide

lemma next_of_isWord (h : Lockstep σ R s s') (hij : R i j) {t : Token} (ht : s.get? i = some t)
    {w : String} (hword : t.isWord w = true) : R (i + 1) (j + 1) :=
  h.next_of_isIdentifier hij ht (Lexeme.isIdentifier_of_isWord hword)

lemma next_of_isWordOf (h : Lockstep σ R s s') (hij : R i j) {t : Token} (ht : s.get? i = some t)
    {ws : List String} (hword : t.isWordOf ws = true) : R (i + 1) (j + 1) :=
  h.next_of_isIdentifier hij ht (Lexeme.isIdentifier_of_isWordOf hword)

lemma next_of_isMark (h : Lockstep σ R s s') (hij : R i j) {t : Token} (ht : s.get? i = some t)
    {m : String} (hmark : t.isMark m = true) : R (i + 1) (j + 1) := by
  apply h.next_of_kind hij ht
  rw [(Lexeme.isMark_eq_true.mp hmark).1]
  decide

lemma next_of_hasMark (h : Lockstep σ R s s') (hij : R i j) {m : String}
    (hmark : s.hasMark i m = true) : R (i + 1) (j + 1) := by
  rw [hasMark_eq_any, Option.any_eq_true] at hmark
  obtain ⟨t, ht, hmark⟩ := hmark
  exact h.next_of_isMark hij ht hmark

lemma token (h : Lockstep σ R s s') (hij : R i j) :
    σ.Agree (fun t t' => s.get? i = some t ∧ s'.get? j = some t' ∧ t.Alike σ 0 0 t')
      (s.token i) (s'.token j) := by
  unfold Stream.token
  rcases h.get_cases hij with ⟨hi, hj⟩ | ⟨t, t', ht, ht', halike⟩
  · rw [hi, hj]
    exact .noToken
  · rw [ht, ht']
    exact ⟨rfl, rfl, halike⟩

/-- The bracket at corresponding places is closed at corresponding places, and both streams go on
after it. -/
theorem closer (h : Lockstep σ R s s') (hij : R i j) :
    σ.Agree (fun c c' => R c c' ∧ R (c + 1) (c' + 1) ∧ i < c ∧ j < c') (s.closer i)
      (s'.closer j) := by
  have hrole := h.role i j hij
  by_cases hopener : ∃ c, s.roles[i]? = some (.opener c)
  · obtain ⟨c, hc⟩ := hopener
    rw [hc] at hrole
    obtain ⟨r, hr, hrr⟩ := exists_of_rel_some hrole
    cases hrr with
    | @opener c c' hcc =>
      have hclose := closer_eq_ok_iff.mpr hc
      have hclose' := closer_eq_ok_iff.mpr hr
      obtain ⟨hic, hcs⟩ := h.nested.lt_closer hclose
      obtain ⟨hjc, hcs'⟩ := h.nested'.lt_closer hclose'
      have hcloses := h.nested.isSome_closes? hclose (get?_of_lt (hic.trans hcs)) (get?_of_lt hcs)
      have hkind : s.tokens[c].kind ≠ .operator := by
        rw [Lexeme.kind_of_closes? hcloses]
        decide
      exact Agree.of_ok hclose hclose' ⟨hcc, h.next_of_kind hcc (get?_of_lt hcs) hkind, hic, hjc⟩
  · have hopener' : ∀ c, s'.roles[j]? ≠ some (.opener c) := by
      intro c hc
      rw [hc] at hrole
      cases hr : s.roles[i]? with
      | none =>
        rw [hr] at hrole
        cases hrole
      | some r =>
        rw [hr] at hrole
        cases hrole with
        | some hrr =>
          cases hrr
          exact hopener ⟨_, hr⟩
    rw [closer_eq_bind fun c hc => hopener ⟨c, hc⟩, closer_eq_bind hopener']
    apply Agree.bind (h.token hij)
    rintro t t' ⟨-, -, halike⟩
    exact .source _ halike.place

/-! ### Names and supertypes -/

theorem dotted (h : Lockstep σ R s s') (hij : R i j) {t : Token} (ht : s.get? i = some t)
    (hident : t.isIdentifier = true) :
    σ.Agree (fun x y => x.1 = y.1 ∧ R x.2 y.2 ∧ i < x.2) (s.dotted i) (s'.dotted j) := by
  obtain ⟨t', ht', halike⟩ := h.exists_get hij ht
  have hnext : ∀ x y u, R x y → s.get? x = some u → (u.isMark "." || u.isIdentifier) = true →
      R (x + 1) (y + 1) := by
    intro x y u hxy hu hname
    rcases Bool.or_eq_true_iff.mp hname with hdot | hname
    · exact h.next_of_isMark hxy hu hdot
    · exact h.next_of_isIdentifier hxy hu hname
  obtain ⟨htail, hend⟩ := @dottedTail_eq _ _ _ _ _ R h.get hnext s.size s'.size _ _
    (h.next_of_isIdentifier hij ht hident) (by omega) (by omega)
  rw [dotted_of_get? ht, dotted_of_get? ht', ← htail, ← halike.text_of_isIdentifier hident]
  exact ⟨rfl, hend, by simp only; omega⟩

lemma skipGroupsFrom (h : Lockstep σ R s s') {fuel fuel' : Nat} (hij : R i j)
    (hfuel : s.size ≤ fuel + i) (hfuel' : s'.size ≤ fuel' + j) :
    σ.Agree (fun a b => R a b ∧ i ≤ a) (s.skipGroupsFrom fuel i) (s'.skipGroupsFrom fuel' j) := by
  induction fuel generalizing fuel' i j with
  | zero =>
    have hi : s.get? i = none := get?_eq_none (by omega)
    rw [skipGroupsFrom_of_none hi, skipGroupsFrom_of_none (h.get_none hij hi)]
    exact ⟨hij, le_refl i⟩
  | succ fuel ih =>
    rcases h.get_cases hij with ⟨hi, hj⟩ | ⟨t, t', ht, ht', halike⟩
    · rw [skipGroupsFrom_of_none hi, skipGroupsFrom_of_none hj]
      exact ⟨hij, le_refl i⟩
    · obtain ⟨fuel', rfl⟩ := exists_fuel ht' hfuel'
      rw [Stream.skipGroupsFrom, Stream.skipGroupsFrom, ht, ht']
      simp only [← halike.isMark]
      by_cases hgroup : (t.isMark "[" || t.isMark "(") = true
      · rw [if_pos hgroup, if_pos hgroup]
        apply Agree.bind (h.closer hij)
        rintro c c' ⟨-, hnext, hic, hjc⟩
        apply Agree.imp (ih hnext (by omega) (by omega))
        rintro a b ⟨hab, hle⟩
        exact ⟨hab, by omega⟩
      · rw [if_neg hgroup, if_neg hgroup]
        exact ⟨hij, le_refl i⟩

lemma skipGroups (h : Lockstep σ R s s') (hij : R i j) :
    σ.Agree (fun a b => R a b ∧ i ≤ a) (s.skipGroups i) (s'.skipGroups j) :=
  h.skipGroupsFrom hij (by omega) (by omega)

lemma supertypesFrom (h : Lockstep σ R s s') {fuel fuel' : Nat} (hij : R i j)
    (hfuel : s.size ≤ fuel + i) (hfuel' : s'.size ≤ fuel' + j) :
    σ.Agree (fun x y => x.1 = y.1 ∧ R x.2 y.2 ∧ i ≤ x.2) (s.supertypesFrom fuel i)
      (s'.supertypesFrom fuel' j) := by
  induction fuel generalizing fuel' i j with
  | zero =>
    have hi : s.get? i = none := get?_eq_none (by omega)
    rw [supertypesFrom_of_none hi, supertypesFrom_of_none (h.get_none hij hi)]
    exact ⟨rfl, hij, le_refl i⟩
  | succ fuel ih =>
    rcases h.get_cases hij with ⟨hi, hj⟩ | ⟨t, t', ht, ht', halike⟩
    · rw [supertypesFrom_of_none hi, supertypesFrom_of_none hj]
      exact ⟨rfl, hij, le_refl i⟩
    · obtain ⟨fuel', rfl⟩ := exists_fuel ht' hfuel'
      rw [Stream.supertypesFrom, Stream.supertypesFrom, ht, ht']
      simp only [← halike.isIdentifier]
      by_cases hident : t.isIdentifier = true
      · rw [if_pos hident, if_pos hident]
        apply Agree.bind (h.dotted hij ht hident)
        rintro ⟨name, next⟩ ⟨_, next'⟩ ⟨rfl, hnext, hlt⟩
        apply Agree.bind (h.skipGroups hnext)
        rintro k l ⟨hkl, hle⟩
        have hik : i < k := lt_of_lt_of_le hlt hle
        have hjl : j < l := (h.inOrder _ _ _ _ hij hkl).mp hik
        rcases h.get_cases hkl with ⟨hk, hl⟩ | ⟨word, word', hw, hw', hword⟩
        · rw [hk, hl]
          exact ⟨rfl, hkl, le_of_lt hik⟩
        · rw [hw, hw']
          simp only [← hword.isWord]
          by_cases hwith : word.isWord "with" = true
          · rw [if_pos hwith, if_pos hwith]
            apply Agree.bind (ih (h.next_of_isWord hkl hw hwith) (by omega) (by omega))
            rintro ⟨names, after⟩ ⟨_, after'⟩ ⟨rfl, hafter, hle'⟩
            exact ⟨rfl, hafter, by simp only at hle' ⊢; omega⟩
          · rw [if_neg hwith, if_neg hwith]
            exact ⟨rfl, hkl, le_of_lt hik⟩
      · rw [if_neg hident, if_neg hident]
        exact ⟨rfl, hij, le_refl i⟩

theorem supertypes (h : Lockstep σ R s s') (hij : R i j) :
    σ.Agree (fun x y => x.1 = y.1 ∧ R x.2 y.2 ∧ i ≤ x.2) (s.supertypes i) (s'.supertypes j) := by
  unfold Stream.supertypes
  apply Agree.bind (h.skipGroups hij)
  rintro k l ⟨hkl, hle⟩
  rcases h.get_cases hkl with ⟨hk, hl⟩ | ⟨word, word', hw, hw', hword⟩
  · rw [hk, hl]
    exact ⟨rfl, hkl, hle⟩
  · rw [hw, hw']
    simp only [← hword.isWord]
    by_cases hextends : word.isWord "extends" = true
    · rw [if_pos hextends, if_pos hextends]
      apply Agree.imp (h.supertypesFrom (h.next_of_isWord hkl hw hextends) (by omega) (by omega))
      rintro x y ⟨hxy, hnext, hle'⟩
      exact ⟨hxy, hnext, by omega⟩
    · rw [if_neg hextends, if_neg hextends]
      exact ⟨rfl, hkl, hle⟩

/-! ### Types -/

lemma argumentAt? (h : Lockstep σ R s s') (hij : R i j) :
    σ.Agree Eq (TypeFact.argumentAt? s i) (TypeFact.argumentAt? s' j) := by
  by_cases hbracket : s.hasMark i "[" = true
  · have hnext := h.next_of_hasMark hij hbracket
    rw [TypeFact.argumentAt?_of_bracket hbracket,
      TypeFact.argumentAt?_of_bracket (by rwa [← h.hasMark hij])]
    rcases h.get_cases hnext with ⟨hi, hj⟩ | ⟨first, first', hf, hf', hfirst⟩
    · rw [hi, hj]
      rfl
    · rw [hf, hf']
      simp only [← hfirst.isIdentifier]
      by_cases hident : first.isIdentifier = true
      · rw [if_pos hident, if_pos hident]
        apply Agree.bind (h.dotted hnext hf hident)
        rintro ⟨name, next⟩ ⟨_, next'⟩ ⟨rfl, -, -⟩
        rfl
      · rw [if_neg hident, if_neg hident]
        rfl
  · rw [Bool.not_eq_true] at hbracket
    rw [TypeFact.argumentAt?_of_not_bracket hbracket,
      TypeFact.argumentAt?_of_not_bracket (by rwa [← h.hasMark hij])]
    rfl

lemma declaredAt? (h : Lockstep σ R s s') (hij : R i j) {keyword keyword' : Token}
    (htext : keyword.text = keyword'.text) :
    σ.Agree Eq (TypeFact.declaredAt? s keyword i) (TypeFact.declaredAt? s' keyword' j) := by
  unfold TypeFact.declaredAt?
  rcases h.get_cases hij with ⟨hi, hj⟩ | ⟨name, name', hn, hn', hname⟩
  · rw [hi, hj]
    rfl
  · rw [hn, hn']
    simp only [← hname.isIdentifier]
    by_cases hident : name.isIdentifier = true
    · rw [if_pos hident, if_pos hident]
      apply Agree.bind (h.supertypes (h.next_of_isIdentifier hij hn hident))
      rintro ⟨supers, next⟩ ⟨_, next'⟩ ⟨rfl, -, -⟩
      rw [htext, hname.text_of_isIdentifier hident]
      rfl
    · rw [if_neg hident, if_neg hident]
      rfl

theorem typeFactAt? (h : Lockstep σ R s s') (hij : R i j) :
    σ.Agree Eq (TypeFact.at? s i) (TypeFact.at? s' j) := by
  unfold TypeFact.at?
  apply Agree.bind (h.token hij)
  rintro t t' ⟨ht, -, halike⟩
  rw [← halike.isWordOf, ← halike.isWordOf]
  by_cases hmachine : t.isWordOf machineTypes = true
  · rw [if_pos hmachine, if_pos hmachine]
    exact h.argumentAt? (h.next_of_isWordOf hij ht hmachine)
  · rw [if_neg hmachine, if_neg hmachine]
    by_cases hdecl : t.isWordOf ["trait", "class", "object"] = true
    · rw [if_pos hdecl, if_pos hdecl]
      exact h.declaredAt? (h.next_of_isWordOf hij ht hdecl)
        (halike.text_of_isIdentifier (Lexeme.isIdentifier_of_isWordOf hdecl))
    · rw [if_neg hdecl, if_neg hdecl]
      rfl

end Lockstep

end Stream

end ActorDiagram
