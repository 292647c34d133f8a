import Mathlib
import ActorDiagram.Proofs.LockstepScan

/-!
# Helpers in lockstep

Helper functions are collected alike in two streams in lockstep, when their bodies are read alike.
-/

namespace ActorDiagram

namespace Helper

/-- Helper of this name whose `def` is at `i`, if it has a body. -/
def at? (s : Stream) (states : StateIndex) (i : Nat) (name : Token) :
    Except Error (Option Helper) := do
  match ← body? s i with
  | none => .ok none
  | some (start, stop) =>
    let bound ← parameters s i
    let branches ← Body.branches s states start stop bound
    .ok (some ⟨name.text, branches, name.line⟩)

lemma collect_cons (s : Stream) (states : StateIndex) (known : List Helper) (i : Nat)
    (is : List Nat) :
    collect s states known (i :: is) = (match nameAt? s i with
      | none => collect s states known is
      | some name =>
        if known.any (·.name == name.text) then collect s states known is
        else do
          match ← at? s states i name with
          | none => collect s states known is
          | some f => collect s states (known ++ [f]) is) := by
  rw [collect]
  cases nameAt? s i with
  | none => rfl
  | some name =>
    simp only
    split_ifs
    · rfl
    · unfold at?
      cases body? s i with
      | error e => rfl
      | ok body =>
        cases body with
        | none => rfl
        | some p =>
          obtain ⟨start, stop⟩ := p
          simp only [Bind.bind, Except.bind]
          cases parameters s i with
          | error e => rfl
          | ok bound =>
            simp only
            cases Body.branches s states start stop bound <;> rfl

lemma collect_append (s : Stream) (states : StateIndex) (known : List Helper) (is js : List Nat) :
    collect s states known (is ++ js) =
      (do
        let known ← collect s states known is
        collect s states known js) := by
  induction is generalizing known with
  | nil => rfl
  | cons i is ih =>
    rw [List.cons_append, collect_cons, collect_cons]
    cases nameAt? s i with
    | none => exact ih known
    | some name =>
      simp only
      split_ifs
      · exact ih known
      · cases at? s states i name with
        | error e => rfl
        | ok f =>
          cases f with
          | none => exact ih known
          | some f => exact ih _

lemma collect_of_no_name {s : Stream} {is : List Nat} (h : ∀ i ∈ is, nameAt? s i = none)
    (states : StateIndex) (known : List Helper) :
    collect s states known is = .ok known := by
  induction is with
  | nil => rfl
  | cons i is ih =>
    rw [collect_cons, h i List.mem_cons_self]
    exact ih fun i' hi' => h i' (List.mem_cons_of_mem _ hi')

/-- A body stands behind the head of its function, which goes past all that stands before the
body. -/
lemma exists_headEnd {s : Stream} (hs : s.Nested) {i : Nat} {name : Token}
    (hn : nameAt? s i = some name) {p : Nat × Nat} (h : body? s i = .ok (some p)) :
    ∃ e m word, headEndFrom s word.depth s.size (i + 2) = .ok e ∧ e.index? = some m ∧
      (∀ k, i + 2 ≤ k → k < m → inHead s i k = true) ∧ s.get? i = some word ∧ i + 2 ≤ m ∧
      bodyFrom s word.depth e = .ok (some p) ∧ ∃ u, s.get? m = some u ∧ word.depth ≤ u.depth ∧
        (u.isMark leftBrace || u.isOperator "=") = true := by
  rw [body?_eq] at h
  obtain ⟨word, hw, h⟩ := bind_eq_ok_iff.mp h
  obtain ⟨e, he, h⟩ := bind_eq_ok_iff.mp h
  obtain ⟨m, hm, -⟩ := bodyFrom_cases h
  rw [Stream.token_eq_ok_iff] at hw
  obtain ⟨hspans, hend⟩ := spans_of_headEndFrom hs (deep_of_nameAt? hs hw hn) he hm
  refine ⟨e, m, word, he, hm, ?_, hw, le_of_headEndFrom hs he hm, h, hend⟩
  intro k hik hkm
  exact inHead_of_headSpans hw hik (hspans k hkm)

variable {σ : Likeness} {s s' : Stream} {states states' : StateIndex}

/-- Functions of one name that become alike helpers. -/
def SameAt (σ : Likeness) (s s' : Stream) (states states' : StateIndex) (i j : Nat) : Prop :=
  Option.Rel (fun t t' => t.text = t'.text ∧
    σ.Agree (Option.Rel (Helper.Alike σ)) (at? s states i t) (at? s' states' j t'))
    (nameAt? s i) (nameAt? s' j)

theorem collect_agree {is js : List Nat}
    (h : List.Forall₂ (SameAt σ s s' states states') is js) {known known' : List Helper}
    (hknown : List.Forall₂ (Helper.Alike σ) known known') :
    σ.Agree (List.Forall₂ (Helper.Alike σ)) (collect s states known is)
      (collect s' states' known' js) := by
  induction h generalizing known known' with
  | nil => exact hknown
  | @cons i j is js hij _ ih =>
    rw [collect_cons, collect_cons]
    unfold SameAt at hij
    cases hn : nameAt? s i with
    | none =>
      rw [hn] at hij
      rw [eq_none_of_rel_none hij]
      exact ih hknown
    | some name =>
      rw [hn] at hij
      obtain ⟨name', hn', htext, hat⟩ := exists_of_rel_some hij
      have hany : known.any (·.name == name.text) = known'.any (·.name == name'.text) := by
        have hmap := map_eq_of_forall₂ hknown fun f f' hf => hf.name
        have hnames := congrArg (fun l => l.any (· == name.text)) hmap
        rw [List.any_map, List.any_map, htext] at hnames
        rw [htext]
        exact hnames
      rw [hn']
      simp only [hany]
      split_ifs
      · exact ih hknown
      · apply Agree.bind hat
        intro f f' hf
        cases hf with
        | none => exact ih hknown
        | some hf => exact ih (List.rel_append hknown (.cons hf .nil))

end Helper

namespace Stream.Lockstep

variable {σ : Likeness} {R : Nat → Nat → Prop} {s s' : Stream} {states states' : StateIndex}
  {i j : Nat}

/-- Parameters are read alike when the lists before the end of the head are. -/
theorem parametersFrom (h : Lockstep σ R s s') {depth m fuel fuel' : Nat} {e : Helper.HeadEnd}
    (hij : R i j) (hfuel : s.size ≤ fuel + i) (hfuel' : s'.size ≤ fuel' + j)
    (he : Helper.headEndFrom s depth fuel i = .ok e) (hm : e.index? = some m)
    (hnames : ∀ k l c c', i ≤ k → c < m → R k l → R (k + 1) (l + 1) → R c c' →
      s.closer k = .ok c → s'.closer l = .ok c' →
      σ.Agree Eq (Pattern.boundNames s (k + 1) c) (Pattern.boundNames s' (l + 1) c'))
    (names : List String) :
    σ.Agree Eq (Helper.parametersFrom s names fuel i) (Helper.parametersFrom s' names fuel' j) := by
  induction fuel generalizing fuel' i j names with
  | zero =>
    cases he
    cases hm
  | succ fuel ih =>
    cases ht : s.get? i with
    | none =>
      rw [Helper.headEndFrom_of_none ht] at he
      cases he
      cases hm
    | some t =>
      obtain ⟨t', ht', halike⟩ := h.exists_get hij ht
      obtain ⟨fuel', rfl⟩ := exists_fuel ht' hfuel'
      rw [Helper.headEndFrom, ht] at he
      rw [Helper.parametersFrom, Helper.parametersFrom, ht, ht']
      simp only [← halike.isMark] at he ⊢
      -- A list of parameters of either kind is followed by the rest of the head.
      have hclose : (t.isMark "(" || t.isMark "[") = true → ∃ c c', s.closer i = .ok c ∧
          s'.closer j = .ok c' ∧ R c c' ∧ c < m ∧ ∀ names,
          σ.Agree Eq (Helper.parametersFrom s names fuel (c + 1))
            (Helper.parametersFrom s' names fuel' (c' + 1)) := by
        intro hgroup
        rw [if_pos hgroup] at he
        obtain ⟨c, hc, he⟩ := bind_eq_ok_iff.mp he
        rcases Agree.cases (h.closer hij) with
          ⟨c₁, c', hc₁, hc', hcc, hnext, hic, hjc⟩ | ⟨f, f', hf, -, -⟩
        · rw [hc] at hc₁
          cases hc₁
          refine ⟨c, c', hc, hc', hcc, Helper.le_of_headEndFrom h.nested he hm, ?_⟩
          intro names
          refine ih hnext (by omega) (by omega) he ?_ names
          intro k l d d' hk
          exact hnames k l d d' (by omega)
        · rw [hc] at hf
          cases hf
      by_cases hparen : t.isMark "(" = true
      · obtain ⟨c, c', hc, hc', hcc, hcm, hrest⟩ := hclose (by rw [hparen, Bool.true_or])
        rw [if_pos hparen, if_pos hparen, hc, hc']
        apply Agree.bind
          (hnames i j c c' (le_refl i) hcm hij (h.next_of_isMark hij ht hparen) hcc hc hc')
        rintro more _ rfl
        exact hrest _
      · rw [if_neg hparen, if_neg hparen]
        by_cases hbracket : t.isMark "[" = true
        · obtain ⟨c, c', hc, hc', -, -, hrest⟩ := hclose (by rw [hbracket, Bool.or_true])
          rw [if_pos hbracket, if_pos hbracket, hc, hc']
          exact hrest _
        · rw [if_neg hbracket, if_neg hbracket]
          rfl

/-- Helpers are alike when their parameters and bodies are read alike. -/
theorem helperAt? (h : Lockstep σ R s s') (hname : R (i + 2) (j + 2)) {name name' : Token}
    (hn : Helper.nameAt? s i = some name) (htext : name.text = name'.text)
    (hbody : σ.Agree (Option.Rel (Helper.BodyAlike R s)) (Helper.body? s i) (Helper.body? s' j))
    (hnames : ∀ k l c c', i + 2 ≤ k → (∀ a, k ≤ a → a < c → Helper.inHead s i a = true) →
      R k l → R (k + 1) (l + 1) → R c c' → s.closer k = .ok c → s'.closer l = .ok c' →
      σ.Agree Eq (Pattern.boundNames s (k + 1) c) (Pattern.boundNames s' (l + 1) c'))
    (hread : ∀ p q bound, Helper.body? s i = .ok (some p) → Helper.body? s' j = .ok (some q) →
      σ.Agree (List.Forall₂ (Branch.Alike σ)) (Body.branches s states p.1 p.2 bound)
        (Body.branches s' states' q.1 q.2 bound)) :
    σ.Agree (Option.Rel (Helper.Alike σ)) (Helper.at? s states i name)
      (Helper.at? s' states' j name') := by
  unfold Helper.at?
  rcases Agree.cases hbody with ⟨x, y, hx, hy, hxy⟩ | ⟨e, e', hx, hy, he⟩
  · rw [hx, hy]
    cases hxy with
    | none => exact .none
    | @some p q hpq =>
      obtain ⟨e, m, word, he, hm, hspans, -⟩ := Helper.exists_headEnd h.nested hn hx
      have hparameters : σ.Agree Eq (Helper.parameters s i) (Helper.parameters s' j) := by
        refine h.parametersFrom hname (by omega) (by omega) he hm ?_ []
        intro k l c c' hk hc
        exact hnames k l c c' hk fun a hka hac => hspans a (by omega) (by omega)
      obtain ⟨start, stop⟩ := p
      obtain ⟨start', stop'⟩ := q
      apply Agree.bind hparameters
      rintro bound _ rfl
      apply Agree.bind (hread _ _ bound hx hy)
      intro bs bs' hbs
      exact .some ⟨htext, hbs⟩
  · rw [hx, hy]
    exact he

end Stream.Lockstep

end ActorDiagram
