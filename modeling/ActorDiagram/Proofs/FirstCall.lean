import Mathlib
import ActorDiagram.Proofs.CallOrigin

/-!
# The first call of a range

A range without a directive gives the first name in it that is called. A string literal behind a name says
nothing against a call, so that the prefix of an interpolated string counts as one and hides all calls
behind it.
-/

namespace ActorDiagram.Directive

variable {s : Stream} {states : StateIndex} {bound : List String} {start mid stop k : Nat}
  {name : String} {t u : Token}

/-- No directive starts from `start` on before `mid`, in a range that ends before `stop`. -/
def NoDirective (s : Stream) (states : StateIndex) (stop start mid : Nat) : Prop :=
  ∀ i, start ≤ i → i < mid → at? s states i stop = .ok none

/-- The first token of a range that is called. Every word before it has a letter. -/
structure FirstCall (s : Stream) (bound : List String) (start stop k : Nat) (t : Token) : Prop where
  start_le : start ≤ k
  lt_stop : k < stop
  called : CalledAt s bound stop k t
  before : ∀ j, start ≤ j → j < k → ∃ u, s.get? j = some u ∧ (u.isIdentifier = true → u.text ≠ "") ∧
    ¬ CalledAt s bound stop j u

/-- A call is found where no directive is, at the first token that is called. -/
theorem find?_eq_call_iff : find? s states bound start stop = .ok (some (.call name)) ↔
    NoDirective s states stop start stop ∧ ∃ k t, FirstCall s bound start stop k t ∧ t.text = name := by
  rw [find?_eq_some_iff]
  constructor
  · rintro (⟨k, -, -, hk, -⟩ | ⟨hno, k, hk, hstop, hcall, hbefore⟩)
    · exact absurd (isDirective_of_at? hk) Bool.false_ne_true
    · obtain ⟨t, hcalled, hname⟩ := call?_eq_some_iff.mp hcall
      cases hname
      exact ⟨hno, k, t, ⟨hk, hstop, hcalled, fun j hj hjk => call?_eq_none_iff.mp (hbefore j hj hjk)⟩,
        rfl⟩
  · rintro ⟨hno, k, t, hfirst, rfl⟩
    exact .inr ⟨hno, k, hfirst.start_le, hfirst.lt_stop, call?_eq_some_iff.mpr ⟨t, hfirst.called, rfl⟩,
      fun j hj hjk => call?_eq_none_iff.mpr (hfirst.before j hj hjk)⟩

/-! ### Strings behind names -/

lemma denied_of_string (hu : s.get? (k + 1) = some u) (hstring : u.kind = .string) :
    denied s k stop = false := by
  rw [denied, hu, Option.any_some, Bool.and_eq_false_iff]
  right
  simp [deniesCall, Lexeme.isMark, Lexeme.isIdentifier, hstring]

/-- A name before a string literal is called like any other. -/
theorem calledAt_iff_of_string (ht : s.get? k = some t) (hu : s.get? (k + 1) = some u)
    (hstring : u.kind = .string) : CalledAt s bound stop k t ↔ t.isIdentifier = true ∧
      t.text.toList.head?.any Text.isLowerCase = true ∧ t.text ∉ wordsNotCalled ∧ t.text ∉ bound ∧
      introduced s k = false := by
  constructor
  · exact fun h => ⟨h.identifier, h.lower, h.free, h.unbound, h.notIntroduced⟩
  · rintro ⟨hident, hlower, hfree, hbound, hintroduced⟩
    exact ⟨ht, hident, hlower, hfree, hbound, hintroduced, denied_of_string hu hstring⟩

/-! ### Statements in front of a body -/

lemma FirstCall.eq_of_le {k' : Nat} {t' : Token} (h : FirstCall s bound start stop k t)
    (h' : FirstCall s bound start stop k' t') (hle : k ≤ k') : k = k' ∧ t = t' := by
  have hk : k = k' := by
    by_contra hne
    obtain ⟨u, hu, -, hno⟩ := h'.before k h.start_le (by omega)
    have hget := h.called.get
    rw [hu] at hget
    cases hget
    exact hno h.called
  subst hk
  have hget := h.called.get
  rw [h'.called.get] at hget
  cases hget
  exact ⟨rfl, rfl⟩

lemma exists_get?_of_at? {a : Option Action} (h : at? s states k stop = .ok a) : ∃ t, s.get? k = some t := by
  obtain ⟨t, ht, -⟩ := bind_eq_ok_iff.mp h
  exact ⟨t, Stream.token_eq_ok_iff.mp ht⟩

/-- The tokens in front of `mid` are read as words with letters, without a directive. -/
structure ReadsFront (s : Stream) (states : StateIndex) (stop start mid : Nat) : Prop where
  noDirective : NoDirective s states stop start mid
  words : ∀ j t, start ≤ j → j < mid → s.get? j = some t → t.isIdentifier = true → t.text ≠ ""

lemma ReadsFront.exists_token (h : ReadsFront s states stop start mid) {j : Nat} (hj : start ≤ j)
    (hmid : j < mid) : ∃ u, s.get? j = some u ∧ (u.isIdentifier = true → u.text ≠ "") := by
  obtain ⟨u, hu⟩ := exists_get?_of_at? (h.noDirective j hj hmid)
  exact ⟨u, hu, h.words j u hj hmid hu⟩

/-- The least index of a token in front that is called. -/
lemma ReadsFront.exists_firstCall (h : ReadsFront s states stop start mid) (hmid : mid ≤ stop)
    (hcalled : ∃ k, start ≤ k ∧ k < mid ∧ ∃ t, CalledAt s bound stop k t) :
    ∃ k t, FirstCall s bound start stop k t ∧ k < mid := by
  classical
  obtain ⟨hstart, hlt, t, ht⟩ := Nat.find_spec hcalled
  refine ⟨Nat.find hcalled, t, ⟨hstart, hlt.trans_le hmid, ht, fun j hj hjk => ?_⟩, hlt⟩
  obtain ⟨u, hu, hword⟩ := h.exists_token hj (hjk.trans hlt)
  exact ⟨u, hu, hword, fun hcall => Nat.find_min hcalled hjk ⟨hj, hjk.trans hlt, u, hcall⟩⟩

/-- A body that gives a call gives the same one with tokens in front of it, if the first name in them that
is called, if any, is the same. -/
theorem find?_prepended_iff (hmid : start ≤ mid) (hfront : ReadsFront s states stop start mid)
    (hbody : find? s states bound mid stop = .ok (some (.call name))) :
    find? s states bound start stop = .ok (some (.call name)) ↔
      ∀ k t, FirstCall s bound start stop k t → k < mid → t.text = name := by
  obtain ⟨hno, m, v, hfirst, hname⟩ := find?_eq_call_iff.mp hbody
  rw [find?_eq_call_iff]
  constructor
  · rintro ⟨-, k, t, hk, hkname⟩ k' t' hk' -
    rcases Nat.le_total k k' with hle | hle
    · rw [← (hk.eq_of_le hk' hle).2, hkname]
    · rw [(hk'.eq_of_le hk hle).2, hkname]
  · intro hsame
    have hall : NoDirective s states stop start stop := by
      intro i hi hstop
      rcases Nat.lt_or_ge i mid with hlt | hge
      · exact hfront.noDirective i hi hlt
      · exact hno i hge hstop
    refine ⟨hall, ?_⟩
    by_cases hcalled : ∃ k, start ≤ k ∧ k < mid ∧ ∃ t, CalledAt s bound stop k t
    · obtain ⟨k, t, hk, hlt⟩ := hfront.exists_firstCall (hfirst.start_le.trans hfirst.lt_stop.le) hcalled
      exact ⟨k, t, hk, hsame k t hk hlt⟩
    · -- Nothing in front is called: the first call is that of the body.
      refine ⟨m, v, ⟨hmid.trans hfirst.start_le, hfirst.lt_stop, hfirst.called, fun j hj hjm => ?_⟩, hname⟩
      rcases Nat.lt_or_ge j mid with hlt | hge
      · obtain ⟨u, hu, hword⟩ := hfront.exists_token hj hlt
        exact ⟨u, hu, hword, fun hcall => hcalled ⟨j, hj, hlt, u, hcall⟩⟩
      · exact hfirst.before j hge hjm

/-! ### All ranges -/

/-- How the call of a range is found. -/
structure FindsFirstCall (s : Stream) (states : StateIndex) (bound : List String) (start stop : Nat) :
    Prop where
  found : ∀ name, find? s states bound start stop = .ok (some (.call name)) ↔
    NoDirective s states stop start stop ∧ ∃ k t, FirstCall s bound start stop k t ∧ t.text = name
  /-- A name before a string literal is called like any other. -/
  beforeString : ∀ k t u, s.get? k = some t → s.get? (k + 1) = some u → u.kind = .string →
    (CalledAt s bound stop k t ↔ t.isIdentifier = true ∧ t.text.toList.head?.any Text.isLowerCase = true ∧
      t.text ∉ wordsNotCalled ∧ t.text ∉ bound ∧ introduced s k = false)
  /-- Tokens in front of a body leave its call, if they call nothing else first. -/
  prepended : ∀ mid name, start ≤ mid → ReadsFront s states stop start mid →
    find? s states bound mid stop = .ok (some (.call name)) →
      (find? s states bound start stop = .ok (some (.call name)) ↔
        ∀ k t, FirstCall s bound start stop k t → k < mid → t.text = name)

theorem findsFirstCall (s : Stream) (states : StateIndex) (bound : List String) (start stop : Nat) :
    FindsFirstCall s states bound start stop where
  found _ := find?_eq_call_iff
  beforeString _ _ _ ht hu hstring := calledAt_iff_of_string ht hu hstring
  prepended _ _ hmid hfront hbody := find?_prepended_iff hmid hfront hbody

/-- A report in an interpolated string, and a call. -/
def reportedCall : String := "log.info(s\"x\"); decide(G)"

set_option synthInstance.maxSize 2000 in
/-- The prefix of the string is the call that is found, and hides the one that the body gives. -/
theorem find?_reportedCall : ∃ s t u, Stream.ofText reportedCall = .ok s ∧ s.get? 4 = some t ∧
    t.isIdentifier = true ∧ t.text = "s" ∧ s.get? 5 = some u ∧ u.kind = .string ∧
    NoDirective s .empty s.size 0 s.size ∧ find? s .empty [] 8 s.size = .ok (some (.call "decide")) ∧
    find? s .empty [] 0 s.size = .ok (some (.call "s")) := by
  have hrun : (Stream.ofText reportedCall).map (fun s => (((s.get? 4).map fun t => (t.isIdentifier, t.text)),
      (s.get? 5).map (·.kind), (List.range s.size).all fun i => at? s .empty i s.size = .ok none,
      find? s .empty [] 8 s.size, find? s .empty [] 0 s.size)) =
      .ok (some (true, "s"), some .string, true, .ok (some (.call "decide")), .ok (some (.call "s"))) := by
    decide +kernel
  obtain ⟨s, h, hrun⟩ := map_eq_ok_iff.mp hrun
  simp only [Prod.mk.injEq, Option.map_eq_some_iff, List.all_eq_true, List.mem_range,
    decide_eq_true_eq] at hrun
  obtain ⟨⟨t, ht, hident, htext⟩, ⟨u, hu, hstring⟩, hno, hbody, hfind⟩ := hrun
  exact ⟨s, t, u, h, ht, hident, htext, hu, hstring, fun i _ hi => hno i hi, hbody, hfind⟩

end ActorDiagram.Directive
