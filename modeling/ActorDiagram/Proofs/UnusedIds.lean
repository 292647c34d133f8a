import Mathlib
import ActorDiagram.Mermaid.Ident

/-!
# Unused ids

An id that is taken already gets the least number that makes it free. The search for it comes to an end by
itself, after no more candidates than there are used ids and one. Ids that are claimed one after the other
are apart.
-/

namespace ActorDiagram.Mermaid

/-- What the search for an unused id tries, in order: the base, and then its numbers from 2 on. -/
def candidate (base : String) : Nat → String
  | 0 => base
  | k + 1 => numbered base (k + 2)

/-- The id that is claimed for a base: the base itself or the base with its least free number, which is
the first of the candidates that is not used. -/
structure Claimed (base : String) (used : List String) (id : String) : Prop where
  bare : base ∉ used → id = base
  least : base ∈ used → ∃ n, IsLeast {n | 2 ≤ n ∧ numbered base n ∉ used} n ∧ id = numbered base n
  tried : ∃ k, IsLeast {k | candidate base k ∉ used} k ∧ k ≤ used.toFinset.card ∧ id = candidate base k

/-- Ids claimed for these bases one after the other, and the ids that are used then. -/
def claimAll : List String → List String → List String × List String
  | [], used => ([], used)
  | base :: bases, used =>
    let (id, used) := claimId base used
    let (ids, used) := claimAll bases used
    (id :: ids, used)

variable {base : String} {used : List String}

/-! ### Candidates -/

lemma toList_numbered (base : String) (n : Nat) :
    (numbered base n).toList = base.toList ++ '_' :: Nat.toDigits 10 n := by
  simp [numbered, String.toList_append]

lemma numbered_injective (base : String) : Function.Injective (numbered base) := by
  intro m n h
  have hlists := congrArg String.toList h
  rw [toList_numbered, toList_numbered] at hlists
  have hdigits : Nat.toDigits 10 m = Nat.toDigits 10 n := by
    simpa using List.append_cancel_left hlists
  simpa using congrArg (fun digits => Nat.ofDigitChars 10 digits 0) hdigits

lemma numbered_ne (base : String) (n : Nat) : numbered base n ≠ base := by
  intro h
  have hlengths := congrArg (fun id => id.toList.length) h
  simp only [toList_numbered, List.length_append, List.length_cons] at hlengths
  omega

lemma candidate_injective (base : String) : Function.Injective (candidate base) := by
  intro j k h
  cases j with
  | zero =>
    cases k with
    | zero => rfl
    | succ k => exact absurd h.symm (numbered_ne base _)
  | succ j =>
    cases k with
    | zero => exact absurd h (numbered_ne base _)
    | succ k =>
      have := numbered_injective base h
      omega

/-- There are no more different ids in a list than it has. -/
lemma le_card_of_injective {f : Nat → String} (hf : Function.Injective f) {k : Nat}
    (h : ∀ j < k, f j ∈ used) : k ≤ used.toFinset.card := by
  have hsub : (Finset.range k).image f ⊆ used.toFinset := by
    intro id hid
    obtain ⟨j, hj, rfl⟩ := Finset.mem_image.mp hid
    exact List.mem_toFinset.mpr (h j (Finset.mem_range.mp hj))
  have hcard := Finset.card_le_card hsub
  rwa [Finset.card_image_of_injective _ hf, Finset.card_range] at hcard

/-! ### The search -/

/-- The search passes used numbers until it stops, at a free one or for want of fuel. -/
lemma exists_freeFrom (base : String) (used : List String) (fuel n : Nat) :
    ∃ m, n ≤ m ∧ freeFrom base used fuel n = numbered base m ∧
      (∀ k, n ≤ k → k < m → numbered base k ∈ used) ∧ (numbered base m ∈ used → m = n + fuel) := by
  induction fuel generalizing n with
  | zero => exact ⟨n, le_refl n, rfl, fun k hk hlt => by omega, fun _ => rfl⟩
  | succ fuel ih =>
    unfold freeFrom
    by_cases hn : numbered base n ∈ used
    · obtain ⟨m, hm, heq, hused, hstop⟩ := ih (n + 1)
      rw [if_pos (by simpa using hn)]
      refine ⟨m, by omega, heq, fun k hk hlt => ?_, fun h => by have := hstop h; omega⟩
      rcases hk.eq_or_lt with rfl | hlt'
      · exact hn
      · exact hused k hlt' hlt
    · rw [if_neg (by simpa using hn)]
      exact ⟨n, le_refl n, rfl, fun k hk hlt => by omega, fun h => absurd h hn⟩

/-- With as much fuel as there are used ids, the search stops at the least free number. -/
lemma exists_freeFrom_least (base : String) {fuel : Nat} (n : Nat) (hfuel : used.length ≤ fuel) :
    ∃ m, IsLeast {m | n ≤ m ∧ numbered base m ∉ used} m ∧ freeFrom base used fuel n = numbered base m := by
  obtain ⟨m, hm, heq, hused, hstop⟩ := exists_freeFrom base used fuel n
  have hfree : numbered base m ∉ used := by
    intro hmem
    -- all numbers tried are used, and there is one more of them than used ids
    have hall : ∀ j < fuel + 1, numbered base (n + j) ∈ used := by
      intro j hj
      have := hstop hmem
      rcases Nat.lt_or_ge (n + j) m with hlt | hge
      · exact hused (n + j) (by omega) hlt
      · rwa [show n + j = m by omega]
    have hinjective : Function.Injective fun j => numbered base (n + j) := by
      intro j k h
      have := numbered_injective base h
      omega
    have hcard := le_card_of_injective hinjective hall
    have := used.toFinset_card_le
    omega
  refine ⟨m, ⟨⟨hm, hfree⟩, fun k hk => ?_⟩, heq⟩
  by_contra hlt
  exact hk.2 (hused k hk.1 (by omega))

/-- More fuel makes no difference: the search ends by itself. -/
lemma freeFrom_of_le (base : String) {fuel : Nat} (n : Nat) (hfuel : used.length ≤ fuel) :
    freeFrom base used fuel n = freeFrom base used used.length n := by
  obtain ⟨m, hm, heq⟩ := exists_freeFrom_least base n hfuel
  obtain ⟨m', hm', heq'⟩ := exists_freeFrom_least base n (le_refl used.length)
  rw [heq, heq', hm.unique hm']

/-! ### Claims -/

/-- The id claimed is the first candidate that is not used. -/
theorem claimed_freeId (base : String) (used : List String) : Claimed base used (freeId base used) := by
  unfold freeId
  by_cases hbase : base ∈ used
  · rw [if_pos (by simpa using hbase)]
    obtain ⟨n, hn, heq⟩ := exists_freeFrom_least base 2 (le_refl used.length)
    obtain ⟨k, rfl⟩ : ∃ k, n = k + 2 := ⟨n - 2, by have := hn.1.1; omega⟩
    have hused : ∀ j < k + 1, candidate base j ∈ used := by
      intro j hj
      cases j with
      | zero => exact hbase
      | succ j =>
        by_contra hfree
        have := hn.2 ⟨Nat.le_add_left 2 j, hfree⟩
        omega
    refine ⟨fun hno => absurd hbase hno, fun _ => ⟨k + 2, hn, heq⟩, k + 1, ⟨hn.1.2, fun j hj => ?_⟩,
      le_card_of_injective (candidate_injective base) hused, heq⟩
    by_contra hlt
    exact hj (hused j (by omega))
  · rw [if_neg (by simpa using hbase)]
    exact ⟨fun _ => rfl, fun h => absurd h hbase, 0, ⟨hbase, fun k _ => Nat.zero_le k⟩, Nat.zero_le _, rfl⟩

lemma Claimed.cases {id : String} (h : Claimed base used id) : id = base ∨ ∃ n, id = numbered base n := by
  obtain ⟨k, -, -, rfl⟩ := h.tried
  cases k with
  | zero => exact .inl rfl
  | succ k => exact .inr ⟨_, rfl⟩

lemma Claimed.notMem {id : String} (h : Claimed base used id) : id ∉ used := by
  obtain ⟨k, hk, -, rfl⟩ := h.tried
  exact hk.1

theorem freeId_notMem (base : String) (used : List String) : freeId base used ∉ used :=
  (claimed_freeId base used).notMem

lemma mem_claimId {id : String} :
    id ∈ (claimId base used).2 ↔ id = (claimId base used).1 ∨ id ∈ used :=
  List.mem_cons

/-- Each claim of a sequence is made against the ids used at the start and those claimed before. -/
lemma claimAll_apart (bases used : List String) : (claimAll bases used).1.Nodup ∧
    (∀ id ∈ (claimAll bases used).1, id ∉ used) ∧
      ∀ id, id ∈ (claimAll bases used).2 ↔ id ∈ (claimAll bases used).1 ∨ id ∈ used := by
  induction bases generalizing used with
  | nil => simp [claimAll]
  | cons base bases ih =>
    obtain ⟨hnodup, hnew, hmem⟩ := ih (claimId base used).2
    have hfree : (claimId base used).1 ∉ used := freeId_notMem base used
    simp only [mem_claimId, not_or] at hnew hmem
    refine ⟨List.nodup_cons.mpr ⟨fun h => (hnew _ h).1 rfl, hnodup⟩,
      List.forall_mem_cons.mpr ⟨hfree, fun id hid => (hnew id hid).2⟩, fun id => ?_⟩
    rw [show (claimAll (base :: bases) used).2 = (claimAll bases (claimId base used).2).2 from rfl, hmem,
      show (claimAll (base :: bases) used).1 =
        (claimId base used).1 :: (claimAll bases (claimId base used).2).1 from rfl, List.mem_cons,
      or_left_comm, or_assoc]

lemma length_claimAll (bases used : List String) : (claimAll bases used).1.length = bases.length := by
  induction bases generalizing used with
  | nil => rfl
  | cons base bases ih => exact congrArg Nat.succ (ih (claimId base used).2)

/-- An id is claimed by the least number that makes it free, with no more candidates tried than there are
used ids and one, and it is all that is added to these. Whatever ids are asked for one after the other,
also such that look like numbered ones, those that are claimed are apart and none was used before. -/
theorem claims_apart (used : List String) :
    (∀ base, Claimed base used (claimId base used).1 ∧
      (∀ id, id ∈ (claimId base used).2 ↔ id = (claimId base used).1 ∨ id ∈ used) ∧
      ∀ fuel, used.length ≤ fuel → freeFrom base used fuel 2 = freeFrom base used used.length 2) ∧
    ∀ bases, (claimAll bases used).1.length = bases.length ∧ (claimAll bases used).1.Nodup ∧
      (∀ id ∈ (claimAll bases used).1, id ∉ used) ∧
        ∀ id, id ∈ (claimAll bases used).2 ↔ id ∈ (claimAll bases used).1 ∨ id ∈ used := by
  refine ⟨fun base => ⟨claimed_freeId base used, fun _ => mem_claimId, fun _ => freeFrom_of_le base 2⟩, ?_⟩
  exact fun bases => ⟨length_claimAll bases used, claimAll_apart bases used⟩

theorem claims_apart_of_numbered_bases :
    Claimed "A" ["A", "A_2"] "A_3" ∧ freeFrom "A" ["A", "A_2"] 9 2 = "A_3" ∧
      claimAll ["A", "A", "A_3"] ["A", "A_2"] = (["A_3", "A_4", "A_3_2"], ["A_3_2", "A_4", "A_3", "A", "A_2"]) ∧
      (claimAll ["A", "A", "A_3"] ["A", "A_2"]).1.Nodup := by
  obtain ⟨hone, hall⟩ := claims_apart ["A", "A_2"]
  obtain ⟨hclaimed, -, hfuel⟩ := hone "A"
  have hid : (claimId "A" ["A", "A_2"]).1 = "A_3" := by decide +kernel
  rw [hid] at hclaimed
  refine ⟨hclaimed, (hfuel 9 (by decide)).trans (by decide +kernel), by decide +kernel, ?_⟩
  exact (hall ["A", "A", "A_3"]).2.1

end ActorDiagram.Mermaid
