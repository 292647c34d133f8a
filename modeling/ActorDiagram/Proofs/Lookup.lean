import Mathlib
import ActorDiagram.Proofs.Declared

/-!
# What a reference means

Ids of states and references to them are dotted names, and only their segments count. A reference that
is no id means the one id that ends in its segments, and names none of several. Where no id does, it means
the longest end of its own segments that is an id.
-/

namespace ActorDiagram

/-! ### Segments -/

/-- What stands between the dots of a name, in order. -/
def segments (name : String) : List String := (name.toList.splitOn '.').map String.ofList

/-- The last segments of a name are those of `tail`, with others before them. -/
def EndsIn (name tail : String) : Prop := segments tail <:+ segments name ∧ segments tail ≠ segments name

instance (name tail : String) : Decidable (EndsIn name tail) := inferInstanceAs (Decidable (_ ∧ _))

lemma segments_ne_nil (name : String) : segments name ≠ [] := by
  rw [segments, ne_eq, List.map_eq_nil_iff]
  exact List.splitOn_ne_nil '.' name.toList

lemma intercalate_segments (name : String) : ".".intercalate (segments name) = name := by
  have hmap : ((name.toList.splitOn '.').map String.ofList).map String.toList = name.toList.splitOn '.' := by
    rw [List.map_map]
    exact List.map_id'' (fun _ => String.toList_ofList) _
  rw [← String.toList_inj, String.toList_intercalate, segments, hmap]
  exact List.intercalate_splitOn '.'

lemma segments_dot (path name : String) : segments (path ++ "." ++ name) = segments path ++ segments name := by
  have hlist : (path ++ "." ++ name).toList = path.toList ++ '.' :: name.toList := by
    simp [String.toList_append]
  rw [segments, hlist, List.splitOn_append_cons_self, List.map_append]
  rfl

lemma segments_of_dotless {name : String} (h : '.' ∉ name.toList) : segments name = [name] := by
  rw [segments, List.splitOn_eq_singleton h, List.map_singleton, String.ofList_toList]

lemma endsIn_iff {name tail : String} : EndsIn name tail ↔ '.' :: tail.toList <:+ name.toList := by
  constructor
  · rintro ⟨⟨front, hfront⟩, hne⟩
    have hcons : front ≠ [] := by
      rintro rfl
      exact hne hfront
    have hname : name = ".".intercalate front ++ "." ++ tail := by
      rw [← intercalate_segments name, ← hfront,
        String.intercalate_append_of_ne_nil hcons (segments_ne_nil tail), intercalate_segments]
    exact ⟨(".".intercalate front).toList, by rw [hname]; simp [String.toList_append]⟩
  · rintro ⟨front, hfront⟩
    have hname : name = String.ofList front ++ "." ++ tail := by
      rw [← String.toList_inj, ← hfront]
      simp [String.toList_append]
    rw [EndsIn, hname, segments_dot]
    refine ⟨List.suffix_append _ _, fun heq => segments_ne_nil (String.ofList front) ?_⟩
    exact List.self_eq_append_left.mp heq

/-! ### Ends of a reference -/

lemma mem_dotTails_iff {cs tail : List Char} : tail ∈ dotTails cs ↔ '.' :: tail <:+ cs := by
  induction cs with
  | nil => simp [dotTails]
  | cons c cs ih =>
    rw [List.suffix_cons_iff, dotTails]
    split_ifs with hc
    · rw [List.mem_cons, ih, hc, List.cons_inj_right]
    · rw [ih, List.cons.injEq]
      exact ⟨.inr, fun h => h.resolve_left fun heq => hc heq.1.symm⟩

/-- Each is an end of those before it. -/
lemma dotTails_pairwise (cs : List Char) :
    (dotTails cs).Pairwise fun tail tail' => '.' :: tail' <:+ tail := by
  induction cs with
  | nil => exact .nil
  | cons c cs ih =>
    rw [dotTails]
    split_ifs
    · exact .cons (fun tail htail => mem_dotTails_iff.mp htail) ih
    · exact ih

namespace StateIndex

variable {states : StateIndex} {ref : String}

lemma contains_eq_true_iff {id : String} : states.contains id = true ↔ id ∈ states.ids := by
  rw [contains, List.contains_iff_mem]

/-- The longest end that is an id: every other one is an end of it. -/
lemma longestTail?_eq_some {id : String} (h : states.longestTail? ref = some id) :
    id ∈ states.ids ∧ EndsIn ref id ∧
      ∀ other ∈ states.ids, EndsIn ref other → other = id ∨ EndsIn id other := by
  unfold longestTail? at h
  obtain ⟨hid, before, after, hsplit, hbefore⟩ := List.find?_eq_some_iff_append.mp h
  have hmem : ∀ tail : String, EndsIn ref tail ↔
      tail ∈ (dotTails ref.toList).map String.ofList := by
    intro tail
    rw [endsIn_iff, ← mem_dotTails_iff, List.mem_map]
    exact ⟨fun hin => ⟨_, hin, String.ofList_toList⟩, fun ⟨cs, hin, heq⟩ => by
      rwa [← heq, String.toList_ofList]⟩
  have hafter : ∀ tail ∈ after, EndsIn id tail := by
    have hpair : ((dotTails ref.toList).map String.ofList).Pairwise EndsIn := by
      rw [List.pairwise_map]
      refine (dotTails_pairwise ref.toList).imp fun htail => ?_
      rwa [endsIn_iff, String.toList_ofList, String.toList_ofList]
    rw [hsplit, List.pairwise_append, List.pairwise_cons] at hpair
    exact hpair.2.1.1
  refine ⟨contains_eq_true_iff.mp hid, (hmem id).mpr (by rw [hsplit]; simp), ?_⟩
  intro other hother hends
  rw [hmem, hsplit, List.mem_append, List.mem_cons] at hends
  rcases hends with hin | rfl | hin
  · have hnot := hbefore other hin
    rw [contains_eq_true_iff.mpr hother] at hnot
    cases hnot
  · exact .inl rfl
  · exact .inr (hafter other hin)

lemma longestTail?_eq_none (h : states.longestTail? ref = none) :
    ∀ other ∈ states.ids, ¬ EndsIn ref other := by
  intro other hother hends
  unfold longestTail? at h
  rw [endsIn_iff, ← mem_dotTails_iff] at hends
  refine List.find?_eq_none.mp h other ?_ (contains_eq_true_iff.mpr hother)
  exact List.mem_map.mpr ⟨_, hends, String.ofList_toList⟩

/-! ### States that a reference may mean -/

/-- Ids that end in the reference, as they are declared. -/
def completions (states : StateIndex) (ref : String) : List String :=
  states.ids.filter fun id => EndsIn id ref

lemma endingIn_eq (hids : states.ids.Nodup) : states.endingIn ref = states.completions ref := by
  unfold endingIn completions
  rw [distinct_eq_self hids]
  refine List.filter_congr fun id _ => ?_
  rw [Bool.eq_iff_iff, List.isSuffixOf_iff_suffix, decide_eq_true_eq, endsIn_iff]

end StateIndex

/-- The id of a state is its name, behind its scope if it is in one. The name has no dot. -/
structure DeclaredState.Qualified (d : DeclaredState) : Prop where
  id_eq : d.id = qualify d.scope d.name
  dot_notMem : '.' ∉ d.name.toList

instance (d : DeclaredState) : Decidable d.Qualified :=
  decidable_of_iff (d.id = qualify d.scope d.name ∧ '.' ∉ d.name.toList)
    ⟨fun h => ⟨h.1, h.2⟩, fun h => ⟨h.id_eq, h.dot_notMem⟩⟩

/-- A state that has another id than a bare name has this name if its id ends in it. -/
lemma DeclaredState.Qualified.endsIn_iff {d : DeclaredState} (h : d.Qualified) {ref : String}
    (hbare : '.' ∉ ref.toList) (hne : d.id ≠ ref) : EndsIn d.id ref ↔ d.name = ref := by
  have hname := segments_of_dotless h.dot_notMem
  have href := segments_of_dotless hbare
  have hid : d.id = d.name ∨ ∃ path, d.id = path ++ "." ++ d.name := by
    rw [h.id_eq]
    unfold qualify
    cases d.scope with
    | none => exact .inl rfl
    | some path => exact (ite_eq_or_eq _ _ _).imp_right fun heq => ⟨path, heq⟩
  rcases hid with hid | ⟨path, hid⟩
  · rw [hid] at hne ⊢
    refine iff_of_false (fun hends => ?_) hne
    have hsuffix := hends.1
    rw [hname, href] at hsuffix
    exact hends.2 (by rw [hname, href]; exact hsuffix.eq_of_length rfl)
  · rw [EndsIn, hid, segments_dot, hname, href, List.singleton_suffix_append_singleton_iff]
    refine ⟨fun hends => hends.1.symm, fun heq => ⟨heq.symm, fun hsame => ?_⟩⟩
    exact segments_ne_nil path (List.append_left_eq_self.mp (heq ▸ hsame.symm))

namespace StateIndex

variable {states : StateIndex} {ref : String} {line column : Option Int}

/-- Bare and dotted references are completed by one rule. -/
theorem candidates_eq_completions (hids : states.ids.Nodup) (hdecls : ∀ d ∈ states.decls, d.Qualified)
    (href : ref ∉ states.ids) : states.candidates ref = states.completions ref := by
  unfold candidates
  split_ifs with hdotted
  · exact endingIn_eq hids
  · have hbare : '.' ∉ ref.toList := by simpa using hdotted
    unfold named completions ids
    rw [List.filter_map]
    congr 1
    refine List.filter_congr fun d hd => ?_
    have hne : d.id ≠ ref := fun heq => href (heq ▸ List.mem_map_of_mem hd)
    rw [Bool.eq_iff_iff, beq_iff_eq, Function.comp_apply, decide_eq_true_eq,
      (hdecls d hd).endsIn_iff hbare hne]

/-- What the segments of a reference say about it. -/
inductive Means (states : StateIndex) (ref : String) (line column : Option Int) :
    Except Error (Option String) → Prop
  /-- It is an id. -/
  | id (h : ref ∈ states.ids) : Means states ref line column (.ok (some ref))
  /-- One id ends in it. -/
  | completed {id : String} (h : ref ∉ states.ids) (hone : states.completions ref = [id]) :
    Means states ref line column (.ok (some id))
  /-- Several ids end in it. -/
  | ambiguous (h : ref ∉ states.ids) (hmany : 2 ≤ (states.completions ref).length) :
    Means states ref line column
      (.error (.source (.ambiguousReference ref (states.completions ref)) line column))
  /-- It ends in this id, and in all others that it ends in this id does too. -/
  | shortened {id : String} (h : ref ∉ states.ids) (hnone : states.completions ref = [])
    (hid : id ∈ states.ids) (htail : EndsIn ref id)
    (hlongest : ∀ other ∈ states.ids, EndsIn ref other → other = id ∨ EndsIn id other) :
    Means states ref line column (.ok (some id))
  /-- No id ends in it, and it ends in none. -/
  | unknown (h : ref ∉ states.ids) (hnone : states.completions ref = [])
    (htails : ∀ other ∈ states.ids, ¬ EndsIn ref other) :
    Means states ref line column (.ok none)

lemma means_lookup (hids : states.ids.Nodup) (hdecls : ∀ d ∈ states.decls, d.Qualified) (ref : String)
    (line column : Option Int) : states.Means ref line column (states.lookup ref line column) := by
  unfold lookup
  split_ifs with hmem
  · exact .id (contains_eq_true_iff.mp hmem)
  · rw [contains_eq_true_iff] at hmem
    rw [candidates_eq_completions hids hdecls hmem]
    cases hfound : states.completions ref with
    | nil =>
      cases htail : states.longestTail? ref with
      | none => exact .unknown hmem hfound (longestTail?_eq_none htail)
      | some id =>
        obtain ⟨hid, hends, hlongest⟩ := longestTail?_eq_some htail
        exact .shortened hmem hfound hid hends hlongest
    | cons id others =>
      cases others with
      | nil => exact .completed hmem hfound
      | cons other others =>
        have hmany : states.Means ref line column
            (.error (.source (.ambiguousReference ref (states.completions ref)) line column)) :=
          .ambiguous hmem (by rw [hfound]; simp)
        rwa [hfound] at hmany

/-- A reference to states with distinct ids means what its segments say. So no id is made up, and none of
several is picked. -/
theorem lookup_by_segments (hids : states.ids.Nodup) (hdecls : ∀ d ∈ states.decls, d.Qualified)
    (ref : String) (line column : Option Int) :
    states.Means ref line column (states.lookup ref line column) ∧
      ∀ id, states.lookup ref line column = .ok (some id) → id ∈ states.ids ∧
        (ref ∉ states.ids → ∀ other ∈ states.ids, EndsIn other ref → other = id) := by
  have hmeans := means_lookup hids hdecls ref line column
  refine ⟨hmeans, fun id hid => ?_⟩
  have hcompletions : ∀ other, other ∈ states.completions ref ↔ other ∈ states.ids ∧ EndsIn other ref := by
    intro other
    rw [completions, List.mem_filter, decide_eq_true_eq]
  rw [hid] at hmeans
  cases hmeans with
  | id hmem => exact ⟨hmem, fun hno => absurd hmem hno⟩
  | completed hno hone =>
    have hmem : id ∈ states.completions ref := by simp [hone]
    refine ⟨((hcompletions id).mp hmem).1, fun _ other hother hends => ?_⟩
    have hin := (hcompletions other).mpr ⟨hother, hends⟩
    rwa [hone, List.mem_singleton] at hin
  | shortened hno hnone hmem =>
    refine ⟨hmem, fun _ other hother hends => ?_⟩
    have hin := (hcompletions other).mpr ⟨hother, hends⟩
    rw [hnone] at hin
    cases hin

/-- One name in two scopes and alone in a third, and a state inside a scope that has the name of another. -/
def scopedTable : StateIndex :=
  ⟨[⟨some "Left", "A", "Left.A", 1, 27⟩, ⟨some "Left", "Only", "Left.Only", 1, 52⟩,
    ⟨some "Right", "A", "Right.A", 2, 28⟩, ⟨some "Deep.Right", "Last", "Deep.Right.Last", 3, 40⟩,
    ⟨none, "Last", "Last", 4, 13⟩]⟩

theorem lookup_by_segments_scopedTable :
    scopedTable.lookup "A" (some 9) (some 3) =
      .error (.source (.ambiguousReference "A" ["Left.A", "Right.A"]) (some 9) (some 3)) ∧
    scopedTable.Means "A" (some 9) (some 3) (scopedTable.lookup "A" (some 9) (some 3)) ∧
    scopedTable.lookup "Right.Last" none none = .ok (some "Deep.Right.Last") ∧
    scopedTable.Means "Right.Last" none none (scopedTable.lookup "Right.Last" none none) ∧
    scopedTable.lookup "Top.Left.Last" none none = .ok (some "Last") ∧
    scopedTable.Means "Top.Left.Last" none none (scopedTable.lookup "Top.Left.Last" none none) := by
  have hids : scopedTable.ids.Nodup := by decide
  have hdecls : ∀ d ∈ scopedTable.decls, d.Qualified := by decide +kernel
  exact ⟨by decide +kernel, (lookup_by_segments hids hdecls "A" _ _).1, by decide +kernel,
    (lookup_by_segments hids hdecls "Right.Last" _ _).1, by decide +kernel,
    (lookup_by_segments hids hdecls "Top.Left.Last" _ _).1⟩

end StateIndex

end ActorDiagram
