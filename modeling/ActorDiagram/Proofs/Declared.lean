import Mathlib
import ActorDiagram.Graph
import ActorDiagram.Proofs.Results
import ActorDiagram.Proofs.Spelling
import ActorDiagram.State.Declaration

/-!
# What declared states are named by

The names of states and of the groups around them are identifiers of the stream, an id is these
joined by dots, and no two declarations have one id.
-/

namespace ActorDiagram

/-- The state is named by identifiers of a stream. -/
structure DeclaredState.NamedIn (s : Stream) (d : DeclaredState) : Prop where
  name : s.HasWord d.name
  id_eq : d.id = qualify d.scope d.name
  scope_eq : ∃ path : List String, (∀ word ∈ path, s.HasWord word) ∧
    d.scope = if (".".intercalate path).isEmpty then none else some (".".intercalate path)

namespace StateIndex

variable {s : Stream}

lemma hasWord_of_declHead? {i : Nat} {first : Token} {head : DeclHead}
    (h : declHead? s i first = some head) : s.HasWord head.name.text := by
  unfold declHead? at h
  simp only at h
  generalize (if first.isWord "case" then i + 1 else i) = k at h
  cases hkeyword : s.get? k with
  | none => simp [hkeyword] at h
  | some keyword =>
    cases hname : s.get? (k + 1) with
    | none => simp [hkeyword, hname] at h
    | some name =>
      simp only [hkeyword, hname, Option.ite_none_right_eq_some, Bool.and_eq_true,
        Option.some.injEq] at h
      obtain ⟨⟨⟨-, hident⟩, -⟩, rfl⟩ := h
      exact ⟨k + 1, name, hname, hident, rfl⟩

lemma namedIn_declIn {groups : List Group} {name : Token} (hname : s.HasWord name.text)
    (hgroups : ∀ g ∈ groups, s.HasWord g.name) : (declIn groups name).NamedIn s where
  name := hname
  id_eq := rfl
  scope_eq := by
    refine ⟨groups.reverse.map (·.name), ?_, rfl⟩
    intro word hword
    obtain ⟨g, hg, rfl⟩ := List.mem_map.mp hword
    exact hgroups g (List.mem_reverse.mp hg)

lemma namedIn_concat {decls : List DeclaredState} {d : DeclaredState} (h : ∀ d ∈ decls, d.NamedIn s)
    (hd : d.NamedIn s) : ∀ d' ∈ decls ++ [d], d'.NamedIn s := by
  intro d' hd'
  rcases List.mem_append.mp hd' with hd' | hd'
  · exact h d' hd'
  · rwa [List.mem_singleton.mp hd']

lemma nodup_ids_concat {decls : List DeclaredState} {d : DeclaredState} (h : (decls.map (·.id)).Nodup)
    (hnew : ¬ decls.any (·.id == d.id) = true) : ((decls ++ [d]).map (·.id)).Nodup := by
  rw [List.map_append, List.map_singleton, List.nodup_append]
  refine ⟨h, List.nodup_singleton _, ?_⟩
  intro id hid id' hid' heq
  obtain ⟨d', hd', rfl⟩ := List.mem_map.mp hid
  rw [List.mem_singleton.mp hid'] at heq
  exact hnew (List.any_eq_true.mpr ⟨d', hd', by simpa using heq⟩)

/-- Declarations read after some that are named by the stream and have distinct ids. -/
theorem namedIn_of_declsFrom {types : Option (List String)} {fuel i : Nat} {groups : List Group}
    {decls result : List DeclaredState} (h : declsFrom s types fuel i groups decls = .ok result)
    (hgroups : ∀ g ∈ groups, s.HasWord g.name) (hdecls : ∀ d ∈ decls, d.NamedIn s)
    (hnodup : (decls.map (·.id)).Nodup) :
    (∀ d ∈ result, d.NamedIn s) ∧ (result.map (·.id)).Nodup := by
  induction fuel generalizing i groups decls with
  | zero =>
    cases h
    exact ⟨hdecls, hnodup⟩
  | succ fuel ih =>
    unfold declsFrom at h
    cases hfirst : s.get? i with
    | none =>
      simp only [hfirst, Except.ok.injEq] at h
      subst result
      exact ⟨hdecls, hnodup⟩
    | some first =>
      simp only [hfirst] at h
      have hgroups' : ∀ g ∈ groups.dropWhile (·.close < i), s.HasWord g.name :=
        fun g hg => hgroups g ((List.dropWhile_sublist _).subset hg)
      generalize groups.dropWhile (·.close < i) = around at h hgroups'
      cases hhead : declHead? s i first with
      | none =>
        simp only [hhead] at h
        exact ih h hgroups' hdecls hnodup
      | some head =>
        have hword := hasWord_of_declHead? hhead
        simp only [hhead] at h
        obtain ⟨⟨supers, next⟩, -, h⟩ := bind_eq_ok_iff.mp h
        by_cases hstate : declaresState types head supers = true
        · simp only [hstate, if_true] at h
          by_cases hnew : decls.any (·.id == (declIn around head.name).id) = true
          · simp [hnew] at h
          · have hdecls' := namedIn_concat hdecls (namedIn_declIn hword hgroups')
            have hnodup' := nodup_ids_concat hnodup hnew
            simp only [hnew, Bool.false_eq_true, if_false] at h
            by_cases hbody : opensBody s next = true
            · simp only [hbody, if_true] at h
              obtain ⟨close, -, h⟩ := bind_eq_ok_iff.mp h
              exact ih h hgroups' hdecls' hnodup'
            · simp only [hbody, Bool.false_eq_true, if_false] at h
              exact ih h hgroups' hdecls' hnodup'
        · simp only [hstate, Bool.false_eq_true, if_false] at h
          split at h
          · obtain ⟨close, -, h⟩ := bind_eq_ok_iff.mp h
            refine ih h ?_ hdecls hnodup
            intro g hg
            rcases List.mem_cons.mp hg with rfl | hg
            · exact hword
            · exact hgroups' g hg
          · exact ih h hgroups' hdecls hnodup

/-- The states of a stream are named by it, and each has an id of its own. -/
theorem namedIn_of_ofStream {states : StateIndex} (h : ofStream s = .ok states) :
    (∀ d ∈ states.decls, d.NamedIn s) ∧ states.ids.Nodup := by
  unfold ofStream at h
  obtain ⟨types, -, h⟩ := bind_eq_ok_iff.mp h
  obtain ⟨decls, hdecls, h⟩ := bind_eq_ok_iff.mp h
  cases h
  exact namedIn_of_declsFrom hdecls (by simp) (by simp) (by simp)

/-! ### Distinct ids -/

lemma distinct_eq_self {names : List String} (h : names.Nodup) : distinct names = names := by
  suffices ∀ seen, (seen ++ names).Nodup → names.foldl
      (fun seen name => if seen.contains name then seen else seen ++ [name]) seen = seen ++ names by
    simpa [distinct] using this [] (by simpa using h)
  intro seen hnodup
  induction names generalizing seen with
  | nil => simp
  | cons name names ih =>
    have hnew : name ∉ seen := by
      intro hmem
      exact (List.nodup_append.mp hnodup).2.2 name hmem name (by simp) rfl
    have happend : seen ++ name :: names = (seen ++ [name]) ++ names := by simp
    rw [happend] at hnodup ⊢
    simpa [hnew] using ih (List.nodup_cons.mp h).2 (seen ++ [name]) hnodup

/-- With distinct ids, every state is listed with its own name, in order. -/
theorem stateNames_of_nodup {states : StateIndex} (h : states.ids.Nodup) :
    states.stateNames = states.decls.map fun d => (d.id, d.name) := by
  have hfind : ∀ d ∈ states.decls, states.decls.reverse.find? (·.id == d.id) = some d := by
    intro d hd
    obtain ⟨d', hd'⟩ : ∃ d', states.decls.reverse.find? (·.id == d.id) = some d' :=
      Option.isSome_iff_exists.mp (List.find?_isSome.mpr ⟨d, List.mem_reverse.mpr hd, by simp⟩)
    have hmem := List.mem_reverse.mp (List.mem_of_find?_eq_some hd')
    have hid : d'.id = d.id := by simpa using List.find?_some hd'
    rw [hd', List.inj_on_of_nodup_map h hmem hd hid]
  unfold stateNames
  rw [distinct_eq_self h, ids, List.filterMap_map, ← List.filterMap_eq_map]
  refine List.filterMap_congr fun d hd => ?_
  simp only [Function.comp_apply]
  rw [hfind d hd]
  rfl

end StateIndex

/-! ### Characters of ids -/

lemma qualify_eq_name {scope : Option String} {name : String} (hdot : '.' ∉ (qualify scope name).toList) :
    qualify scope name = name := by
  cases scope with
  | none => rfl
  | some path =>
    unfold qualify at hdot ⊢
    simp only at hdot ⊢
    split_ifs at hdot ⊢
    · rfl
    · simp [String.toList_append] at hdot

namespace DeclaredState.NamedIn

variable {s : Stream} {d : DeclaredState}

lemma mem_intercalate {sep c : Char} {words : List (List Char)}
    (h : c ∈ [sep].intercalate words) : c = sep ∨ ∃ word ∈ words, c ∈ word := by
  induction words with
  | nil => simp at h
  | cons word words ih =>
    cases words with
    | nil => exact .inr ⟨word, by simp, by simpa using h⟩
    | cons word' words =>
      rw [List.intercalate_cons_cons, List.mem_append, List.mem_append] at h
      rcases h with (h | h) | h
      · exact .inr ⟨word, by simp, h⟩
      · exact .inl (by simpa using h)
      · rcases ih h with rfl | ⟨w, hw, hc⟩
        · exact .inl rfl
        · exact .inr ⟨w, List.mem_cons_of_mem _ hw, hc⟩

/-- Outside a group, or in groups without a name, the name is the id. -/
theorem id_eq_name_or (h : d.NamedIn s) : d.id = d.name ∨ ∃ path : List String,
    (∀ word ∈ path, s.HasWord word) ∧ d.id = ".".intercalate path ++ "." ++ d.name := by
  obtain ⟨-, hid, path, hpath, hscope⟩ := h
  by_cases hempty : (".".intercalate path).isEmpty = true
  · rw [if_pos hempty] at hscope
    left
    rw [hid, hscope]
    rfl
  · rw [if_neg hempty] at hscope
    right
    refine ⟨path, hpath, ?_⟩
    rw [hid, hscope]
    simp only [qualify, hempty]
    rfl

/-- An id without a dot is the name of its state. -/
theorem id_eq_name (h : d.NamedIn s) (hdot : '.' ∉ d.id.toList) : d.id = d.name := by
  rw [h.id_eq] at hdot ⊢
  exact qualify_eq_name hdot

/-- The characters of an id are dots and those of identifiers. -/
theorem mem_id (h : d.NamedIn s) {c : Char} (hc : c ∈ d.id.toList) :
    c = '.' ∨ ∃ word, s.HasWord word ∧ c ∈ word.toList := by
  rcases h.id_eq_name_or with hid | ⟨path, hpath, hid⟩
  · exact .inr ⟨d.name, h.name, hid ▸ hc⟩
  · rw [hid, String.toList_append, String.toList_append, List.mem_append, List.mem_append,
      String.toList_intercalate] at hc
    rcases hc with (hc | hc) | hc
    · rcases mem_intercalate hc with rfl | ⟨word, hword, hc⟩
      · exact .inl rfl
      · obtain ⟨w, hw, rfl⟩ := List.mem_map.mp hword
        exact .inr ⟨w, hpath w hw, hc⟩
    · exact .inl (by simpa using hc)
    · exact .inr ⟨d.name, h.name, hc⟩

end DeclaredState.NamedIn

end ActorDiagram
