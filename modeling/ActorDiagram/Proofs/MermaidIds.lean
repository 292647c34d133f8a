import Mathlib
import ActorDiagram.Mermaid.Diagram
import ActorDiagram.Proofs.Entities
import ActorDiagram.Proofs.Results
import ActorDiagram.Proofs.UnusedIds

/-!
# Mermaid ids

Every id that a layout gives is one by its characters, no two nodes share one, and the layout has
one declaration for each node but the entry and the stop node, in the order of the nodes. The
declarations are written unless the name of a state has a reference that is too long.
-/

namespace ActorDiagram.Mermaid

/-! ### Characters of ids -/

/-- ASCII letters, digits and underscores, at least one, and no digit first. -/
structure IsId (id : String) : Prop where
  head : id.toList.head?.any isIdStart = true
  parts : ∀ c ∈ id.toList, isIdPart c = true

lemma isId_of_all {id : String}
    (h : (id.toList.head?.any isIdStart && id.toList.all isIdPart) = true) : IsId id := by
  rw [Bool.and_eq_true, List.all_eq_true] at h
  exact ⟨h.1, h.2⟩

lemma isIdStart_of_isIdPart {c : Char} (h : isIdPart c = true) (hdigit : c.isDigit = false) :
    isIdStart c = true := by
  simp only [isIdPart, Char.isAlphanum, hdigit, Bool.or_false] at h
  exact h

/-- A name that can stand as its own id is an id, if it has no line break. -/
theorem isId_of_canBeId {name : String} (h : canBeId name = true) (hbreak : '\n' ∉ name.toList) :
    IsId name := by
  have hlast : (name.toList.getLast? == some '\n') = false := by
    rw [beq_eq_false_iff_ne]
    exact fun hlast => hbreak (List.mem_of_getLast? hlast)
  simp only [canBeId, isIdText, hlast, Bool.false_eq_true, if_false, Bool.and_eq_true,
    List.all_eq_true] at h
  exact ⟨h.1.1, h.1.2⟩

/-- No dot stands in a name that can be its own id. -/
lemma dot_notMem_of_canBeId {name : String} (h : canBeId name = true) : '.' ∉ name.toList := by
  intro hdot
  rw [canBeId, isIdText, Bool.and_eq_true, Bool.and_eq_true, List.all_eq_true] at h
  have hpart := h.1.2 '.'
  split_ifs at hpart with hlast
  · obtain ⟨body, hbody⟩ := List.getLast?_eq_some_iff.mp (beq_iff_eq.mp hlast)
    rw [hbody] at hdot hpart
    rw [List.dropLast_concat] at hpart
    exact absurd (hpart (by simpa using hdot)) (by decide)
  · exact absurd (hpart hdot) (by decide)

lemma isIdPart_of_mem_maskFrom {inRun : Bool} {cs : List Char} {c : Char}
    (h : c ∈ maskFrom inRun cs) : isIdPart c = true := by
  induction cs generalizing inRun with
  | nil => simp [maskFrom] at h
  | cons d ds ih =>
    unfold maskFrom at h
    split_ifs at h with hd
    · rcases List.mem_cons.mp h with rfl | h
      · exact hd
      · exact ih h
    · exact ih h
    · rcases List.mem_cons.mp h with rfl | h
      · decide
      · exact ih h

lemma mem_of_mem_stripUnderscores {cs : List Char} {c : Char} (h : c ∈ stripUnderscores cs) :
    c ∈ cs := by
  unfold stripUnderscores at h
  have hinner := (List.dropWhile_sublist _).subset (List.mem_reverse.mp h)
  exact (List.dropWhile_sublist _).subset (List.mem_reverse.mp hinner)

lemma IsId.append {id rest : String} (h : IsId id) (hrest : ∀ c ∈ rest.toList, isIdPart c = true) :
    IsId (id ++ rest) := by
  constructor
  · rw [String.toList_append]
    cases hid : id.toList with
    | nil => simpa [hid] using h.head
    | cons c cs => simpa [hid] using h.head
  · intro c hc
    rw [String.toList_append] at hc
    exact (List.mem_append.mp hc).elim (h.parts c) (hrest c)

/-- The id made for a name is one. -/
theorem isId_idLike (name : String) : IsId (idLike name) := by
  have hparts : ∀ c ∈ stripUnderscores (maskFrom false name.toList), isIdPart c = true :=
    fun c hc => isIdPart_of_mem_maskFrom (mem_of_mem_stripUnderscores hc)
  unfold idLike
  simp only
  generalize stripUnderscores (maskFrom false name.toList) = masked at hparts ⊢
  cases masked with
  | nil =>
    rw [if_neg (by decide +kernel), if_pos List.isEmpty_nil]
    exact isId_of_all (by decide)
  | cons c cs =>
    simp only [List.isEmpty_cons, Bool.false_eq_true, if_false, List.head?_cons, Option.any_some]
    split_ifs with hprefix
    · have hstem : IsId "s_" := isId_of_all (by decide)
      exact hstem.append (by simpa using hparts)
    · simp only [Bool.or_eq_true, not_or, Bool.not_eq_true] at hprefix
      refine ⟨?_, by simpa using hparts⟩
      simpa using isIdStart_of_isIdPart (hparts c (by simp)) hprefix.1

/-! ### Claimed ids -/

lemma IsId.numbered {base : String} (h : IsId base) (n : Nat) : IsId (numbered base n) := by
  have hdigits : ∀ c ∈ ("_" ++ toString n).toList, isIdPart c = true := by
    intro c hc
    simp only [String.toList_append, Nat.toString_eq_ofList_toDigits, String.toList_ofList,
      List.mem_append] at hc
    rcases hc with hc | hc
    · have hc : c = '_' := by simpa using hc
      subst c
      decide
    · have hdigit := Nat.isDigit_of_mem_toDigits (by decide) (by decide) hc
      simp [isIdPart, Char.isAlphanum, hdigit]
  unfold Mermaid.numbered
  rw [String.append_assoc]
  exact h.append hdigits

theorem isId_freeId {base : String} (h : IsId base) (used : List String) :
    IsId (freeId base used) := by
  rcases (claimed_freeId base used).cases with hid | ⟨n, hid⟩
  · rwa [hid]
  · rw [hid]
    exact h.numbered n

/-! ### Layouts -/

/-- A node that a layout declares. -/
def isDrawn (node : String) : Bool := node != Graph.entryNode && node != Graph.stopNode

/-- Name that a node is drawn by, where it has one. -/
def shownName? (names : List (String × String)) (node : String) : Option String :=
  if node = Graph.unknownNode then some "?" else (names.find? (·.1 == node)).map (·.2)

/-- The declaration gives a node an id, by its name. -/
def Declares (names : List (String × String)) (node id : String) (decl : Declaration) : Prop :=
  ∃ name, shownName? names node = some name ∧
    (decl = .bare name ∧ id = name ∨ decl = .aliased id name)

/-- The line declares a node under an id, by its name. -/
def DeclaredBy (names : List (String × String)) (node id line : String) : Prop :=
  ∃ decl, Declares names node id decl ∧ decl.line = .ok line

/-- A name that is an id has no line break and is the name of one node only. -/
structure NamesApart (names : List (String × String)) : Prop where
  break_notMem : ∀ x ∈ names, canBeId x.2 = true → '\n' ∉ x.2.toList
  eq_of_bare : ∀ node node' name, (node, name) ∈ names → (node', name) ∈ names →
    canBeId name = true → node = node'

namespace Layout

/-- Layout of these nodes: each that is drawn has an id of its own and a line that declares it. An
id is the name of its node, or no name at all. -/
structure Sound (names : List (String × String)) (nodes : List String) (l : Layout) : Prop where
  nodes_eq : l.ids.map Prod.fst = nodes.filter isDrawn
  declares : List.Forall₂ (fun x decl => Declares names x.1 x.2 decl) l.ids l.decls
  isId : ∀ x ∈ l.ids, IsId x.2
  ids_nodup : (l.ids.map Prod.snd).Nodup
  ids_used : ∀ x ∈ l.ids, x.2 ∈ l.used
  names_used : ∀ x ∈ names, canBeId x.2 = true → x.2 ∈ l.used
  bare_or_fresh : ∀ x ∈ l.ids, x ∈ names ∨ ∀ y ∈ names, canBeId y.2 = true → y.2 ≠ x.2

variable {names : List (String × String)} {nodes : List String} {l l' : Layout} {node : String}

/-- All that adding a node can do to a layout. -/
theorem add_cases (h : add names l node = .ok l') : l' = l ∨
    (∃ name, (node, name) ∈ names ∧ canBeId name = true ∧ l' = l.addBare node name) ∨
    ∃ base name, l' = l.addAlias node base name ∧
      (base = "Unknown" ∧ name = "?" ∨ base = idLike name ∧ (node, name) ∈ names) := by
  unfold add at h
  split_ifs at h
  · cases h
    exact .inl rfl
  · cases h
    exact .inr (.inr ⟨_, _, rfl, .inl ⟨rfl, rfl⟩⟩)
  · cases hfind : names.find? (·.1 == node) with
    | none => simp [hfind] at h
    | some x =>
      obtain ⟨node', name⟩ := x
      obtain rfl : node' = node := by simpa using List.find?_some hfind
      have hmem := List.mem_of_find?_eq_some hfind
      simp only [hfind, Except.ok.injEq] at h
      subst l'
      split_ifs with hbare
      · exact .inr (.inl ⟨name, hmem, hbare, rfl⟩)
      · exact .inr (.inr ⟨_, name, rfl, .inr ⟨rfl, hmem⟩⟩)

/-- What holds without nodes and is kept with each one holds of a layout. -/
theorem ofGraph_induction {P : Layout → Prop} {g : Graph} (h : ofGraph g = .ok l)
    (hstart : ∀ used, P ⟨used, [], []⟩)
    (hadd : ∀ {l l' node}, P l → add (shownNames g) l node = .ok l' → P l') : P l := by
  have hfold : ∀ {nodes : List String} {l l' : Layout}, P l →
      nodes.foldlM (add (shownNames g)) l = .ok l' → P l' := by
    intro nodes
    induction nodes with
    | nil =>
      rintro l l' hl ⟨⟩
      exact hl
    | cons node nodes ih =>
      intro l l' hl hrun
      rw [List.foldlM_cons] at hrun
      obtain ⟨l₁, hfirst, hrest⟩ := bind_eq_ok_iff.mp hrun
      exact ih (hadd hl hfirst) hrest
  exact hfold (hstart _) h

lemma sound_nil (names : List (String × String)) :
    Sound names [] ⟨(names.map (·.2)).filter canBeId, [], []⟩ where
  nodes_eq := rfl
  declares := .nil
  isId := by simp
  ids_nodup := .nil
  ids_used := by simp
  names_used := by
    intro x hx hbare
    exact List.mem_filter.mpr ⟨List.mem_map_of_mem hx, hbare⟩
  bare_or_fresh := by simp

/-- Adding a node that is drawn under an id that no node has yet. -/
lemma Sound.concat (h : l.Sound names nodes) (hdrawn : isDrawn node = true) {id : String}
    {decl : Declaration} {used : List String} (hdeclares : Declares names node id decl) (hid : IsId id)
    (hnew : ∀ x ∈ l.ids, x.2 ≠ id) (hused : ∀ used' ∈ l.used, used' ∈ used) (hidUsed : id ∈ used)
    (hbare : (node, id) ∈ names ∨ ∀ y ∈ names, canBeId y.2 = true → y.2 ≠ id) :
    Sound names (nodes ++ [node]) ⟨used, l.ids ++ [(node, id)], l.decls ++ [decl]⟩ where
  nodes_eq := by
    rw [List.map_append, List.filter_append, h.nodes_eq]
    simp [hdrawn]
  declares := List.rel_append h.declares (.cons hdeclares .nil)
  isId := List.forall_mem_append.mpr ⟨h.isId, List.forall_mem_singleton.mpr hid⟩
  ids_nodup := by
    rw [List.map_append, List.map_singleton, List.nodup_append]
    refine ⟨h.ids_nodup, List.nodup_singleton _, ?_⟩
    intro id' hid' id'' hid''
    obtain ⟨x, hx, rfl⟩ := List.mem_map.mp hid'
    rw [List.mem_singleton.mp hid'']
    exact hnew x hx
  ids_used := List.forall_mem_append.mpr
    ⟨fun x hx => hused _ (h.ids_used x hx), List.forall_mem_singleton.mpr hidUsed⟩
  names_used := fun x hx hx' => hused _ (h.names_used x hx hx')
  bare_or_fresh := List.forall_mem_append.mpr
    ⟨h.bare_or_fresh, List.forall_mem_singleton.mpr hbare⟩

lemma Sound.addAlias (h : l.Sound names nodes) (hdrawn : isDrawn node = true) {base name : String}
    (hbase : IsId base) (hname : shownName? names node = some name) :
    (l.addAlias node base name).Sound names (nodes ++ [node]) := by
  have hfree := freeId_notMem base l.used
  refine h.concat hdrawn ⟨name, hname, .inr rfl⟩ (isId_freeId hbase l.used) ?_
    (fun _ => List.mem_cons_of_mem _) List.mem_cons_self (.inr ?_)
  · exact fun x hx heq => hfree (heq ▸ h.ids_used x hx)
  · exact fun y hy hy' heq => hfree (heq ▸ h.names_used y hy hy')

lemma Sound.addBare (h : l.Sound names nodes) (hnames : NamesApart names)
    (hdrawn : isDrawn node = true) (hnode : node ∉ nodes) {name : String}
    (hname : shownName? names node = some name) (hmem : (node, name) ∈ names)
    (hbare : canBeId name = true) : (l.addBare node name).Sound names (nodes ++ [node]) := by
  refine h.concat hdrawn ⟨name, hname, .inl ⟨rfl, rfl⟩⟩
    (isId_of_canBeId hbare (hnames.break_notMem _ hmem hbare)) ?_ (fun _ h => h)
    (h.names_used _ hmem hbare) (.inl hmem)
  rintro ⟨node', id⟩ hx rfl
  rcases h.bare_or_fresh _ hx with hx' | hx'
  · have heq := hnames.eq_of_bare _ _ _ hx' hmem hbare
    have hmem' : node' ∈ l.ids.map Prod.fst := List.mem_map_of_mem hx
    rw [h.nodes_eq, heq] at hmem'
    exact hnode (List.mem_filter.mp hmem').1
  · exact hx' _ hmem hbare rfl

/-- A node is added to the layout, if it needs no name or has one. -/
theorem Sound.add (h : l.Sound names nodes) (hnames : NamesApart names) (hnode : node ∉ nodes)
    (hshown : isDrawn node = true → (shownName? names node).isSome) :
    ∃ l', Layout.add names l node = .ok l' ∧ l'.Sound names (nodes ++ [node]) := by
  unfold Layout.add
  by_cases hown : node = Graph.entryNode ∨ node = Graph.stopNode
  · rw [if_pos hown]
    have hdrawn : isDrawn node = false := by
      rcases hown with rfl | rfl <;> rfl
    refine ⟨l, rfl, ?_, h.declares, h.isId, h.ids_nodup, h.ids_used, h.names_used,
      h.bare_or_fresh⟩
    rw [List.filter_append, h.nodes_eq]
    simp [hdrawn]
  · rw [if_neg hown]
    have hdrawn : isDrawn node = true := by
      simpa [isDrawn, not_or] using hown
    by_cases hunknown : node = Graph.unknownNode
    · rw [if_pos hunknown]
      exact ⟨_, rfl, h.addAlias hdrawn (isId_of_all (by decide)) (if_pos hunknown)⟩
    · rw [if_neg hunknown]
      have hshown := hshown hdrawn
      simp only [shownName?, if_neg hunknown, Option.isSome_map] at hshown
      obtain ⟨⟨node', name⟩, hfind⟩ := Option.isSome_iff_exists.mp hshown
      have hsame : node' = node := by simpa using List.find?_some hfind
      subst node'
      have hname : shownName? names node = some name := by
        simp [shownName?, hunknown, hfind]
      simp only [hfind]
      refine ⟨_, rfl, ?_⟩
      split_ifs with hbare
      · exact h.addBare hnames hdrawn hnode hname (List.mem_of_find?_eq_some hfind) hbare
      · exact h.addAlias hdrawn (isId_idLike name) hname

/-- All nodes are added one after the other. -/
theorem Sound.foldlM (h : l.Sound names nodes) (hnames : NamesApart names) {more : List String}
    (hnodup : (nodes ++ more).Nodup)
    (hshown : ∀ node ∈ more, isDrawn node = true → (shownName? names node).isSome) :
    ∃ l', more.foldlM (Layout.add names) l = .ok l' ∧ l'.Sound names (nodes ++ more) := by
  induction more generalizing nodes l with
  | nil => exact ⟨l, rfl, by simpa using h⟩
  | cons node more ih =>
    have hnode : node ∉ nodes := fun hmem =>
      (List.nodup_append.mp hnodup).2.2 node hmem node (by simp) rfl
    obtain ⟨l₁, hadd, h₁⟩ := h.add hnames hnode (hshown node (by simp))
    rw [List.append_cons] at hnodup ⊢
    obtain ⟨l', hrest, h'⟩ := ih h₁ hnodup fun n hn => hshown n (List.mem_cons_of_mem _ hn)
    refine ⟨l', ?_, h'⟩
    rw [List.foldlM_cons, hadd]
    exact hrest

/-- Where nodes are distinct and have names, a layout of them is found. -/
theorem exists_sound {g : Graph} (hnodup : g.nodes.Nodup) (hnames : NamesApart (shownNames g))
    (hshown : ∀ node ∈ g.nodes, isDrawn node = true → (shownName? (shownNames g) node).isSome) :
    ∃ l, ofGraph g = .ok l ∧ l.Sound (shownNames g) g.nodes :=
  (sound_nil (shownNames g)).foldlM hnames (by simpa using hnodup) hshown

/-- A layout of distinct nodes finds the id that it has given to one. -/
theorem Sound.idOf?_eq_some_iff (h : l.Sound names nodes) (hnodup : nodes.Nodup) {id : String} :
    l.idOf? node = some id ↔ (node, id) ∈ l.ids := by
  have hkeys : (l.ids.map Prod.fst).Nodup := h.nodes_eq ▸ hnodup.filter _
  unfold idOf?
  rw [Option.map_eq_some_iff]
  constructor
  · rintro ⟨⟨node', id'⟩, hfind, rfl⟩
    have hsame : node' = node := by simpa using List.find?_some hfind
    subst node'
    exact List.mem_reverse.mp (List.mem_of_find?_eq_some hfind)
  · intro hmem
    obtain ⟨x, hx⟩ : ∃ x, l.ids.reverse.find? (·.1 == node) = some x :=
      Option.isSome_iff_exists.mp
        (List.find?_isSome.mpr ⟨(node, id), List.mem_reverse.mpr hmem, by simp⟩)
    have hsame : x.1 = node := by simpa using List.find?_some hx
    have hx' := List.mem_reverse.mp (List.mem_of_find?_eq_some hx)
    rw [List.inj_on_of_nodup_map hkeys hx' hmem hsame] at hx
    exact ⟨_, hx, rfl⟩

/-- Every drawn node has an id. -/
theorem Sound.exists_idOf? (h : l.Sound names nodes) (hnodup : nodes.Nodup) (hnode : node ∈ nodes)
    (hdrawn : isDrawn node = true) : ∃ id, l.idOf? node = some id := by
  have hmem : node ∈ l.ids.map Prod.fst := by
    rw [h.nodes_eq]
    exact List.mem_filter.mpr ⟨hnode, hdrawn⟩
  obtain ⟨⟨node', id⟩, hx, rfl⟩ := List.mem_map.mp hmem
  exact ⟨id, (h.idOf?_eq_some_iff hnodup).mpr hx⟩

/-! ### Lines of a layout -/

open Text.Reference (Overlong)

/-- Nodes are declared by names of states, the unknown node by a question mark. -/
lemma name_of_mem_decls {g : Graph} (h : ofGraph g = .ok l) :
    ∀ decl ∈ l.decls, decl.name = "?" ∨ ∃ x ∈ shownNames g, x.2 = decl.name := by
  refine ofGraph_induction (P := fun l => ∀ decl ∈ l.decls, decl.name = "?" ∨
    ∃ x ∈ shownNames g, x.2 = decl.name) h (by simp) ?_
  intro l l' node hl hadd
  rcases add_cases hadd with rfl | ⟨name, hname, -, rfl⟩ | ⟨base, name, rfl, hname⟩
  · exact hl
  · exact List.forall_mem_append.mpr ⟨hl, List.forall_mem_singleton.mpr (.inr ⟨_, hname, rfl⟩)⟩
  · refine List.forall_mem_append.mpr ⟨hl, List.forall_mem_singleton.mpr ?_⟩
    exact hname.imp And.right fun hname => ⟨_, hname.2, rfl⟩

lemma overlong_of_line {decl : Declaration} {e : Error} (h : decl.line = .error e) :
    ∃ count, e = .manyDigits count ∧ Overlong decl.name.toList count := by
  cases decl with
  | bare name => cases h
  | aliased id name => exact overlong_of_escaped (map_eq_error_iff.mp h)

/-- The declarations of a layout are written, unless the name of a state has a reference that is too
long. -/
theorem lines_cases {g : Graph} (h : ofGraph g = .ok l) : (∃ lines, l.lines = .ok lines) ∨
    ∃ count, l.lines = .error (.manyDigits count) ∧ ∃ x ∈ shownNames g, Overlong x.2.toList count := by
  cases hlines : l.lines with
  | ok lines => exact .inl ⟨lines, rfl⟩
  | error e =>
    obtain ⟨decl, hdecl, hline⟩ := exists_mem_of_mapM_eq_error hlines
    obtain ⟨count, rfl, hlong⟩ := overlong_of_line hline
    refine .inr ⟨count, rfl, ?_⟩
    rcases name_of_mem_decls h decl hdecl with hname | ⟨x, hx, hname⟩
    · rw [hname] at hlong
      obtain ⟨before, digits, after, heq, -⟩ := hlong
      have hmem : '&' ∈ "?".toList := by simp [heq]
      exact absurd hmem (by decide)
    · exact ⟨x, hx, hname ▸ hlong⟩

/-- The lines of a sound layout declare its nodes in order. -/
lemma Sound.declaredBy (h : l.Sound names nodes) {lines : List String} (hlines : l.lines = .ok lines) :
    List.Forall₂ (fun x line => DeclaredBy names x.1 x.2 line) l.ids lines := by
  have hline := forall₂_of_mapM_eq_ok hlines
  refine List.forall₂_iff_get.mpr ⟨h.declares.length_eq.trans hline.length_eq, ?_⟩
  intro i hi hi'
  have hi'' : i < l.decls.length := h.declares.length_eq ▸ hi
  exact ⟨_, h.declares.get hi hi'', hline.get hi'' hi'⟩

end Layout

lemma overlong_of_edgeLine {source target label : String} {e : Error}
    (h : edgeLine source target label = .error e) :
    ∃ count, e = .manyDigits count ∧ Text.Reference.Overlong label.toList count := by
  unfold edgeLine at h
  split_ifs at h
  exact overlong_of_escaped (map_eq_error_iff.mp h)

/-- The name of a state or the label of an edge has a reference of this many digits, which is too long. -/
def HasOverlong (g : Graph) (count : Nat) : Prop :=
  (∃ x ∈ shownNames g, Text.Reference.Overlong x.2.toList count) ∨
    ∃ e ∈ g.edges, Text.Reference.Overlong e.label.toList count

end ActorDiagram.Mermaid
