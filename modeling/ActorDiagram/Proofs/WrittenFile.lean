import Mathlib
import ActorDiagram.CommandLine.Path
import ActorDiagram.Proofs.Results

/-!
# Written files

A file that is written is found where it was written, with what was written in it. Only what is written to the
null device is lost.
-/

namespace ActorDiagram.FileTree

variable {tree tree' : FileTree} {p : Path} {place start : List String} {names : List String} {name : String}
  {bytes : List Nat}

/-! ### Places of a tree -/

lemma nodeAt?_put_of_ne {q : List String} (h : q ≠ place) (node : FileNode) :
    (tree.put place node).nodeAt? q = tree.nodeAt? q := by
  unfold nodeAt? put
  have hfilter : (tree.nodes.filter (·.1 != place)).find? (·.1 == q) = tree.nodes.find? (·.1 == q) := by
    rw [List.find?_filter]
    congr 1
    funext x
    by_cases hx : x.1 = q
    · simp [hx, h]
    · simp [hx]
  have hlast : [(place, node)].find? (·.1 == q) = none := by simp [Ne.symm h]
  simp only [List.find?_append, hfilter, hlast, Option.or_none]

/-- There is nothing but a directory at the places that need no node. -/
lemma nodeAt?_put_self (h : tree.nodeAt? place ≠ some .directory) (node : FileNode) :
    (tree.put place node).nodeAt? place = some node := by
  unfold nodeAt? put at *
  split_ifs at h ⊢ with howned
  · exact absurd rfl h
  · have hfilter : (tree.nodes.filter (·.1 != place)).find? (·.1 == place) = none := by
      simp
    simp [List.find?_append, hfilter]

lemma nodeAt?_of_isAncestor (h : isAncestor place = true) : tree.nodeAt? place = some .directory := by
  simp [nodeAt?, h]

/-! ### Names on a path -/

/-- Place that a name leads to from a directory. -/
def entered (place : List String) (name : String) : List String :=
  if name = ".." then above place else place ++ [name]

/-- What is found where this stands. -/
def Found.ofNode (place : List String) : FileNode → Found
  | .directory => .directory place
  | .file bytes => .file place bytes
  | .nullDevice => .nullDevice

lemma enter_directory (tree : FileTree) (hlength : ¬ 255 < name.utf8ByteSize) (place : List String) :
    tree.enter (.directory place) name = match tree.nodeAt? (entered place name) with
      | none => .missing
      | some .directory => .directory (entered place name)
      | some (.file bytes) => .file (entered place name) bytes
      | some .nullDevice => .nullDevice := if_neg hlength

lemma enter_of_none (hlength : ¬ 255 < name.utf8ByteSize) (h : tree.nodeAt? (entered place name) = none) :
    tree.enter (.directory place) name = .missing := by
  rw [enter_directory tree hlength, h]

/-- What a name leads to is what stands at its place. -/
lemma enter_of_node (hlength : ¬ 255 < name.utf8ByteSize) {node : FileNode}
    (h : tree.nodeAt? (entered place name) = some node) :
    tree.enter (.directory place) name = .ofNode (entered place name) node := by
  rw [enter_directory tree hlength, h]
  cases node <;> rfl

lemma enter_cases (tree : FileTree) (found : Found) (name : String) :
    tree.enter found name ∈ [.missing, .tooLong, .blocked] ∨
      ∃ place, found = .directory place ∧ ¬ 255 < name.utf8ByteSize := by
  cases found with
  | directory place =>
    by_cases hlength : 255 < name.utf8ByteSize
    · have htooLong : tree.enter (.directory place) name = .tooLong := if_pos hlength
      exact .inl (by simp [htooLong])
    · exact .inr ⟨place, rfl, hlength⟩
  | missing | tooLong | blocked | file | nullDevice => exact .inl (by simp [enter])

lemma enter_eq_ofNode {found : Found} (node : FileNode) (hnode : node ≠ .nullDevice)
    (h : tree.enter found name = .ofNode place node) :
    ∃ above, found = .directory above ∧ ¬ 255 < name.utf8ByteSize ∧ place = entered above name ∧
      tree.nodeAt? place = some node := by
  rcases tree.enter_cases found name with hnone | ⟨above, rfl, hlength⟩
  · rw [h] at hnone
    cases node <;> simp [Found.ofNode] at hnone hnode
  · refine ⟨above, rfl, hlength, ?_⟩
    cases hstands : tree.nodeAt? (entered above name) with
    | none =>
      rw [enter_of_none hlength hstands] at h
      cases node <;> cases h
    | some node' =>
      rw [enter_of_node hlength hstands] at h
      cases node <;> cases node' <;> cases h <;> first | exact ⟨rfl, hstands⟩ | exact absurd rfl hnode

/-- A way through directories stays when something is put where no directory is. -/
lemma foldl_enter_put {names : List String} {found : Found} {q : List String}
    (h : names.foldl tree.enter found = .directory q) (hplace : tree.nodeAt? place ≠ some .directory)
    (node : FileNode) : names.foldl (tree.put place node).enter found = .directory q := by
  induction names using List.reverseRecOn generalizing q with
  | nil => exact h
  | append_singleton names name ih =>
    rw [List.foldl_append, List.foldl_cons, List.foldl_nil] at h ⊢
    obtain ⟨above, hfound, hlength, rfl, hnode⟩ := enter_eq_ofNode .directory nofun h
    have hne : entered above name ≠ place := by
      rintro rfl
      exact hplace hnode
    rw [ih hfound]
    exact enter_of_node hlength ((nodeAt?_put_of_ne hne node).trans hnode)

lemma isAncestor_of_front {q : List String} (h : isAncestor place = true) (hq : q <+: place) :
    isAncestor q = true := by
  rw [isAncestor, List.all_eq_true] at h ⊢
  exact fun name hname => h name (hq.subset hname)

/-- Going up stays among directories. -/
lemma nodeAt?_of_front_above {q : List String} (h : ∀ q, q <+: place → tree.nodeAt? q = some .directory)
    (hq : q <+: above place) : tree.nodeAt? q = some .directory := by
  unfold above at hq
  split_ifs at hq with hancestor hroot
  · have hup : isAncestor (place ++ [".."]) = true := by
      rw [isAncestor, List.all_append, Bool.and_eq_true]
      exact ⟨hancestor, rfl⟩
    exact nodeAt?_of_isAncestor (isAncestor_of_front hup hq)
  · exact h q hq
  · exact h q (hq.trans (List.dropLast_prefix place))

/-- Above a directory that a way leads to are directories only. -/
lemma nodeAt?_of_front (hstart : ∀ q, q <+: start → tree.nodeAt? q = some .directory)
    (h : names.foldl tree.enter (.directory start) = .directory place) :
    ∀ q, q <+: place → tree.nodeAt? q = some .directory := by
  induction names using List.reverseRecOn generalizing place with
  | nil =>
    cases h
    exact hstart
  | append_singleton names name ih =>
    rw [List.foldl_append, List.foldl_cons, List.foldl_nil] at h
    obtain ⟨above, hfound, -, rfl, hnode⟩ := enter_eq_ofNode .directory nofun h
    have habove := ih hfound
    intro q hq
    unfold entered at hq hnode
    split_ifs at hq hnode with hup
    · exact nodeAt?_of_front_above habove hq
    · rcases List.prefix_concat_iff.mp hq with rfl | hq
      · exact hnode
      · exact habove q hq

/-- There is a directory above each that a way leads to. -/
lemma nodeAt?_startOf (tree : FileTree) (p : Path) :
    ∀ q, q <+: startOf p → tree.nodeAt? q = some .directory := by
  intro q hq
  unfold startOf at hq
  split_ifs at hq
  · exact nodeAt?_of_isAncestor (isAncestor_of_front rfl hq)
  · rcases List.prefix_concat_iff.mp (show q <+: [] ++ ["/"] from hq) with rfl | hq
    · rfl
    · exact nodeAt?_of_isAncestor (isAncestor_of_front rfl hq)

/-- A path that leads somewhere is not too long. -/
lemma foldl_of_find {found : Found} (hnull : p.hasNull = false) (h : tree.find p = found) (hne : found ≠ .tooLong) :
    p.isTooLong = false ∧ p.names.foldl tree.enter (.directory (startOf p)) = found := by
  rw [find, if_neg (by simp [hnull])] at h
  split_ifs at h with hlong
  · exact absurd h.symm hne
  · exact ⟨by simpa using hlong, h⟩

lemma find_put (hnull : p.hasNull = false) (hlong : p.isTooLong = false) (hnames : p.names = names ++ [name])
    (h : names.foldl tree.enter (.directory (startOf p)) = .directory place)
    (hlength : ¬ 255 < name.utf8ByteSize) (hplace : tree.nodeAt? (entered place name) ≠ some .directory) :
    (tree.put (entered place name) (.file bytes)).find p = .file (entered place name) bytes := by
  rw [find, if_neg (by simp [hnull]), if_neg (by simp [hlong]), hnames, List.foldl_append, List.foldl_cons,
    List.foldl_nil, foldl_enter_put h hplace]
  exact enter_of_node hlength (nodeAt?_put_self hplace _)

/-- A name that leads from a directory to nothing is not the way up. -/
lemma entered_of_missing (hup : ∀ q, q <+: place → tree.nodeAt? q = some .directory)
    (h : tree.enter (.directory place) name = .missing) : ¬ 255 < name.utf8ByteSize ∧
      entered place name = place ++ [name] ∧ tree.nodeAt? (entered place name) = none := by
  by_cases hlength : 255 < name.utf8ByteSize
  · have htooLong : tree.enter (.directory place) name = .tooLong := if_pos hlength
    rw [htooLong] at h
    cases h
  · cases hnode : tree.nodeAt? (entered place name) with
    | some node =>
      rw [enter_of_node hlength hnode] at h
      cases node <;> cases h
    | none =>
      refine ⟨hlength, if_neg ?_, rfl⟩
      rintro rfl
      have habove : tree.nodeAt? (above place) = some .directory := nodeAt?_of_front_above hup List.prefix_rfl
      exact absurd (hnode.symm.trans habove) nofun

theorem find_writeFile (hnull : p.hasNull = false) (h : tree.writeFile p bytes = .ok tree') :
    (∃ place, tree'.find p = .file place bytes) ∨ tree'.find p = .nullDevice := by
  unfold writeFile at h
  split at h
  · -- The file that is there is written anew.
    rename_i place old hfile
    cases h
    obtain ⟨hlong, hfold⟩ := foldl_of_find hnull hfile nofun
    rcases List.eq_nil_or_concat' p.names with hnil | ⟨names, name, hnames⟩
    · rw [hnil] at hfold
      cases hfold
    · rw [hnames, List.foldl_append, List.foldl_cons, List.foldl_nil] at hfold
      obtain ⟨above, habove, hlength, rfl, hnode⟩ := enter_eq_ofNode (.file old) nofun hfold
      exact .inl ⟨_, find_put hnull hlong hnames habove hlength (by simp [hnode])⟩
  · rename_i hdevice
    cases h
    exact .inr hdevice
  · cases h
  · -- A new file is put below the directory.
    rename_i place name hmissing hdirectory hlast
    cases h
    obtain ⟨names, hnames⟩ := List.getLast?_eq_some_iff.mp hlast
    have hparent : p.parent.names = names := by simp [Path.parent, hnames]
    have hparentNull : p.parent.hasNull = false := by
      rw [Path.hasNull, hnames, List.any_append, Bool.or_eq_false_iff] at hnull
      rw [Path.hasNull, hparent]
      exact hnull.1
    obtain ⟨hlong, hfold⟩ := foldl_of_find hnull hmissing nofun
    obtain ⟨-, habove⟩ := foldl_of_find hparentNull hdirectory nofun
    have hstart : startOf p.parent = startOf p := rfl
    rw [hparent, hstart] at habove
    rw [hnames, List.foldl_append, habove, List.foldl_cons, List.foldl_nil] at hfold
    have hup := nodeAt?_of_front (nodeAt?_startOf tree p) habove
    obtain ⟨hlength, hentered, hnode⟩ := entered_of_missing hup hfold
    rw [← hentered]
    exact .inl ⟨_, find_put hnull hlong hnames habove hlength (by simp [hnode])⟩
  · cases h
  · cases h

/-- A file that is written is found with what was written in it, unless it is the null device. -/
theorem find_write (h : tree.write p bytes = .ok tree') :
    (∃ place, tree'.find p = .file place bytes) ∨ tree'.find p = .nullDevice := by
  unfold write at h
  by_cases hparent : p.parent.hasNull = true
  · rw [if_pos hparent] at h
    cases h
  · rw [if_neg hparent] at h
    obtain ⟨made, -, h⟩ := bind_eq_ok_iff.mp h
    split_ifs at h with hnull
    exact find_writeFile (by simpa using hnull) h

end ActorDiagram.FileTree
