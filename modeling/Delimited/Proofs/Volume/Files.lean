import Delimited.Conversion

set_option autoImplicit false
set_option relaxedAutoImplicit false

/-!
# Files of a volume

Putting a file at a place changes the node there and no other one, so all directories stay where they
are. A path therefore leads to the file that was made where it leads to.

## Main results

* `Delimited.Volume.node?_put` — the nodes after one was put at a place.
* `Delimited.Volume.locate_of_createOutput` — the path of an output leads to the output.
-/

namespace Delimited

/-- A path that does not end in a slash has no names to trim. -/
theorem Path.trimmedNames_of_getLast? {path : Path} (h : path.names.getLast? ≠ some []) :
    path.trimmedNames = path.names := by
  unfold trimmedNames
  rw [← List.head?_reverse] at h
  cases hnames : path.names.reverse with
  | nil => exact (List.reverse_eq_nil_iff.1 hnames).symm
  | cons last others =>
    rw [hnames] at h
    have hlast : last ≠ [] := fun hnil => h (congrArg some hnil)
    rw [List.dropWhile_cons_of_neg (by simpa using hlast), ← hnames, List.reverse_reverse]

namespace Volume

variable {v w : Volume} {place q : Place} {path : Path}

/-! ## Nodes -/

/-- What is looked up after the nodes at one place were replaced. -/
theorem lookup_map_replace {f : Place × Node → Place × Node} {node : Node}
    (hf : ∀ r n, f (r, n) = if r = place then (r, node) else (r, n)) (nodes : List (Place × Node)) :
    (nodes.map f).lookup q =
      if q = place then (nodes.lookup q).map fun _ => node else nodes.lookup q := by
  induction nodes with
  | nil => simp
  | cons found others ih =>
    obtain ⟨r, n⟩ := found
    rw [List.map_cons, hf, List.lookup_cons]
    by_cases hq : q = r
    · subst hq
      by_cases hplace : q = place <;> simp [hplace]
    · have hq' : (q == r) = false := by simpa using hq
      by_cases hplace : r = place
      · subst hplace
        simp [List.lookup_cons, hq, hq', ih]
      · simp [List.lookup_cons, hplace, hq', ih]

/-- The nodes after one was put at a place. -/
theorem lookup_put (v : Volume) (place q : Place) (node : Node) :
    (v.put place node).nodes.lookup q = if q = place then some node else v.nodes.lookup q := by
  unfold put
  dsimp only
  split
  · next h =>
    rw [lookup_map_replace fun _ _ => rfl]
    by_cases hq : q = place
    · subst hq
      obtain ⟨n, hn⟩ := Option.isSome_iff_exists.1 h
      simp [hn]
    · rw [if_neg hq, if_neg hq]
  · next h =>
    rw [List.lookup_append]
    by_cases hq : q = place
    · subst hq
      simp [Option.not_isSome_iff_eq_none.1 h]
    · have hq' : (q == place) = false := by simpa using hq
      simp [List.lookup_cons, hq, hq']

/-- **The node at a place** after one was put at some place. The directories that are always there
stay. -/
theorem node?_put (v : Volume) (place q : Place) (node : Node) :
    (v.put place node).node? q =
      if q.isAbove ∨ q = Place.top then some .directory
      else if q = place then some node else v.node? q := by
  unfold node?
  split
  · rfl
  · exact lookup_put v place q node

/-- What is no directory is not one of those that are always there. -/
theorem not_always_of_node? (h : v.node? place ≠ some .directory) :
    ¬(place.isAbove ∨ place = Place.top) :=
  fun halways => h (if_pos halways)

/-- The node that was put in place of something other than a directory. -/
theorem node?_put_self (h : v.node? place ≠ some .directory) (node : Node) :
    (v.put place node).node? place = some node := by
  rw [node?_put, if_neg (not_always_of_node? h), if_pos rfl]

/-- The other nodes stay. -/
theorem node?_put_of_ne (h : q ≠ place) (node : Node) :
    (v.put place node).node? q = v.node? q := by
  rw [node?_put, if_neg h]
  split
  · next halways => exact (if_pos halways).symm
  · rfl

/-- All directories stay if a node is put in place of something else. -/
theorem directory_put (h : v.node? place ≠ some .directory) (node : Node)
    (hq : v.node? q = some .directory) : (v.put place node).node? q = some .directory := by
  have hne : q ≠ place := fun heq => h (heq ▸ hq)
  rw [node?_put_of_ne hne, hq]

/-! ## Paths -/

/-- Going on from where the first names lead to. -/
theorem walk_append {here mid : Place} {xs : List Bytes} (h : v.walk here xs = .ok mid)
    (ys : List Bytes) : v.walk here (xs ++ ys) = v.walk mid ys := by
  fun_induction walk v here xs with
  | case1 here =>
    cases h
    rfl
  | case2 here name names hnode hname ih =>
    rw [List.cons_append, walk, hnode]
    exact (if_pos hname).trans (ih h)
  | case3 here names hnode hname ih =>
    rw [List.cons_append, walk, hnode]
    exact ih h
  | case4 | case6 | case7 => cases h
  | case5 here name names hnode hname hup hlong ih =>
    rw [List.cons_append, walk, hnode]
    dsimp only
    rw [if_neg hname, if_neg hup, if_neg hlong]
    exact ih h

/-- Names lead to the same place in a volume that has all the directories too. -/
theorem walk_mono {here : Place} {names : List Bytes} (h : v.walk here names = .ok place)
    (hkept : ∀ q, v.node? q = some .directory → w.node? q = some .directory) :
    w.walk here names = .ok place := by
  fun_induction walk v here names with
  | case1 here => exact h
  | case2 here name names hnode hname ih =>
    rw [walk, hkept here hnode]
    exact (if_pos hname).trans (ih h)
  | case3 here names hnode hname ih =>
    rw [walk, hkept here hnode]
    exact ih h
  | case4 | case6 | case7 => cases h
  | case5 here name names hnode hname hup hlong ih =>
    rw [walk, hkept here hnode]
    dsimp only
    rw [if_neg hname, if_neg hup, if_neg hlong]
    exact ih h

/-- The place for a file is where all names of the path lead to. -/
theorem walk_of_target (h : v.target path = .ok place) :
    pathFault? path = none ∧ v.walk (origin path) path.names = .ok place := by
  unfold target at h
  split at h
  · cases h
  · next hfault =>
    refine ⟨hfault, ?_⟩
    dsimp only at h
    split at h
    · cases h
    · next parent hparent =>
      split at h
      · split at h
        · cases h
        · next hslash =>
          rw [Path.trimmedNames_of_getLast? hslash] at h hparent
          rw [List.dropLast_eq_take] at hparent
          rw [← List.take_append_drop (path.names.length - 1) path.names]
          exact (walk_append hparent _).trans h
      · cases h
      · cases h

/-! ## Outputs -/

/-- Where an output is made there was no directory, and now there is an empty file. -/
theorem of_createOutput (h : v.createOutput path = .ok (place, w)) :
    v.target path = .ok place ∧ v.node? place ≠ some .directory ∧
      w = v.put place (.file (.plain [])) := by
  unfold createOutput create at h
  split at h
  · next hmade =>
    split at hmade
    · cases hmade
    · next hplace =>
      split at hmade
      · cases hmade
      · next hnode =>
        cases hmade
        cases h
        exact ⟨hplace, hnode, rfl⟩
  · split at h <;> cases h

/-- **The path of an output leads to the output**, once its content is there. -/
theorem locate_of_createOutput (h : v.createOutput path = .ok (place, w)) (content : Content) :
    (w.put place (.file content)).locate path = .ok (place, .file content) := by
  obtain ⟨hplace, hnode, rfl⟩ := of_createOutput h
  obtain ⟨hfault, hwalk⟩ := walk_of_target hplace
  have hempty : (v.put place (.file (.plain []))).node? place ≠ some .directory := by
    rw [node?_put_self hnode]
    exact fun heq => by cases heq
  have hkept := walk_mono hwalk fun q hq =>
    directory_put hempty (.file content) (directory_put hnode (.file (.plain [])) hq)
  rw [locate, hfault]
  dsimp only
  rw [hkept]
  dsimp only
  rw [node?_put_self hempty]

/-- Making an output leaves the other nodes. -/
theorem node?_of_createOutput (h : v.createOutput path = .ok (place, w)) (hq : q ≠ place) :
    w.node? q = v.node? q := by
  obtain ⟨-, -, rfl⟩ := of_createOutput h
  exact node?_put_of_ne hq _

/-- The node to which a path leads is the one at its place. -/
theorem node?_of_locate {node : Node} (h : v.locate path = .ok (place, node)) :
    v.node? place = some node := by
  unfold locate at h
  split at h
  · cases h
  · split at h
    · cases h
    · split at h
      · next hnode =>
        cases h
        exact hnode
      · cases h

end Volume

end Delimited
