import Moxxy.Browser.Snapshot
import Mathlib.Order.Interval.Finset.Nat

/-!
A snapshot numbers the shown nodes of a tree one after another, in pre-order, after the table's last
entry.
-/

namespace Moxxy

/-- Numbering shown nodes in turn as `build_snapshot_text` does: each one takes `len(refs) + 1`. -/
def numberShown : Refs → List Shown → Refs × List String
  | refs, [] => (refs, [])
  | refs, shown :: rest =>
    let ref := refs.len + 1
    let numbered := numberShown (refs.set ref shown.descriptor) rest
    (numbered.1, shown.line ref :: numbered.2)

/--
Numbering two runs of shown nodes is numbering the first, then the second from where it stopped.
-/
theorem numberShown_append (refs : Refs) (front back : List Shown) :
    numberShown refs (front ++ back) =
      ((numberShown (numberShown refs front).1 back).1,
        (numberShown refs front).2 ++ (numberShown (numberShown refs front).1 back).2) := by
  -- The table is threaded through the front, so the induction moves the starting table along.
  induction front generalizing refs with
  | nil => rfl
  | cons shown rest ih => simp [numberShown, ih]

/-- Joining with a separator flattens a nested join of a non-empty list. -/
theorem intercalate_flatten (sep : String) (front inner back : List String) (filled : inner ≠ []) :
    sep.intercalate (front ++ sep.intercalate inner :: back) =
      sep.intercalate (front ++ (inner ++ back)) := by
  -- On characters, both sides put the separator between the same items.
  apply String.ext
  obtain ⟨first, inner, rfl⟩ := List.exists_cons_of_ne_nil filled
  cases front with
  | nil => simp [intercalate_data, intercalate_cons_eq]
  | cons head front => simp [intercalate_data, intercalate_cons_eq]

/-- Every line of a snapshot holds at least its `[ref]`. -/
theorem snapshotLine_ne_empty (ref depth : Nat) (role name value : String) :
    (snapshotLine ref depth role name value).isEmpty = false := by
  -- The first part starts with an opening bracket after the indentation.
  simp [isEmpty_eq_data, snapshotLine, intercalate_data, intercalate_cons_eq]

/-- Numbering gives one line per shown node. -/
@[simp] theorem numberShown_length (refs : Refs) (shown : List Shown) :
    (numberShown refs shown).2.length = shown.length := by
  induction shown generalizing refs with
  | nil => rfl
  | cons first rest ih => simp [numberShown, ih]

/-- Joined lines are empty exactly when there are none, as no line is empty. -/
theorem intercalate_numberShown_isEmpty (refs : Refs) (shown : List Shown) :
    ("\n".intercalate (numberShown refs shown).2).isEmpty = shown.isEmpty := by
  -- The first line, when there is one, starts the text.
  cases shown with
  | nil => rfl
  | cons first rest =>
    have line : (first.line (refs.len + 1)).data ≠ [] := by
      simpa [isEmpty_eq_data, Shown.line] using
        snapshotLine_ne_empty (refs.len + 1) first.depth first.role first.name first.value
    simp only [numberShown, isEmpty_eq_data, intercalate_data, List.map_cons, intercalate_cons_eq]
    simp [line]

mutual

/--
What any value builds: the shown nodes its walk meets, numbered in turn, and their lines joined; or,
once the walk meets a malformed value, that value's exception, with the table as it stood then.
-/
theorem buildSnapshotText_walk : (node : AxNode) → (refs : Refs) → (depth : Nat) →
    buildSnapshotText node refs depth =
      ((numberShown refs (node.walk depth).1).1,
        (node.walk depth).2.elim (.ok ("\n".intercalate (numberShown refs (node.walk depth).1).2))
          .error)
  | .none, _, _ => rfl
  | .malformed _, _, _ => rfl
  | .node role name value children, refs, depth => by
    -- A shown node opens the lines with its own and numbers its subtree one level deeper.
    by_cases shown : showNode role name value
    · simp only [buildSnapshotText, AxNode.walk, shown, if_true, numberShown,
        buildChildren_walks children]
      rfl
    · simp only [buildSnapshotText, AxNode.walk, shown, numberShown, buildChildren_walks children,
        List.nil_append]
      simp

/--
The loop over a list of children, adding each child's lines to those so far, until a child raises.
-/
theorem buildChildren_walks : (children : List AxNode) → (refs : Refs) → (depth : Nat) →
    (lines : List String) →
    buildChildren children refs depth lines =
      ((numberShown refs (AxNode.walks children depth).1).1,
        (AxNode.walks children depth).2.elim
          (.ok ("\n".intercalate (lines ++ (numberShown refs (AxNode.walks children depth).1).2)))
          .error)
  | [], refs, depth, lines => by simp [buildChildren, AxNode.walks, numberShown]
  | child :: rest, refs, depth, lines => by
    simp only [buildChildren, buildSnapshotText_walk child refs depth, AxNode.walks]
    rcases walked : child.walk depth with ⟨shown, _ | raised⟩
    · -- The first child ends its walk: the rest carry on from its table.
      simp only [Option.elim, buildChildren_walks rest, numberShown_append,
        intercalate_numberShown_isEmpty]
      cases empty : shown.isEmpty
      · -- A child with shown nodes adds its joined text, which flattens into its lines.
        have filled : (numberShown refs shown).2 ≠ [] := by
          simpa [← List.length_pos, List.isEmpty_iff, ← List.length_eq_zero] using empty
        simp [intercalate_flatten _ _ _ _ filled]
      · -- A child with no shown node renders as nothing and numbers nothing.
        simp only [List.isEmpty_iff] at empty
        simp [empty, numberShown]
    · -- The first child raises, and the loop stops with the table it left.
      rfl

end

mutual

/-- A well-formed tree's walk meets every shown node of its outline and never raises. -/
theorem walk_toNode : (tree : AxTree) → (depth : Nat) →
    tree.toNode.walk depth = (tree.outline depth, Option.none)
  | .node role name value children, depth => by
    by_cases shown : showNode role name value <;>
      simp [AxTree.toNode, AxNode.walk, AxTree.outline, shown, walks_toNodes children]

/-- The walk over well-formed siblings meets their outlines one after the other. -/
theorem walks_toNodes : (children : List AxTree) → (depth : Nat) →
    AxNode.walks (AxTree.toNodes children) depth = (AxTree.outlines children depth, Option.none)
  | [], _ => rfl
  | tree :: rest, depth => by
    simp [AxTree.toNodes, AxNode.walks, AxTree.outlines, walk_toNode tree, walks_toNodes rest]

end

/--
The text and table a well-formed tree builds: its shown nodes numbered in turn, their lines joined.
-/
theorem buildSnapshotText_tree (tree : AxTree) (refs : Refs) (depth : Nat) :
    buildSnapshotText tree.toNode refs depth =
      ((numberShown refs (tree.outline depth)).1,
        .ok ("\n".intercalate (numberShown refs (tree.outline depth)).2)) := by
  rw [buildSnapshotText_walk, walk_toNode]
  rfl

/-- The table's keys are exactly the references `1, …, m`. -/
def Numbered (refs : Refs) (m : Nat) : Prop :=
  ∀ k, refs.contains k = true ↔ 1 ≤ k ∧ k ≤ m

/-- The empty table is numbered through zero. -/
theorem Numbered.empty : Numbered (PyDict.empty : Refs) 0 := fun k => by
  simp only [PyDict.contains_empty, Bool.false_eq_true, false_iff]
  omega

/-- A table numbered through `m` has `m` entries. -/
theorem Numbered.len_eq {refs : Refs} {m : Nat} (numbered : Numbered refs m) : refs.len = m := by
  -- Its keys are distinct and are the interval from one to `m`.
  have keys : refs.keys.toFinset = Finset.Icc 1 m := by
    ext k
    simpa [PyDict.contains] using numbered k
  have count := List.toFinset_card_of_nodup refs.keys_nodup
  rw [keys, Nat.card_Icc] at count
  simpa [PyDict.len, PyDict.keys] using count.symm

/-- Numbering one more node as `len(refs) + 1` extends the interval by one. -/
theorem Numbered.set {refs : Refs} {m : Nat} (numbered : Numbered refs m)
    (descriptor : Descriptor) :
    Numbered (refs.set (m + 1) descriptor) (m + 1) := by
  intro k
  rw [PyDict.contains_set, Bool.or_eq_true, numbered k, beq_iff_eq]
  omega

/-- Numbering from a table numbered through `m` numbers through `m` plus the nodes. -/
theorem numberShown_numbered {refs : Refs} {m : Nat} (numbered : Numbered refs m)
    (shown : List Shown) : Numbered (numberShown refs shown).1 (m + shown.length) := by
  induction shown generalizing refs m with
  | nil => exact numbered
  | cons first rest ih =>
    have step := ih (numbered.set first.descriptor)
    rw [numberShown, numbered.len_eq]
    simpa [Nat.add_assoc, Nat.add_comm 1] using step

/-- Numbering leaves the entries already in the table alone. -/
theorem numberShown_get_old {refs : Refs} {m : Nat} (numbered : Numbered refs m)
    (shown : List Shown) {k : Nat} (old : k ≤ m) :
    (numberShown refs shown).1.get? k = refs.get? k := by
  -- Each step writes a key above `m`, and the next steps write keys above that.
  induction shown generalizing refs m with
  | nil => rfl
  | cons first rest ih =>
    rw [numberShown, numbered.len_eq, ih (numbered.set first.descriptor) (by omega)]
    exact PyDict.get?_set_ne _ (by omega) _

/-- The `j`-th node numbered gets the entry `m + j + 1`, holding its descriptor. -/
theorem numberShown_get_new {refs : Refs} {m : Nat} (numbered : Numbered refs m)
    (shown : List Shown) (j : Nat) (within : j < shown.length) :
    (numberShown refs shown).1.get? (m + j + 1) = some shown[j].descriptor := by
  induction shown generalizing refs m j with
  | nil => simp at within
  | cons first rest ih =>
    rw [numberShown, numbered.len_eq]
    cases j with
    | zero =>
      -- The first node's entry is written now and kept by the later steps.
      rw [numberShown_get_old (numbered.set first.descriptor) rest (le_refl _)]
      simp
    | succ j =>
      -- A later node is the same claim one step on, from the table numbered through `m + 1`.
      have later := ih (numbered.set first.descriptor) j (by simpa using within)
      simpa [Nat.add_assoc, Nat.add_comm 1] using later

/-- The `j`-th node numbered renders as its line under the number `m + j + 1`. -/
theorem numberShown_lines {refs : Refs} {m : Nat} (numbered : Numbered refs m)
    (shown : List Shown) :
    (numberShown refs shown).2 = shown.mapIdx (fun j node => node.line (m + j + 1)) := by
  induction shown generalizing refs m with
  | nil => rfl
  | cons first rest ih =>
    rw [numberShown, numbered.len_eq, ih (numbered.set first.descriptor)]
    simp [Nat.add_assoc, Nat.add_comm 1]

/--
For every tree, depth and table numbered through `m`, the snapshot numbers the tree's shown nodes
`m + 1, …, m + n` in pre-order and keeps the entries it had.
-/
theorem buildSnapshotText_numbering (tree : AxTree) (depth m : Nat) (refs : Refs)
    (numbered : ∀ k, refs.contains k = true ↔ 1 ≤ k ∧ k ≤ m) :
    (∀ k, (buildSnapshotText tree.toNode refs depth).1.contains k = true ↔
        1 ≤ k ∧ k ≤ m + (tree.outline depth).length) ∧
      (∀ k, k ≤ m → (buildSnapshotText tree.toNode refs depth).1.get? k = refs.get? k) ∧
      ∀ j (within : j < (tree.outline depth).length),
        (buildSnapshotText tree.toNode refs depth).1.get? (m + j + 1) =
          some (tree.outline depth)[j].descriptor := by
  -- The walk numbers the pre-order outline in turn, which the three numbering laws describe.
  rw [buildSnapshotText_tree]
  exact ⟨numberShown_numbered numbered _, fun k old => numberShown_get_old numbered _ old,
    numberShown_get_new numbered _⟩

/-- A shop: a `generic` wrapper and an unnamed `none` node are not shown, their children are. -/
def shopTree : AxTree :=
  .node "WebArea" "Shop" "" [.node "generic" "" "" [.node "button" "Buy" "" [],
    .node "link" "Cart" "" []], .node "none" "" "" [], .node "textbox" "Search" "socks" []]

/-- A table an earlier page numbered through `2`: its heading and its link. -/
def earlierRefs : Refs := (PyDict.empty.set 1 ⟨"heading", "News"⟩).set 2 ⟨"link", "More"⟩

/--
Numbered after the earlier page's two entries, the shop's four shown nodes get `3, …, 6` in
pre-order, the wrapper's children included, and the earlier entries stay.
-/
theorem buildSnapshotText_numbering_shop :
    (∀ k, earlierRefs.contains k = true ↔ 1 ≤ k ∧ k ≤ 2) ∧
      (∀ k, (buildSnapshotText shopTree.toNode earlierRefs 0).1.contains k = true ↔
        1 ≤ k ∧ k ≤ 6) ∧
      (buildSnapshotText shopTree.toNode earlierRefs 0).1.get? 1 = some ⟨"heading", "News"⟩ ∧
      (buildSnapshotText shopTree.toNode earlierRefs 0).1.get? 4 = some ⟨"button", "Buy"⟩ ∧
      (buildSnapshotText shopTree.toNode earlierRefs 0).1.get? 6 = some ⟨"textbox", "Search"⟩ := by
  have numbered : ∀ k, earlierRefs.contains k = true ↔ 1 ≤ k ∧ k ≤ 2 := by
    intro k
    simp only [earlierRefs, PyDict.contains_set, PyDict.contains_empty, Bool.or_false,
      Bool.or_eq_true, beq_iff_eq]
    omega
  obtain ⟨keys, old, new⟩ := buildSnapshotText_numbering shopTree 0 2 earlierRefs numbered
  exact ⟨numbered, keys, (old 1 (by decide)).trans rfl, new 1 (by decide), new 3 (by decide)⟩

end Moxxy
