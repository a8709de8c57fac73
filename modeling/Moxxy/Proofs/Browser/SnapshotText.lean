import Moxxy.Proofs.Browser.Numbering

/-!
The snapshot text lists one line per shown node, naming the descriptor the table stores under its
number.
-/

namespace Moxxy

/-- `text.split("\n")`, how a caller reads the snapshot line by line. -/
def splitLines (text : String) : List String :=
  (text.data.splitOn '\n').map String.mk

/--
The line described for reference `k`: two spaces per shown ancestor, `[k] `, the role, then the
quoted name and value when present.
-/
def describedLine (k : Nat) (shown : Shown) : String :=
  String.mk (List.replicate (2 * shown.depth) ' ') ++ "[" ++ toString k ++ "] " ++ shown.role ++
    (if shown.name = "" then "" else " \"" ++ shown.name ++ "\"") ++
    (if shown.value = "" then "" else " value=\"" ++ shown.value ++ "\"")

/-- `"  " * depth` is two spaces per level. -/
theorem indent_data (depth : Nat) :
    (List.replicate depth [' ', ' ']).flatten = List.replicate (2 * depth) ' ' := by
  -- Each level puts the same two spaces in front.
  induction depth with
  | zero => rfl
  | succ depth ih =>
    rw [List.replicate_succ, List.flatten_cons, ih, show 2 * (depth + 1) = 2 + 2 * depth by omega,
      List.replicate_add]
    rfl

/-- The source's `' '.join(parts)` writes exactly the described line. -/
theorem line_eq_describedLine (shown : Shown) (k : Nat) : shown.line k = describedLine k shown := by
  -- The indentation agrees, and each optional part brings its own leading space.
  apply String.ext
  by_cases noName : shown.name = "" <;> by_cases noValue : shown.value = "" <;>
    simp [Shown.line, snapshotLine, describedLine, noName, noValue, String.isEmpty_iff, indent_data,
      intercalate_data, intercalate_cons_eq]

/-- The digits of a number hold no newline. -/
theorem newline_not_mem_toString (k : Nat) : '\n' ∉ (toString k).data := by
  -- Each digit comes from `Nat.digitChar`, none of whose characters is a newline.
  have digit : ∀ d < 10, Nat.digitChar d ≠ '\n' := by
    intro d small
    rcases d with _ | _ | _ | _ | _ | _ | _ | _ | _ | _ | d
    all_goals first | decide | omega
  have core : ∀ fuel n (ds : List Char), '\n' ∉ ds → '\n' ∉ Nat.toDigitsCore 10 fuel n ds := by
    intro fuel
    induction fuel with
    | zero => intro n ds clean; exact clean
    | succ fuel ih =>
      intro n ds clean
      have head : '\n' ∉ Nat.digitChar (n % 10) :: ds := by
        simpa [Ne.symm (digit _ (Nat.mod_lt n (by decide)))] using clean
      show '\n' ∉ if n / 10 = 0 then Nat.digitChar (n % 10) :: ds
        else Nat.toDigitsCore 10 fuel (n / 10) (Nat.digitChar (n % 10) :: ds)
      split
      · exact head
      · exact ih _ _ head
  exact core _ _ [] (by simp)

/-- A described line is one line when its role, name and value are. -/
theorem newline_not_mem_describedLine {shown : Shown} (k : Nat) (role : '\n' ∉ shown.role.data)
    (name : '\n' ∉ shown.name.data) (value : '\n' ∉ shown.value.data) :
    '\n' ∉ (describedLine k shown).data := by
  -- The rest of the line is spaces, brackets, quotes, `value=` and the digits of `k`.
  have digits := newline_not_mem_toString k
  by_cases noName : shown.name = "" <;> by_cases noValue : shown.value = "" <;>
    simp [describedLine, noName, noValue, role, name, value, digits]

/-- Splitting a join of single lines on newlines gives the lines back. -/
theorem splitLines_intercalate {lines : List String} (filled : lines ≠ [])
    (single : ∀ line ∈ lines, '\n' ∉ line.data) : splitLines ("\n".intercalate lines) = lines := by
  -- On characters this is the library's split of a join.
  have split : (List.intercalate ['\n'] (lines.map String.data)).splitOn '\n' =
      lines.map String.data :=
    List.splitOn_intercalate (lines.map String.data) '\n' (by simpa using single)
      (by simpa using filled)
  simp only [splitLines, intercalate_data]
  rw [split, List.map_map]
  exact List.map_id'' (fun _ => rfl) lines

/--
For every tree whose shown nodes' roles, names and values hold no newline, the snapshot is the
join of one described line per shown node, each naming the descriptor stored under its number.
-/
theorem buildSnapshotText_lines (tree : AxTree)
    (singleLine : ∀ shown ∈ tree.outline 0,
      '\n' ∉ shown.role.data ∧ '\n' ∉ shown.name.data ∧ '\n' ∉ shown.value.data) :
    (buildSnapshotText tree.toNode PyDict.empty 0).2 =
        .ok ("\n".intercalate
          ((tree.outline 0).mapIdx fun j shown => describedLine (j + 1) shown)) ∧
      (tree.outline 0 ≠ [] →
        splitLines ("\n".intercalate
            ((tree.outline 0).mapIdx fun j shown => describedLine (j + 1) shown)) =
          (tree.outline 0).mapIdx fun j shown => describedLine (j + 1) shown) ∧
      ∀ j (within : j < (tree.outline 0).length),
        (buildSnapshotText tree.toNode PyDict.empty 0).1.get? (j + 1) =
          some (tree.outline 0)[j].descriptor := by
  -- The empty table is numbered through zero, so the numbering laws give lines and entries.
  have empty : Numbered (PyDict.empty : Refs) 0 := by intro k; simp; omega
  have lines := numberShown_lines empty (tree.outline 0)
  simp only [Nat.zero_add, line_eq_describedLine] at lines
  refine ⟨by rw [buildSnapshotText_tree, lines], fun filled => ?_, fun j within => ?_⟩
  · -- Every described line is a single line, and there is at least one.
    apply splitLines_intercalate (by simpa using filled)
    intro line member
    obtain ⟨j, within, rfl⟩ := List.mem_iff_getElem.1 member
    obtain ⟨role, name, value⟩ := singleLine _ (List.getElem_mem (by simpa using within))
    simpa using newline_not_mem_describedLine (j + 1) role name value
  · rw [buildSnapshotText_tree]
    simpa using numberShown_get_new empty (tree.outline 0) j within

/--
The shop meets the single-line condition: its snapshot is the join of the described lines of its
four shown nodes, the wrapper's two children at the wrapper's depth, and splits back into them.
-/
theorem buildSnapshotText_lines_shop :
    (∀ shown ∈ shopTree.outline 0,
      '\n' ∉ shown.role.data ∧ '\n' ∉ shown.name.data ∧ '\n' ∉ shown.value.data) ∧
      (buildSnapshotText shopTree.toNode PyDict.empty 0).2 =
        .ok ("\n".intercalate ((shopTree.outline 0).mapIdx
          fun j shown => describedLine (j + 1) shown)) ∧
      (shopTree.outline 0).mapIdx (fun j shown => describedLine (j + 1) shown) =
        ["[1] WebArea \"Shop\"", "  [2] button \"Buy\"", "  [3] link \"Cart\"",
          "  [4] textbox \"Search\" value=\"socks\""] ∧
      splitLines ("\n".intercalate
          ((shopTree.outline 0).mapIdx fun j shown => describedLine (j + 1) shown)) =
        (shopTree.outline 0).mapIdx fun j shown => describedLine (j + 1) shown :=
  have clean : ∀ shown ∈ shopTree.outline 0,
      '\n' ∉ shown.role.data ∧ '\n' ∉ shown.name.data ∧ '\n' ∉ shown.value.data := by decide
  have lines := buildSnapshotText_lines shopTree clean
  ⟨clean, lines.1, rfl, lines.2.1 (by decide)⟩

/-- A value holding a newline, as a textarea's can, splits the one line of its node in two. -/
theorem snapshotText_multiline_value :
    ((AxTree.node "textbox" "Notes" "a\nb" []).outline 0).length = 1 ∧
      (buildSnapshotText (AxTree.node "textbox" "Notes" "a\nb" []).toNode PyDict.empty 0).2 =
        .ok "[1] textbox \"Notes\" value=\"a\nb\"" ∧
      (splitLines "[1] textbox \"Notes\" value=\"a\nb\"").length = 2 :=
  ⟨by decide, rfl, by decide⟩

end Moxxy
