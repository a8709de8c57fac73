import Moxxy.Python.Dict
import Moxxy.Python.Builtins

/-!
The accessibility snapshot of `bridge.py`: the tree the driver returns, the reference table, and
`build_snapshot_text`.
-/

namespace Moxxy

/-- A value where `build_snapshot_text` expects a node of the accessibility tree. -/
inductive AxNode where
  /--
  A dictionary, with its role, name and value (an absent key reads as `""`) and its children.

  Children Python cannot iterate behave as a list whose first element is malformed:
  the exception is raised at the same point of the walk.
  -/
  | node (role name value : String) (children : List AxNode)
  /-- `None`, which renders as nothing. -/
  | none
  /-- Any other value: reading `.get` off it raises this exception. -/
  | malformed (raised : PyException)

/-- What the table keeps for one reference: enough to query the live page for the element again. -/
structure Descriptor where
  role : String
  name : String
  deriving DecidableEq, Repr

/-- `snapshot_refs`: reference numbers to descriptors. -/
abbrev Refs := PyDict Nat Descriptor

/-- `skip_roles`: roles that say nothing on their own. -/
def skipRoles : List String := ["none", "generic", "presentation"]

/-- `show_node`: a role outside `skip_roles`, with a name or a value. -/
def showNode (role name value : String) : Bool :=
  !(skipRoles.contains role) && (!name.isEmpty || !value.isEmpty)

/--
The line of one shown node: two spaces per shown ancestor, then `[ref] role "name" value="..."`.
-/
def snapshotLine (ref depth : Nat) (role name value : String) : String :=
  let indent := String.join (List.replicate depth "  ")
  let parts := [s!"[{ref}] {role}"] ++ (if name.isEmpty then [] else [s!"\"{name}\""]) ++
    (if value.isEmpty then [] else [s!"value=\"{value}\""])
  indent ++ " ".intercalate parts

mutual

/--
`build_snapshot_text(node, refs, depth)`: the text of one node and its subtree.

Each shown node takes the number `len(refs) + 1` and is recorded in the table.
The table is returned also when an exception stops the walk, as Python's mutation of it stays.
-/
def buildSnapshotText : AxNode → Refs → Nat → Refs × Except PyException String
  | .none, refs, _ => (refs, .ok "")
  | .malformed raised, refs, _ => (refs, .error raised)
  | .node role name value children, refs, depth =>
    if showNode role name value then
      let ref := refs.len + 1
      buildChildren children (refs.set ref ⟨role, name⟩) (depth + 1)
        [snapshotLine ref depth role name value]
    else buildChildren children refs depth []

/--
The loop over a node's children: each non-empty child text becomes one more line, joined by `"\n"`.
-/
def buildChildren : List AxNode → Refs → Nat → List String → Refs × Except PyException String
  | [], refs, _, lines => (refs, .ok ("\n".intercalate lines))
  | child :: rest, refs, depth, lines =>
    match buildSnapshotText child refs depth with
    | (refs, .error raised) => (refs, .error raised)
    | (refs, .ok text) =>
      buildChildren rest refs depth (if text.isEmpty then lines else lines ++ [text])

end

/--
An accessibility tree as the driver returns it: every node a dictionary with a list of children.
-/
inductive AxTree where
  | node (role name value : String) (children : List AxTree)

/--
A shown node as the snapshot lists it: its number of shown proper ancestors, role, name and value.
-/
structure Shown where
  depth : Nat
  role : String
  name : String
  value : String
  deriving DecidableEq, Repr

mutual

/-- The tree as `build_snapshot_text` reads it. -/
def AxTree.toNode : AxTree → AxNode
  | .node role name value children => .node role name value (AxTree.toNodes children)

/-- A list of trees as the values of a `children` list. -/
def AxTree.toNodes : List AxTree → List AxNode
  | [] => []
  | tree :: rest => tree.toNode :: AxTree.toNodes rest

end

mutual

/-- The shown nodes of a tree in pre-order, with `depth` shown ancestors above its root. -/
def AxTree.outline : AxTree → Nat → List Shown
  | .node role name value children, depth =>
    if showNode role name value then
      ⟨depth, role, name, value⟩ :: AxTree.outlines children (depth + 1)
    else AxTree.outlines children depth

/-- The shown nodes of a list of sibling trees, one tree after the other. -/
def AxTree.outlines : List AxTree → Nat → List Shown
  | [], _ => []
  | tree :: rest, depth => tree.outline depth ++ AxTree.outlines rest depth

end

mutual

/--
The walk of `build_snapshot_text` over any value, with `depth` shown ancestors above it: the shown
nodes it numbers in pre-order until it meets a malformed value, and the exception that value raises.
-/
def AxNode.walk : AxNode → Nat → List Shown × Option PyException
  | .none, _ => ([], Option.none)
  | .malformed raised, _ => ([], some raised)
  | .node role name value children, depth =>
    if showNode role name value then
      let below := AxNode.walks children (depth + 1)
      (⟨depth, role, name, value⟩ :: below.1, below.2)
    else AxNode.walks children depth

/-- The walk over sibling values, one after the other, stopping inside the first that raises. -/
def AxNode.walks : List AxNode → Nat → List Shown × Option PyException
  | [], _ => ([], Option.none)
  | child :: rest, depth =>
    match child.walk depth with
    | (shown, some raised) => (shown, some raised)
    | (shown, Option.none) =>
      let after := AxNode.walks rest depth
      (shown ++ after.1, after.2)

end

/-- The descriptor the table records for a shown node. -/
def Shown.descriptor (shown : Shown) : Descriptor := ⟨shown.role, shown.name⟩

/-- The line a shown node renders to under a given number. -/
def Shown.line (shown : Shown) (ref : Nat) : String :=
  snapshotLine ref shown.depth shown.role shown.name shown.value

end Moxxy
