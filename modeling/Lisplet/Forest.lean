import Lisplet.Node.Equality
import Lisplet.Node.Text

/-!
# Shared nodes

A host that builds nodes by hand can put one node in several places and add
elements to a list afterwards, which then shows in all of them. A forest holds
such nodes in numbered cells; a list refers to the cells of its elements. Taking
a node out of the forest gives the tree it stands for.
-/

namespace Lisplet

/-- The number of a cell. -/
abbrev CellId := Nat

/-- What a cell holds besides its token. An element that was not supplied has no
cell. -/
inductive Content where
  | atom (value : Atom)
  | list (items : List (Option CellId))
  | closure (identity : Nat) (params : List String) (body : List Node) (scope : Nat)
  deriving Repr

/-- A node that can be shared. -/
structure Cell where
  /-- The token of the node. -/
  token : Option Token
  /-- What the node holds. -/
  content : Content
  deriving Repr

/-- Nodes that refer to each other. -/
structure Forest where
  /-- The nodes, in the order they were made. -/
  cells : Array Cell := #[]
  deriving Repr

namespace Forest

/-- Add a node. -/
def plant (forest : Forest) (cell : Cell) : Forest × CellId :=
  ({ cells := forest.cells.push cell }, forest.cells.size)

/-- What a cell holds. -/
def content? (forest : Forest) (id : CellId) : Option Content := forest.cells[id]?.map Cell.content

/-- The atom in a cell. -/
def atom? (forest : Forest) (id : CellId) : Option Atom :=
  match forest.content? id with
  | some (.atom value) => some value
  | _ => none

/-- Whether a cell holds a list. -/
def isList (forest : Forest) (id : CellId) : Bool :=
  match forest.content? id with
  | some (.list _) => true
  | _ => false

/-- Add an element to a list. Other nodes do not take elements. -/
def push? (forest : Forest) (id : CellId) (item : Option CellId) : Option Forest :=
  if forest.isList id then
    some { cells := forest.cells.modify id fun cell =>
      match cell.content with
      | .list items => { cell with content := .list (items ++ [item]) }
      | _ => cell }
  else none

/-- What is said when an element is added to a node that is not a list. -/
def pushRefusal : String := "nodes of type value can\x27t accept children"

/-- The tree of a node down to the given depth; what lies deeper is left out. -/
def treeTo (forest : Forest) : Nat → Option CellId → Node
  | 0, _ => .atom none .absent
  | _ + 1, none => .atom none .absent
  | depth + 1, some id =>
    match forest.cells[id]? with
    | none => .atom none .absent
    | some { token, content := .atom value } => .atom token value
    | some { token, content := .list items } => .list token (items.map (forest.treeTo depth))
    | some { token, content := .closure identity params body scope } =>
      .closure token identity params body scope

/-- The tree of a node. No path through nodes that do not contain themselves is
longer than there are nodes. -/
def tree (forest : Forest) (id : Option CellId) : Node :=
  forest.treeTo (forest.cells.size + 1) id

/-- A node by itself. Its elements are left out, though not their number. -/
def surface (forest : Forest) (id : Option CellId) : Node := forest.treeTo 1 id

/-- Whether two lists agree element by element. -/
def pairwise {α : Type} (agree : α → α → Bool) : List α → List α → Bool
  | [], [] => true
  | a :: rest, b :: others => agree a b && pairwise agree rest others
  | _, _ => false

/-- Equality of nodes down to the given depth. A node equals itself without a
look at what it holds. -/
def sameTo (forest : Forest) : Nat → Option CellId → Option CellId → Bool
  | 0, a, b => a == b
  | depth + 1, a, b =>
    a == b ||
      match a, b with
      | some i, some j =>
        match forest.content? i, forest.content? j with
        | some (.atom x), some (.atom y) => x.same y
        | some (.list items), some (.list others) => pairwise (forest.sameTo depth) items others
        | some (.closure first _ _ _), some (.closure second _ _ _) => first == second
        | _, _ => false
      | _, _ => false

/-- Equality of nodes. -/
def same (forest : Forest) (a b : Option CellId) : Bool :=
  forest.sameTo (forest.cells.size + 1) a b

end Forest

end Lisplet
