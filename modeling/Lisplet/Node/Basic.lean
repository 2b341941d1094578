import Lisplet.Decimal.Text
import Lisplet.Primitive
import Lisplet.Token

/-!
# Nodes

Programs and values are made of the same nodes: lists of nodes, closures, and
atoms. A node read from a source keeps the token it was read from; a node made by
a program has none. A host can bring in nodes of its own with an arbitrary kind.
-/

namespace Lisplet

/-- What a node is, as a program can tell. -/
inductive Kind where
  | nil
  | number
  | string
  | symbol
  | bool
  | function
  | list
  /-- A kind without a name, known by its code. -/
  | other (code : Nat)
  deriving DecidableEq, Repr

namespace Kind

/-- The code of a kind: bit 7 marks values, bit 8 lists, and the low bits tell
the kinds apart. -/
def code : Kind → Nat
  | nil => 129
  | number => 130
  | string => 132
  | symbol => 136
  | bool => 144
  | function => 160
  | list => 257
  | other code => code

/-- The kinds with a name. -/
def named : List Kind := [nil, number, string, symbol, bool, function, list]

/-- The kind with the given code. -/
def ofCode (code : Nat) : Kind := (named.find? (·.code == code)).getD (other code)

/-- The name of a kind; empty for one without a name. -/
def name : Kind → String
  | nil => "nil"
  | number => "number"
  | string => "string"
  | symbol => "symbol"
  | bool => "bool"
  | function => "function"
  | list => "list"
  | other _ => ""

/-- Whether nodes of the kind are values with a text of their own. -/
def isValue (kind : Kind) : Bool := kind.code.testBit 7

/-- Whether nodes of the kind hold other nodes. -/
def isVector (kind : Kind) : Bool := kind.code.testBit 8

end Kind

/-- What a node without parts holds. -/
inductive Atom where
  | nil
  | bool (value : Bool)
  | number (value : Decimal)
  | string (text : String)
  | symbol (name : String)
  | primitive (function : Primitive)
  /-- A value of the host, with an identity of its own. -/
  | foreign (identity : Nat) (kind : Kind) (text : String)
  /-- A node with nothing in it. -/
  | blank
  /-- A place where no node was supplied. -/
  | absent
  deriving DecidableEq, Repr

/-- A piece of program or a value. -/
inductive Node where
  | atom (token : Option Token) (value : Atom)
  | list (token : Option Token) (items : List Node)
  /-- A function of the program: its identity, parameters and body, and the scope
  it was made in. -/
  | closure (token : Option Token) (identity : Nat) (params : List String) (body : List Node)
      (scope : Nat)
  deriving Repr

/-- The kind of an atom. -/
def Atom.kind : Atom → Kind
  | nil => .nil
  | bool _ => .bool
  | number _ => .number
  | string _ => .string
  | symbol _ => .symbol
  | primitive _ => .function
  | foreign _ kind _ => kind
  | blank => .other 0
  | absent => .other 0

namespace Node

instance : Inhabited Node := ⟨.atom none .nil⟩

/-- The value that stands for nothing, and for false. -/
def nil : Node := .atom none .nil

/-- A truth value. -/
def bool (value : Bool) : Node := .atom none (.bool value)

/-- A number made by a program. -/
def number (value : Decimal) : Node := .atom none (.number value)

/-- A symbol made by a program. -/
def symbol (name : String) : Node := .atom none (.symbol name)

/-- A list made by a program. -/
def ofList (items : List Node) : Node := .list none items

/-- A primitive function as a value. -/
def primitive (function : Primitive) : Node := .atom none (.primitive function)

/-- The token a node was read from. -/
def token? : Node → Option Token
  | atom token _ => token
  | list token _ => token
  | closure token .. => token

/-- The kind of a node. -/
def kind : Node → Kind
  | atom _ value => value.kind
  | list .. => .list
  | closure .. => .function

/-- The elements of a list. -/
def items? : Node → Option (List Node)
  | list _ items => some items
  | _ => none

/-- The number in a node. -/
def number? : Node → Option Decimal
  | atom _ (.number value) => some value
  | _ => none

/-- The name in a symbol. -/
def symbol? : Node → Option String
  | atom _ (.symbol name) => some name
  | _ => none

/-- The truth value in a node. -/
def bool? : Node → Option Bool
  | atom _ (.bool value) => some value
  | _ => none

/-- How many elements a node has; a node that is not a list has none. -/
def length (node : Node) : Nat := (node.items?.getD []).length

/-- Whether a condition with this value fails: nil and false do, nothing else. -/
def isFalsy (node : Node) : Bool := node.kind == .nil || node.bool? == some false

/-- Whether a node can be applied to arguments. -/
def isCallable : Node → Bool
  | closure .. => true
  | atom _ (.primitive _) => true
  | _ => false

end Node

end Lisplet
