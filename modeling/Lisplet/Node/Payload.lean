import Lisplet.Node.Text

/-!
# What a node carries

A host can ask a node for the value it carries. Lists carry their elements and
the blank node nothing; atoms and functions carry a payload.
-/

namespace Lisplet.Node

/-- Whether a node carries nothing, or nil. -/
def carriesNothing : Node → Bool
  | atom _ .nil => true
  | atom _ .blank => true
  | atom _ .absent => true
  | _ => false

/-- Whether a node carries a payload. -/
def hasPayload : Node → Bool
  | atom _ .blank => false
  | atom _ .absent => false
  | list .. => false
  | _ => true

/-- The text of a payload that is a truth value, a number, a string or a symbol. -/
def payloadText? : Node → Option String
  | atom _ (.string text) => some text
  | atom _ (.foreign _ _ text) => some text
  | atom _ (.bool value) => some (Atom.bool value).text
  | atom _ (.number value) => some value.text
  | atom _ (.symbol name) => some name
  | _ => none

/-- The payload as it is printed, for payloads that are not functions and do not
come from the host. -/
def payloadPrint? : Node → Option String
  | atom _ .nil => some "<nil>"
  | atom _ (.foreign ..) => none
  | node => node.payloadText?

end Lisplet.Node
