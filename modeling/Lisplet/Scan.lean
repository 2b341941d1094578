import Lisplet.Source
import Lisplet.Piece
import Lisplet.Text.Lines

/-!
# Scanning a source

Scanning turns a source into tokens. An opening bracket that was not written
comes first and a closing one last, so that a whole source reads as one list.

The characters are delivered one ahead of the one being taken, so a defect is
noticed when the character before it is taken. From then on no new lexeme is
begun, but one whose first character was taken earlier is still read to its end.
-/

namespace Lisplet

/-- What scanning gives. -/
structure Scan where
  /-- The tokens, with the two unwritten brackets around them. -/
  tokens : List Token
  /-- The defect that ended the scan early, with a token at the place reached. -/
  defect : Option (Defect × Token)
  deriving DecidableEq, Repr

namespace Scan

/-- The pieces whose tokens a scan keeps when it takes notice of a defect on
taking character number `stop`, counted from one, and how many characters it has
taken in the end. The first piece stands `offset` characters into the text. -/
def keep (stop offset : Nat) : List Piece → List Piece × Nat
  | [] => ([], offset)
  | piece :: rest =>
    if offset + 1 < stop then
      let past := offset + piece.raw.length
      if past < stop then
        let (kept, taken) := keep stop past rest
        (piece :: kept, taken)
      else ([piece], past)
    else ([], offset + 1)

/-- Which character, counted from one, is taken when a defect at the given index
is noticed. The first two characters are fetched together. -/
def noticedAt (index : Nat) : Nat := max 1 index

/-- The pieces kept and the number of characters taken. -/
def extent (delivery : Delivery) : List Piece × Nat :=
  let pieces := Piece.pieces delivery.text
  match delivery.defect with
  | none => (pieces, delivery.text.length)
  | some (index, _) => keep (noticedAt index) 0 pieces

/-- Each piece with the place where it begins. -/
def place : Position → List Piece → List (Position × Piece)
  | _, [] => []
  | start, piece :: rest => (start, piece) :: place (start.afterAll piece.raw) rest

/-- The text of a line, counted from one; empty where there is no such line. -/
def lineAt (lines : Array String) (place : Position) : String :=
  if place.line < 1 then "" else lines[(place.line - 1).toNat]?.getD ""

/-- The token of a placed piece; a blank has none. -/
def token? (lines : Array String) : Position × Piece → Option Token
  | (place, piece) => piece.kind?.map fun kind =>
    { kind, text := String.ofList piece.content, position := place, source := lineAt lines place }

/-- The place of the last character of a text, or its beginning if it is empty. -/
def lastPlace (text : List Char) : Position := Position.start.afterAll text.dropLast

end Scan

open Scan in
/-- Scan what a source delivers. -/
def Delivery.scan (delivery : Delivery) : Scan :=
  let (pieces, count) := extent delivery
  let taken := delivery.text.take count
  let lines := ((Text.lines taken).map String.ofList).toArray
  let mark (kind : TokenKind) (place : Position) : Token :=
    { kind, text := "", position := place, source := lineAt lines place }
  { tokens :=
      mark .opening Position.start ::
        ((place Position.start pieces).filterMap (token? lines) ++
          [mark .closing (lastPlace taken)])
    defect := delivery.defect.map fun (index, defect) =>
      (defect, mark .unknown (lastPlace (delivery.text.take (noticedAt index)))) }

/-- Scan a source. -/
def Source.scan (source : Source) : Scan := source.deliver.scan

end Lisplet
