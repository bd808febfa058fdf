import RecordStore.Sql.Cell
import RecordStore.Sql.Quoted
import RecordStore.Text.Search

/-!
# Scalar expressions

The operands of the conditions in a statement: columns, placeholders, small numbers, and a few
functions on texts.  `Scalar.text` writes one, `Scalar.eval` gives its cell in a row.

The functions see characters, and a text that holds a NUL only up to that, except `lower` and
`instr`, which see all of it.  On null every function is null.

* `textPosition_isSome` says that `instr` finds a pattern exactly where `occursIn` does.
-/

namespace RecordStore

/-- A scalar expression. -/
inductive Scalar where
  | column (name : String)
  /-- The parameter of a number; numbers begin at 1. -/
  | placeholder (number : Nat)
  | literal (value : Nat)
  | lower (operand : Scalar)
  | length (operand : Scalar)
  | instr (subject pattern : Scalar)
  /-- The first characters of a text, as many as a number says. -/
  | front (subject size : Scalar)
  /-- The last characters of a text, as many as a number says. -/
  | back (subject size : Scalar)
deriving DecidableEq

/-! ## Functions on texts -/

/-- The part of a text in front of its first NUL. -/
def visibleText (text : List Char) : List Char := text.takeWhile fun c => c != '\x00'

/-- The place of a pattern in a subject, counted from 1. -/
def textPosition? (pattern : List Char) : List Char → Option Nat
  | [] => if pattern.isEmpty then some 1 else none
  | c :: rest =>
    if pattern.isPrefixOf (c :: rest) then some 1 else (textPosition? pattern rest).map (· + 1)

theorem textPosition_isSome (pattern subject : List Char) :
    (textPosition? pattern subject).isSome = occursIn pattern subject := by
  induction subject with
  | nil => cases pattern <;> rfl
  | cons c rest ih =>
    simp only [textPosition?, occursIn, ← ih]
    cases pattern.isPrefixOf (c :: rest) <;> simp

/-- The last characters of a text; of a size of zero, all of it. -/
def lastChars (size : Nat) (text : List Char) : List Char :=
  -- A place of zero is the one in front of the first character.
  if size = 0 then text else text.drop (text.length - size)

def Cell.mapText (f : List Char → Cell) : Cell → Cell
  | .text s => f s.toList
  | _ => .null

/-- A part of a text, of a size. -/
def Cell.part (f : Nat → List Char → List Char) : Cell → Cell → Cell
  | .text s, .integer n => .text (String.ofList (f n.toInt.toNat (visibleText s.toList)))
  | _, _ => .null

/-- A number of characters or a place, as a cell. -/
def Cell.ofSize (n : Nat) : Cell := .integer (Int64.ofNat n)

namespace Scalar

/-- The cell of an expression in a row, with parameters bound to the placeholders. -/
def eval (bound : List Parameter) (row : StoredRow) : Scalar → Cell
  | .column name => row.cellAt name
  | .placeholder number =>
    match number with
    | 0 => .null
    | index + 1 => (bound[index]?.map Parameter.cell).getD .null
  | .literal value => Cell.ofSize value
  | .lower operand => (operand.eval bound row).mapText fun s => .text (String.ofList (foldCase s))
  | .length operand => (operand.eval bound row).mapText fun s => Cell.ofSize (visibleText s).length
  | .instr subject pattern =>
    (subject.eval bound row).mapText fun s =>
      (pattern.eval bound row).mapText fun p => Cell.ofSize ((textPosition? p s).getD 0)
  | .front subject size => (subject.eval bound row).part List.take (size.eval bound row)
  | .back subject size => (subject.eval bound row).part lastChars (size.eval bound row)

def text : Scalar → String
  | .column name => quoteName name
  | .placeholder number => "?" ++ toString number
  | .literal value => toString value
  | .lower operand => "lower(" ++ operand.text ++ ")"
  | .length operand => "length(" ++ operand.text ++ ")"
  | .instr subject pattern => "instr(" ++ subject.text ++ ", " ++ pattern.text ++ ")"
  | .front subject size => "substr(" ++ subject.text ++ ", 1, " ++ size.text ++ ")"
  | .back subject size => "substr(" ++ subject.text ++ ", -" ++ size.text ++ ")"

end Scalar

end RecordStore
