import StreamRehearsal.Scenario.Operation
import StreamRehearsal.Text.Cut

/-! # Tokens

A scenario string such as `/s5-p30-r10` is one optional slash and then tokens with dashes between
them.  Reading never fails: a token that cannot be understood is set aside and the rest is read.

* `Token.ofChars` reads one token.  Its first character selects the kind; what follows is a
  magnitude if it is digits, with at most one plus sign before them, that fit a 64-bit count.
* `Token.all` reads every token of a scenario string, and `Token.operations` keeps the
  operations.
* `Token.spell` writes operations as a scenario string, and `Token.normalForm` is a scenario string
  without the tokens that stand for nothing. -/

namespace StreamRehearsal

/-- What one token stands for. -/
inductive Token where
  /-- An operation. -/
  | operation (op : Operation)
  /-- Nothing: dashes at an end of the string or next to one another. -/
  | empty
  /-- Nothing known: no kind has this letter. -/
  | unknown (letter : Char)
  deriving DecidableEq, Repr

namespace Token

/-- The magnitude written after the letter of a token. -/
def magnitude? (cs : List Char) : Option UInt64 := Decimal.count? (Cut.dropLeading '+' cs)

/-- Reads one token. -/
def ofChars : List Char → Token
  | [] => empty
  | letter :: rest =>
    match Operation.Kind.ofLetter? letter with
    | some kind => operation (Operation.ofMagnitude kind (magnitude? rest))
    | none => unknown letter

/-- The operation that a token stands for, if it stands for one. -/
def operation? : Token → Option Operation
  | operation op => some op
  | empty => none
  | unknown _ => none

@[simp] theorem operation?_operation (op : Operation) : (operation op).operation? = some op := rfl
@[simp] theorem operation?_empty : empty.operation? = none := rfl
@[simp] theorem operation?_unknown (c : Char) : (unknown c).operation? = none := rfl

/-- Reads every token of the characters of a scenario string. -/
def allChars (cs : List Char) : List Token :=
  ((Cut.dropLeading '/' cs).splitOn '-').map ofChars

/-- Reads every token of a scenario string, in order. -/
def all (path : String) : List Token := allChars path.toList

/-- The operations of a scenario string, in order. -/
def operations (path : String) : List Operation := (all path).filterMap operation?

/-- The scenario string of a list of operations. -/
def spell (ops : List Operation) : String := "-".intercalate (ops.map Operation.token)

/-- A scenario string with only its operations, each in its written form. -/
def normalForm (path : String) : String := spell (operations path)

end Token

end StreamRehearsal
