import QueryAgent.Json.Basic
import QueryAgent.Json.Fault
import QueryAgent.Number.Scaled
import QueryAgent.Text.Digits

namespace QueryAgent.Json

/-!
# The tree of a document

A document as it was written: members in their order, repeated ones included,
numbers digit by digit.  A document with a fault has the fault at the place
where it was met and nothing after it.
-/

/-- A number as it was written. -/
structure NumberLiteral where
  negative : Bool
  whole : List Char
  fraction : List Char
  exponent : Option Int
deriving Repr, DecidableEq

/-- Neither a fraction nor a power of ten was written. -/
def NumberLiteral.isWhole
    (literal : NumberLiteral) : Bool :=
  literal.fraction.isEmpty && literal.exponent.isNone

/-- The greatest integer read as one. -/
def greatestInteger : Nat := Nat.pow 2 64 - 1

/-- The magnitude of the least integer read as one. -/
def leastMagnitude : Nat := Nat.pow 2 63

/-- The greatest power of ten that is told from greater ones. -/
def greatestPower : Nat := Nat.pow 2 31 - 1

/-- Takes up digits behind those of a number, as long as it is read as an integer. -/
def takeDigits
    (number : Nat) : List Char → Nat × List Char
  | [] =>
      (number, [])
  | digit :: rest =>
      let longer := Text.foldDigits number [digit]
      if longer ≤ greatestInteger then
        takeDigits longer rest
      else
        (number, digit :: rest)

/--
The leading digits of a written number and the power of ten that makes up for
its point and for the digits before the point that were left off.
-/
def NumberLiteral.leading
    (literal : NumberLiteral) : Nat × Int :=
  let (whole, leftOff) := takeDigits 0 literal.whole
  let (digits, ignored) := takeDigits whole literal.fraction
  (digits, leftOff.length + ignored.length - literal.fraction.length)

/--
The double for a written number, from its leading digits and its power of ten;
none when it is too large.  A power of ten that is too great to be told from
others is too large or leaves nothing, unless there is nothing to begin with.
-/
def NumberLiteral.toBinary64?
    (literal : NumberLiteral) : Option Number.Binary64 :=
  let (digits, places) := literal.leading
  let power := literal.exponent.getD 0
  let magnitude :=
    if greatestPower < power.natAbs then
      if digits ≠ 0 ∧ 0 < power then
        none
      else
        some (Number.Binary64.ofInt 0)
    else
      Number.Binary64.ofScaled? digits (places + power)
  magnitude.map (Number.Binary64.withSign literal.negative)

/--
A whole number that fits 64 bits is an integer, and all others are doubles; a
negative zero is a double because no integer is one.
-/
def NumberLiteral.value
    (literal : NumberLiteral) : Except Fault Json :=
  let magnitude := Text.foldDigits 0 literal.whole
  if literal.isWhole && !literal.negative && magnitude ≤ greatestInteger then
    .ok (.integer magnitude)
  else if literal.isWhole && literal.negative && magnitude ≠ 0
      && magnitude ≤ leastMagnitude then
    .ok (.integer (-magnitude))
  else
    match literal.toBinary64? with
    | some double =>
        .ok (.float double)
    | none =>
        .error .numberTooLarge

/-- A text between quotes: what it spells, and whether it can be passed over. -/
structure TextLiteral where
  content : Except Fault String
  skipping : Option Fault

/-- A value as it was written, down to the first fault. -/
inductive Node where
  | null
  | boolean (value : Bool)
  | number (literal : NumberLiteral)
  | text (literal : TextLiteral)
  | list (items : List Node) (ending : Option Fault)
  | object (members : List (TextLiteral × Node)) (ending : Option Fault)
  | keyless (found : Node)
  | broken (fault : Fault)

/-- A value and what was wrong after it. -/
structure Document where
  root : Node
  trailing : Option Fault

end QueryAgent.Json
