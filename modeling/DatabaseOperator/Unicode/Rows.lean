import DatabaseOperator.Text.Digits

/-!
# Tables of characters

Tables of Unicode data are kept as text: rows of hexadecimal numbers, with
blanks between the numbers and commas between the rows.

- `Unicode.rows`: the rows of a text.
- `Unicode.ranges`: rows of one or two numbers as ranges of code points.
- `Unicode.isIn`: a character is in one of the ranges.
-/

namespace DatabaseOperator.Unicode

/-- Rows while they are read: those that are complete, the numbers of the one in
hand, and its last number if it has begun. Lists are reversed. -/
structure Reading where
  rows : List (List Nat) := []
  row : List Nat := []
  number : Option Nat := none
deriving DecidableEq, Repr

namespace Reading

/-- The end of a number, if one has begun. -/
def endNumber (r : Reading) : Reading :=
  match r.number with
  | some n => { r with row := n :: r.row, number := none }
  | none => r

/-- The end of a row; rows without numbers do not count. -/
def endRow (r : Reading) : Reading :=
  let r := r.endNumber
  if r.row.isEmpty then r else { rows := r.row.reverse :: r.rows }

/-- One more character. -/
def step (r : Reading) (c : Char) : Reading :=
  match Text.hexValue? c with
  | some d => { r with number := some (r.number.getD 0 * 16 + d) }
  | none => if c = ',' then r.endRow else r.endNumber

end Reading

/-- The rows of a text. -/
def rows (table : String) : List (List Nat) :=
  (table.toList.foldl Reading.step {}).endRow.rows.reverse

/-- The ranges of a text, both ends included. -/
def ranges (table : String) : List (Nat × Nat) :=
  (rows table).filterMap fun
    | [n] => some (n, n)
    | [first, last] => some (first, last)
    | _ => none

/-- The character is in one of the ranges. -/
def isIn (ranges : List (Nat × Nat)) (c : Char) : Bool :=
  ranges.any fun (first, last) => first ≤ c.toNat && c.toNat ≤ last

end DatabaseOperator.Unicode
