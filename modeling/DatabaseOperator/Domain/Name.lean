import DatabaseOperator.Domain.Mapping
import DatabaseOperator.Domain.Punycode
import DatabaseOperator.Text.Digits
import DatabaseOperator.Unicode.Composition
import DatabaseOperator.Unicode.Direction
import DatabaseOperator.Unicode.Joining

/-!
# Host names in ASCII

Services are found under names in ASCII. A name in other characters is brought
into plain form, and those of its labels that still need other characters are
written in ASCII behind a mark; labels that come with the mark have to be of
that form already.

- `Domain.splitLabels`: the labels of a name.
- `Domain.Label`: a label as it is written and as it is meant, and
  `Domain.Label.ofPlain?`: the label of plain text.
- `Domain.isSound`: what a label beyond ASCII may be.
- `Domain.plainText?`: a name in plain form.
- `Domain.toAscii?`: a name in ASCII.
-/

namespace DatabaseOperator.Domain

/-! ## Labels -/

/-- The labels of a name: the pieces between dots. -/
def splitLabels : List Char → List (List Char)
  | [] => [[]]
  | c :: cs =>
    match splitLabels cs with
    | [] => [[c]]
    | label :: labels =>
      if c = '.' then [] :: label :: labels else (c :: label) :: labels

/-- Labels with dots between them. -/
def joinLabels : List (List Char) → List Char
  | [] => []
  | [label] => label
  | label :: labels => label ++ '.' :: joinLabels labels

/-- What a label written in ASCII begins with. -/
def mark : List Char := "xn--".toList

/-- All characters are ASCII characters. -/
def isAscii (cs : List Char) : Bool :=
  cs.all fun c => c.toNat < 0x80

/-- A label beyond ASCII has at most so many characters: the time that writing
it takes grows with the square. -/
def lengthLimit : Nat := 1000

/-- A label written in ASCII has at most so many characters behind its mark. -/
def writtenLimit : Nat := 2000

/-- What a label beyond ASCII may be: not too long, plain, composed, no mark at
its front, joiners only where they can be seen, and no label that has been
written in ASCII. -/
def isSound (label : List Char) : Bool :=
  label.length ≤ lengthLimit && label.all isPlain
    && Unicode.composed label == label && !label.head?.any Unicode.isMark
    && Unicode.areJoinersSeen label && !mark.isPrefixOf label

/-- A label as it is written in ASCII and as it is meant. -/
structure Label where
  written : List Char
  meant : List Char
deriving DecidableEq, Repr

/-- The label of plain text. -/
def Label.ofPlain? (cs : List Char) : Option Label :=
  if mark.isPrefixOf cs then do
    let written := cs.drop mark.length
    let meant ←
      if written.length ≤ writtenLimit then Punycode.decode? written else none
    if isAscii cs && !isAscii meant && isSound meant then
      some { written := cs, meant }
    else none
  else if isAscii cs then some { written := cs, meant := cs }
  else if isSound cs
    then some { written := mark ++ Punycode.encode cs, meant := cs }
  else none

/-- A label in which the direction of writing turns. -/
def Label.turns (l : Label) : Bool :=
  l.meant.any fun c => (Unicode.direction c).isTurning

/-- In a name whose direction turns somewhere, every label keeps the rule on
directions. -/
def areDirected (labels : List Label) : Bool :=
  !labels.any Label.turns || labels.all fun l => Unicode.isDirected l.meant

/-! ## Names -/

/-- A name in plain form, composed; `none` if a character in it is not
allowed. -/
def plainText? (name : List Char) : Option (List Char) :=
  (name.mapM plain?).map fun forms => Unicode.composed forms.flatten

/-- A name in ASCII. -/
def toAscii? (name : List Char) : Option (List Char) := do
  let labels ← (splitLabels (← plainText? name)).mapM Label.ofPlain?
  if areDirected labels then some (joinLabels (labels.map Label.written))
  else none

/-! ## Small facts -/

theorem joinLabels_splitLabels (cs : List Char) :
    joinLabels (splitLabels cs) = cs := by
  induction cs with
  | nil => rfl
  | cons c cs ih =>
    unfold splitLabels
    cases hs : splitLabels cs with
    | nil =>
      rw [hs] at ih
      simp [joinLabels] at ih
      simp [joinLabels, ← ih]
    | cons label labels =>
      rw [hs] at ih
      by_cases hc : c = '.'
      · simp [hc, joinLabels, ih]
      · simp only [hc, if_false]
        cases labels with
        | nil => simpa [joinLabels] using ih
        | cons next more => simpa [joinLabels] using ih

theorem Label.ofPlain?_of_ascii {cs : List Char}
    (hm : mark.isPrefixOf cs = false) (ha : isAscii cs) :
    Label.ofPlain? cs = some ⟨cs, cs⟩ := by
  simp [Label.ofPlain?, hm, ha]

end DatabaseOperator.Domain
