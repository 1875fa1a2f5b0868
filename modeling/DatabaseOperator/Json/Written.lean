import DatabaseOperator.Json.Token

/-!
# JSON text, read

Reading takes two steps. The text becomes a `Written` tree that says what stands
there: fields in order and as often as they occur, strings that may be no text.
From the tree one takes either the whole value or, by a `Shape`, only the parts
that a document type knows, and then whatever stands in the unknown parts does
not matter.

- `Written`: a JSON text as it stands.
- `Written.Reading`: the arrays and objects begun and not ended, and what may
  follow.
- `Written.read?`: the tree of a text.
- `Written.value?`: the value of a tree. A field given twice counts as given
  last.
- `Written.nesting`: how deep arrays and objects stand inside each other.
- `Written.ofShape?`: the known parts of a tree. A known field given twice is
  refused.
- `Json.parse?`: the value of a text.
- `Json.truncation?`: where and inside what a text breaks off.
-/

namespace DatabaseOperator

/-- A JSON text as it stands. A string of which half a surrogate pair stands
alone is `none`. -/
inductive Written where
  | null
  | bool (value : Bool)
  | number (value : Json.Number)
  | string (text : Option String)
  | array (items : List Written)
  | object (fields : List (Option String × Written))
deriving Repr, Inhabited

namespace Written

open Json (Token Lexer)

/-! ## From tokens to the tree -/

/-- An array or object that has begun and waits for a value. Items and fields
are reversed. -/
inductive Frame where
  | array (items : List Written)
  | object (fields : List (Option String × Written)) (name : Option String)
deriving Repr

/-- How far the reading of a text has come: what is open, innermost first, and
what may follow. -/
inductive Reading where
  | value (frames : List Frame)
  | firstItem (frames : List Frame)
  | fieldName (frames : List Frame) (fields : List (Option String × Written))
  | colon (frames : List Frame) (fields : List (Option String × Written))
      (name : Option String)
  | afterItem (frames : List Frame) (items : List Written)
  | afterField (frames : List Frame) (fields : List (Option String × Written))
  | done (result : Written)
deriving Repr

namespace Reading

/-- A finished value given to what is open around it. -/
def complete (w : Written) : List Frame → Reading
  | [] => .done w
  | .array items :: frames => .afterItem frames (w :: items)
  | .object fields name :: frames => .afterField frames ((name, w) :: fields)

/-- A token where a value has to stand. -/
def takeValue? (frames : List Frame) : Token → Option Reading
  | .null => some (complete .null frames)
  | .bool b => some (complete (.bool b) frames)
  | .number n => some (complete (.number n) frames)
  | .string s => some (complete (.string s) frames)
  | .beginArray => some (.firstItem frames)
  | .beginObject => some (.fieldName frames [])
  | _ => none

/-- One more token. -/
def step? : Reading → Token → Option Reading
  | .value frames, t => takeValue? frames t
  | .firstItem frames, .endArray => some (complete (.array []) frames)
  | .firstItem frames, t => takeValue? (.array [] :: frames) t
  | .fieldName frames fields, .string s => some (.colon frames fields s)
  | .fieldName frames [], .endObject => some (complete (.object []) frames)
  | .colon frames fields name, .colon =>
    some (.value (.object fields name :: frames))
  | .afterItem frames items, .comma => some (.value (.array items :: frames))
  | .afterItem frames items, .endArray =>
    some (complete (.array items.reverse) frames)
  | .afterField frames fields, .comma => some (.fieldName frames fields)
  | .afterField frames fields, .endObject =>
    some (complete (.object fields.reverse) frames)
  | _, _ => none

/-- The tree, once nothing is open. -/
def result? : Reading → Option Written
  | .done w => some w
  | _ => none

end Reading

/-- The tree of a list of tokens. -/
def ofTokens? (tokens : List Token) : Option Written := do
  (← tokens.foldlM Reading.step? (.value [])).result?

/-- The tree of a text; `none` if the text is no JSON. -/
def read? (s : String) : Option Written := do
  ofTokens? (← Lexer.scan? s.toList)

/-! ## From the tree to values -/

mutual

/-- The value of a tree. Fields come in rising order of their names, one given
twice counts as given last. A string that is no text and a number beyond all
floats have no value. -/
def value? : Written → Option Json
  | .null => some .null
  | .bool b => some (.bool b)
  | .number n => if n.overflows then none else some (.number n)
  | .string s => s.map .string
  | .array items => (items? items).map .array
  | .object fields =>
    (fields? fields).map fun fs => .object (Dict.ofList fs).entries

/-- The values of the items of an array. -/
def items? : List Written → Option (List Json)
  | [] => some []
  | w :: rest => do some ((← w.value?) :: (← items? rest))

/-- The values of the fields of an object. -/
def fields? : List (Option String × Written) → Option (List (String × Json))
  | [] => some []
  | (name, w) :: rest => do some ((← name, ← w.value?) :: (← fields? rest))

end

mutual

/-- How many arrays and objects stand inside each other, at most. -/
def nesting : Written → Nat
  | .array items => itemsNesting items + 1
  | .object fields => fieldsNesting fields + 1
  | _ => 0

/-- The nesting of the items of an array. -/
def itemsNesting : List Written → Nat
  | [] => 0
  | w :: rest => max w.nesting (itemsNesting rest)

/-- The nesting of the fields of an object. -/
def fieldsNesting : List (Option String × Written) → Nat
  | [] => 0
  | (_, w) :: rest => max w.nesting (fieldsNesting rest)

end

/-- Which parts of a document are read: all of it, the named fields of an
object, the items of an array, or the fields of an object whatever their
names. -/
inductive Shape where
  | any
  | record (fields : List (String × Shape))
  | list (item : Shape)
  | dict (item : Shape)

/-- The shape of a named part. -/
def Shape.of? (name : String) : List (String × Shape) → Option Shape
  | [] => none
  | (n, s) :: rest => if n = name then some s else of? name rest

mutual

/-- The parts of a tree that a shape names. Fields it does not name are passed
over, whatever they hold, but their names have to be text; a field that it names
may stand once only. A record may be given as an array, its fields in order. -/
def ofShape? : Written → Shape → Option Json
  | .object fields, .record known => (ofFields? known [] fields).map .object
  | .array items, .record known => (ofPlaces? known items).map .array
  | .array items, .list item => (ofItems? item items).map .array
  | .object fields, .dict item => (ofEntries? item fields).map .object
  | w, _ => w.value?

/-- The named fields of an object, those in `seen` having been read before. -/
def ofFields? (known : List (String × Shape)) (seen : List String) :
    List (Option String × Written) → Option (List (String × Json))
  | [] => some []
  | (none, _) :: _ => none
  | (some name, w) :: rest =>
    match Shape.of? name known with
    | none => ofFields? known seen rest
    | some shape =>
      if name ∈ seen then none
      else
        do some ((name, ← ofShape? w shape)
          :: (← ofFields? known (name :: seen) rest))

/-- The items of an array, each in one shape. -/
def ofItems? (shape : Shape) : List Written → Option (List Json)
  | [] => some []
  | w :: rest => do some ((← ofShape? w shape) :: (← ofItems? shape rest))

/-- The items of an array that is a record, each in the shape of the field at
its place. -/
def ofPlaces? : List (String × Shape) → List Written → Option (List Json)
  | _, [] => some []
  | [], w :: rest => do some ((← ofShape? w .any) :: (← ofPlaces? [] rest))
  | (_, shape) :: known, w :: rest =>
    do some ((← ofShape? w shape) :: (← ofPlaces? known rest))

/-- The fields of an object, each in one shape. All are kept, also those given
twice. -/
def ofEntries? (shape : Shape) :
    List (Option String × Written) → Option (List (String × Json))
  | [] => some []
  | (name, w) :: rest =>
    do some ((← name, ← ofShape? w shape) :: (← ofEntries? shape rest))

end

end Written

/-! ## Texts -/

/-- So many arrays and objects may stand inside each other in a text that is
read as a value. -/
def Json.nestingLimit : Nat := 127

/-- The value of a JSON text; `none` if the text is no JSON, nests too deep or
names something that is no value. -/
def Json.parse? (s : String) : Option Json := do
  let w ← Written.read? s
  if w.nesting ≤ Json.nestingLimit then w.value? else none

/-- What a text is in the middle of when it breaks off. -/
inductive Json.Unfinished where
  | value
  | list
  | object
  | string
deriving DecidableEq, Repr

/-- A JSON text that breaks off, and the line and column of its end. -/
structure Json.Truncation where
  inside : Json.Unfinished
  line : Nat
  column : Nat
deriving DecidableEq, Repr

/-- The line of the end of a text, counted from one, and the bytes of that line
before it. -/
def Json.endPosition (s : String) : Nat × Nat :=
  s.toList.foldl (fun (line, column) c => if c = '\n' then (line + 1, 0)
    else (line, column + c.utf8Size)) (1, 0)

/-- What the reading is in the middle of; `none` if it is complete. -/
def Written.Reading.unfinished? : Written.Reading → Option Json.Unfinished
  | .value _ => some .value
  | .firstItem _ => some .list
  | .afterItem _ _ => some .list
  | .fieldName _ [] => some .object
  | .fieldName _ _ => some .value
  | .colon _ _ _ => some .object
  | .afterField _ _ => some .object
  | .done _ => none

/-- Where a text breaks off, if it is the beginning of a JSON text and not a
whole one. -/
def Json.truncation? (s : String) : Option Json.Truncation := do
  let lexer ← Json.Lexer.start.run? s.toList
  let inside ← match lexer.pending with
    | .string _ | .escape _ | .hex _ _ _ => some .string
    | _ => do
      match lexer.finish? with
      | none => some .value
      | some tokens =>
        (← tokens.foldlM Written.Reading.step? (.value [])).unfinished?
  let (line, column) := Json.endPosition s
  some ⟨inside, line, column⟩

/-- What a text breaks off in, in words. -/
def Json.Unfinished.text : Json.Unfinished → String
  | .value => "a value"
  | .list => "a list"
  | .object => "an object"
  | .string => "a string"

/-- The report on a text that breaks off. -/
def Json.Truncation.message (t : Json.Truncation) : String :=
  s!"EOF while parsing {t.inside.text} at line {Text.digits t.line} column "
    ++ Text.digits t.column

/-! ## Small facts -/

theorem Json.parse?_eq_some_iff {s : String} {j : Json} :
    Json.parse? s = some j ↔
      ∃ w, Written.read? s = some w ∧ w.nesting ≤ Json.nestingLimit
        ∧ w.value? = some j := by
  simp [Json.parse?, Option.bind_eq_some_iff]

theorem Written.nesting_item_lt {w : Written} {items : List Written}
    (h : w ∈ items) : w.nesting < (Written.array items).nesting := by
  simp only [Written.nesting, Nat.lt_add_one_iff]
  induction items with
  | nil => cases h
  | cons first rest ih =>
    rcases List.mem_cons.1 h with rfl | h
    · exact Nat.le_max_left _ _
    · exact Nat.le_trans (ih h) (Nat.le_max_right _ _)

end DatabaseOperator
