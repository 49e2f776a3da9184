import AcceptorHost.Number.Binary64

/-!
# Values without a fixed type

Settings files, bill names and port settings hold values of any shape.  A
record keeps its fields in the order in which their names first appeared, and
`put` replaces a field in its place.  Equality of values is decidable;
`sameValue` is the coarser comparison in which a number that is not a number
differs from itself and both zeros are one.
-/

namespace AcceptorHost

/-- A value of any shape. -/
inductive Value where
  | null
  | bool (b : Bool)
  | int (n : Int)
  | float (x : Binary64)
  | text (s : String)
  | list (items : List Value)
  | record (fields : List (String × Value))
  deriving Repr, Inhabited

namespace Value

mutual

/-- Equality of values is decidable. -/
def decEq (a b : Value) : Decidable (a = b) :=
  match a, b with
  | .null, .null => isTrue rfl
  | .bool a, .bool b =>
      if h : a = b then isTrue (by rw [h]) else isFalse (by intro e; injection e; contradiction)
  | .int a, .int b =>
      if h : a = b then isTrue (by rw [h]) else isFalse (by intro e; injection e; contradiction)
  | .float a, .float b =>
      if h : a = b then isTrue (by rw [h]) else isFalse (by intro e; injection e; contradiction)
  | .text a, .text b =>
      if h : a = b then isTrue (by rw [h]) else isFalse (by intro e; injection e; contradiction)
  | .list a, .list b =>
      match decEqList a b with
      | isTrue h => isTrue (by rw [h])
      | isFalse h => isFalse (by intro e; injection e; contradiction)
  | .record a, .record b =>
      match decEqFields a b with
      | isTrue h => isTrue (by rw [h])
      | isFalse h => isFalse (by intro e; injection e; contradiction)
  | .null, .bool _ | .null, .int _ | .null, .float _ | .null, .text _ | .null, .list _
  | .null, .record _ | .bool _, .null | .bool _, .int _ | .bool _, .float _ | .bool _, .text _
  | .bool _, .list _ | .bool _, .record _ | .int _, .null | .int _, .bool _ | .int _, .float _
  | .int _, .text _ | .int _, .list _ | .int _, .record _ | .float _, .null | .float _, .bool _
  | .float _, .int _ | .float _, .text _ | .float _, .list _ | .float _, .record _
  | .text _, .null | .text _, .bool _ | .text _, .int _ | .text _, .float _ | .text _, .list _
  | .text _, .record _ | .list _, .null | .list _, .bool _ | .list _, .int _ | .list _, .float _
  | .list _, .text _ | .list _, .record _ | .record _, .null | .record _, .bool _
  | .record _, .int _ | .record _, .float _ | .record _, .text _ | .record _, .list _ =>
      isFalse (by intro e; injection e)
termination_by structural a

/-- Equality of lists of values is decidable. -/
def decEqList (a b : List Value) : Decidable (a = b) :=
  match a, b with
  | [], [] => isTrue rfl
  | [], _ :: _ => isFalse (by intro e; injection e)
  | _ :: _, [] => isFalse (by intro e; injection e)
  | x :: xs, y :: ys =>
      match decEq x y with
      | isFalse h => isFalse (by intro e; injection e; contradiction)
      | isTrue h =>
          match decEqList xs ys with
          | isTrue t => isTrue (by rw [h, t])
          | isFalse t => isFalse (by intro e; injection e; contradiction)
termination_by structural a

/-- Equality of lists of fields is decidable. -/
def decEqFields (a b : List (String × Value)) : Decidable (a = b) :=
  match a, b with
  | [], [] => isTrue rfl
  | [], _ :: _ => isFalse (by intro e; injection e)
  | _ :: _, [] => isFalse (by intro e; injection e)
  | x :: xs, y :: ys =>
      match decEqField x y with
      | isFalse h => isFalse (by intro e; injection e; contradiction)
      | isTrue h =>
          match decEqFields xs ys with
          | isTrue t => isTrue (by rw [h, t])
          | isFalse t => isFalse (by intro e; injection e; contradiction)
termination_by structural a

/-- Equality of fields is decidable. -/
def decEqField (a b : String × Value) : Decidable (a = b) :=
  match a, b with
  | (k, v), (l, w) =>
      if h : k = l then
        match decEq v w with
        | isTrue t => isTrue (by rw [h, t])
        | isFalse t => isFalse (by intro e; injection e; contradiction)
      else isFalse (by intro e; injection e; contradiction)
termination_by structural a

end

instance : DecidableEq Value := decEq

/-- The truth of a value: null, zero and whatever is empty are false. -/
def truth : Value → Bool
  | .null => false
  | .bool b => b
  | .int n => n != 0
  | .float x => !x.isZero
  | .text s => !s.isEmpty
  | .list items => !items.isEmpty
  | .record fields => !fields.isEmpty

/-- The integer that a value is: an integer or a truth value. -/
def integer? : Value → Option Int
  | .int n => some n
  | .bool b => some (if b then 1 else 0)
  | _ => none

/-- The field of a name in a list of fields. -/
def lookup (name : String) : List (String × Value) → Option Value
  | [] => none
  | (key, value) :: rest => if key = name then some value else lookup name rest

/-- The fields with one of them set: in its place if it is there, at the end if not. -/
def put (name : String) (value : Value) : List (String × Value) → List (String × Value)
  | [] => [(name, value)]
  | (key, old) :: rest =>
      if key = name then (key, value) :: rest else (key, old) :: put name value rest

/-- The field of a name in a record. -/
def field? (name : String) : Value → Option Value
  | .record fields => lookup name fields
  | _ => none

/-- The members that a value yields one by one: items, characters or field names. -/
def members? : Value → Option (List Value)
  | .list items => some items
  | .text s => some (s.toList.map fun c => .text (String.singleton c))
  | .record fields => some (fields.map fun f => .text f.1)
  | _ => none

mutual

/-- Values of equal content; a number that is not a number differs from every value. -/
def sameValue (a b : Value) : Bool :=
  match a, b with
  | .null, .null => true
  | .bool a, .bool b => a == b
  | .int a, .int b => a == b
  | .float a, .float b => a.sameValue b
  | .text a, .text b => a == b
  | .list a, .list b => sameItems a b
  | .record a, .record b => sameFields a b
  | _, _ => false
termination_by structural a

/-- Lists of equal length whose values are the same one by one. -/
def sameItems (a b : List Value) : Bool :=
  match a, b with
  | [], [] => true
  | x :: xs, y :: ys => sameValue x y && sameItems xs ys
  | _, _ => false
termination_by structural a

/-- Records of the same fields in the same order. -/
def sameFields (a b : List (String × Value)) : Bool :=
  match a, b with
  | [], [] => true
  | x :: xs, y :: ys => sameField x y && sameFields xs ys
  | _, _ => false
termination_by structural a

/-- Fields of one name and the same value. -/
def sameField (a b : String × Value) : Bool :=
  match a, b with
  | (k, v), (l, w) => k == l && sameValue v w
termination_by structural a

end

end Value

end AcceptorHost
