import PatternBook.Json.Binary64

/-!
# JSON values

Values with ordered fields.  A number is an integer of 64 bits or a binary number of 64 bits.
-/

namespace PatternBook.Json

/-- A number. -/
inductive Number where
  | integer (n : Int)
  /-- Zero has a sign, too. -/
  | real (negative : Bool) (magnitude : Binary64)
  deriving DecidableEq, Repr

/-- A value. -/
inductive Value where
  | null
  | bool (b : Bool)
  | number (n : Number)
  | string (s : Text)
  | array (items : List Value)
  | object (fields : List (Text × Value))
  deriving Repr, Inhabited

namespace Value

/-- A natural number. -/
def nat (n : Nat) : Value := .number (.integer n)

/-- A list of texts. -/
def strings (texts : List Text) : Value := .array (texts.map .string)

/-- The value of a field of an object. -/
def field? (name : Text) : Value → Option Value
  | .object fields => (fields.find? (·.1 = name)).map (·.2)
  | _ => none

end Value

/-! ### Order of keys -/

/-- The first text comes before the second in the order of code points, which is the order of the
bytes of their UTF-8 forms. -/
def keyBefore : Text → Text → Bool
  | [], [] => false
  | [], _ :: _ => true
  | _ :: _, [] => false
  | a :: s, b :: t => if a = b then keyBefore s t else a.toNat < b.toNat

/-- The fields with one more, in the order of keys; a field of that name is replaced. -/
def insertField (key : Text) (value : Value) : List (Text × Value) → List (Text × Value)
  | [] => [(key, value)]
  | (k, v) :: rest =>
    if k = key then (key, value) :: rest
    else if keyBefore key k then (key, value) :: (k, v) :: rest
    else (k, v) :: insertField key value rest

end PatternBook.Json
