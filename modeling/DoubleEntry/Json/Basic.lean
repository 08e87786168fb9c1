/-
DoubleEntry/Json/Basic.lean

JSON values.  An integer is kept exactly; any other number is a binary64
double, kept by its bits so that equality of values is decidable.

The fields of an object stand in the order in which their keys were first
given; giving a key again replaces its value.
-/

namespace DoubleEntry

/-- A number of a JSON value. -/
inductive Json.Number where
  | int (n : Int)
  | double (bits : UInt64)
  deriving DecidableEq, Repr

/-- A JSON value. -/
inductive Json where
  | null
  | bool (b : Bool)
  | number (n : Json.Number)
  | string (s : String)
  | array (items : List Json)
  | object (fields : List (String × Json))
  deriving Repr

namespace Json

/-! ### Equality -/

mutual

/-- Whether two values are the same, fields in the same order. -/
def same : Json → Json → Bool
  | null, null => true
  | bool a, bool b => a == b
  | number a, number b => a == b
  | string a, string b => a == b
  | array a, array b => sameItems a b
  | object a, object b => sameFields a b
  | _, _ => false

/-- `same`, item by item. -/
def sameItems : List Json → List Json → Bool
  | [], [] => true
  | a :: as, b :: bs => same a b && sameItems as bs
  | _, _ => false

/-- `same`, field by field. -/
def sameFields : List (String × Json) → List (String × Json) → Bool
  | [], [] => true
  | (k, a) :: as, (l, b) :: bs => k == l && same a b && sameFields as bs
  | _, _ => false

end

instance : BEq Json := ⟨same⟩

/-! ### Building values -/

/-- An integer. -/
def int (n : Int) : Json :=
  .number (.int n)

/-- A 64-bit integer. -/
def ofInt64 (n : Int64) : Json :=
  int n.toInt

/-- A natural number. -/
def ofNat (n : Nat) : Json :=
  int n

/-- A value that may be absent, written as null. -/
def ofOption {α : Type} (f : α → Json) : Option α → Json
  | none => null
  | some a => f a

/-! ### Fields of an object -/

/-- Sets a key: in its place if it is there already, else at the end. -/
def put (key : String) (value : Json) : List (String × Json) → List (String × Json)
  | [] => [(key, value)]
  | (k, v) :: rest => if k = key then (k, value) :: rest else (k, v) :: put key value rest

/-- The value of a key. -/
def field? (fields : List (String × Json)) (key : String) : Option Json :=
  fields.lookup key

/-- The value of a key of an object. -/
def get? (key : String) : Json → Option Json
  | .object fields => field? fields key
  | _ => none

/-- A key that has just been set has the value it was given. -/
theorem field?_put_self (key : String) (value : Json) (fields : List (String × Json)) :
    field? (put key value fields) key = some value := by
  induction fields with
  | nil => simp only [put, field?, List.lookup_cons, beq_self_eq_true]
  | cons kv rest ih =>
      obtain ⟨k, v⟩ := kv
      by_cases h : k = key
      · simp only [put, h, if_true, field?, List.lookup_cons, beq_self_eq_true]
      · have h' : (key == k) = false := beq_eq_false_iff_ne.2 (Ne.symm h)
        simp only [put, h, if_false, field?, List.lookup_cons, h']
        exact ih

/-- Setting a key leaves the others as they were. -/
theorem field?_put_of_ne {key other : String} (h : other ≠ key) (value : Json)
    (fields : List (String × Json)) :
    field? (put key value fields) other = field? fields other := by
  have h₀ : (other == key) = false := beq_eq_false_iff_ne.2 h
  induction fields with
  | nil => simp only [put, field?, List.lookup_cons, h₀, List.lookup_nil]
  | cons kv rest ih =>
      obtain ⟨k, v⟩ := kv
      by_cases hk : k = key
      · subst hk
        simp only [put, if_true, field?, List.lookup_cons, h₀]
      · simp only [put, hk, if_false, field?, List.lookup_cons]
        split
        · rfl
        · exact ih

end Json

end DoubleEntry
