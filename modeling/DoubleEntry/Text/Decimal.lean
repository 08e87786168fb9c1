/-
DoubleEntry/Text/Decimal.lean

Decimal numerals: writing natural numbers and integers, and reading them
back with an optional sign.  Reading keeps to a fixed word size and refuses
every numeral outside it.
-/

namespace DoubleEntry.Text

/-! ### Writing -/

/-- The decimal digits of a natural number, without leading zeros. -/
def natDigits (n : Nat) : List Char :=
  Nat.toDigits 10 n

/-- The digits with zeros in front, up to a least width. -/
def padDigits (width n : Nat) : List Char :=
  let ds := natDigits n
  List.replicate (width - ds.length) '0' ++ ds

/-- An integer in decimal, with a minus sign when it is negative. -/
def intDigits (i : Int) : List Char :=
  if i < 0 then '-' :: natDigits i.natAbs else natDigits i.toNat

/-- A natural number in decimal. -/
def natText (n : Nat) : String :=
  String.ofList (natDigits n)

/-- An integer in decimal. -/
def intText (i : Int) : String :=
  String.ofList (intDigits i)

/-- A 64-bit integer in decimal. -/
def int64Text (n : Int64) : String :=
  intText n.toInt

/-! ### Reading -/

/-- The value of a decimal digit. -/
def digitValue? (c : Char) : Option Nat :=
  if '0' ≤ c && c ≤ '9' then some (c.toNat - '0'.toNat) else none

/-- Reads decimal digits after those that made up `acc`. -/
def readDigitsAfter (acc : Nat) : List Char → Option Nat
  | [] => some acc
  | c :: rest => (digitValue? c).bind fun d => readDigitsAfter (10 * acc + d) rest

/-- Reads a numeral of at least one digit; leading zeros are allowed. -/
def readNat? : List Char → Option Nat
  | [] => none
  | cs => readDigitsAfter 0 cs

/-- Reads an integer with an optional sign. -/
def readInt? : List Char → Option Int
  | '-' :: rest => (readNat? rest).map fun n => -(n : Int)
  | '+' :: rest => (readNat? rest).map fun n => (n : Int)
  | cs => (readNat? cs).map fun n => (n : Int)

/-- The 64-bit integer with a given value, if there is one. -/
def toInt64? (i : Int) : Option Int64 :=
  if -9223372036854775808 ≤ i ∧ i ≤ 9223372036854775807 then some (Int64.ofInt i) else none

/-- The unsigned 64-bit integer with a given value, if there is one. -/
def toUInt64? (i : Int) : Option UInt64 :=
  if 0 ≤ i ∧ i ≤ 18446744073709551615 then some (UInt64.ofNat i.toNat) else none

/-- Reads a signed 64-bit integer. -/
def readInt64? (cs : List Char) : Option Int64 :=
  (readInt? cs).bind toInt64?

/-- Reads an unsigned 64-bit integer; a plus sign is allowed, a minus sign
is not. -/
def readUInt64? : List Char → Option UInt64
  | '-' :: _ => none
  | cs => (readInt? cs).bind toUInt64?

/-! ### Values -/

/-- A number that `toInt64?` accepts is the value of the integer it gives. -/
theorem toInt_of_toInt64? {i : Int} {n : Int64} (h : toInt64? i = some n) :
    n.toInt = i := by
  unfold toInt64? at h
  split at h
  · obtain rfl := Option.some.inj h
    exact Int64.toInt_ofInt_of_le (by omega) (by omega)
  · cases h

/-- A number is refused when it is too small or too large. -/
theorem toInt64?_eq_none_iff {i : Int} :
    toInt64? i = none ↔ i < -9223372036854775808 ∨ 9223372036854775807 < i := by
  unfold toInt64?
  split
  · simp only [reduceCtorEq, false_iff]
    omega
  · simp only [true_iff]
    omega

/-- The value of a 64-bit integer gives the integer back. -/
theorem toInt64?_toInt (n : Int64) : toInt64? n.toInt = some n := by
  have h₁ := n.le_toInt
  have h₂ := n.toInt_lt
  unfold toInt64?
  rw [if_pos ⟨by omega, by omega⟩, Int64.ofInt_toInt]

end DoubleEntry.Text
