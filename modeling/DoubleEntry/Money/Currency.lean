/-
DoubleEntry/Money/Currency.lean

The currencies of the ledger and their codes.
-/
import DoubleEntry.Error
import DoubleEntry.Text.Blank
import DoubleEntry.Text.Uppercase

namespace DoubleEntry

open DoubleEntry.Text

/-- A currency that an account may hold. -/
inductive Currency where
  | usd
  | eur
  | uah
  deriving DecidableEq, Repr

namespace Currency

/-- All currencies, in their order. -/
def all : List Currency :=
  [usd, eur, uah]

/-- The code of a currency. -/
def code : Currency → String
  | usd => "USD"
  | eur => "EUR"
  | uah => "UAH"

/-- The place of a currency in the order. -/
def rank : Currency → Nat
  | usd => 0
  | eur => 1
  | uah => 2

/-- The order of currencies. -/
def le (a b : Currency) : Bool :=
  a.rank ≤ b.rank

/-- The currency with exactly this code. -/
def ofCode? (s : String) : Option Currency :=
  all.find? fun c => c.code = s

/-- A code as it is looked up: without blanks at its ends, in upper case. -/
def normalize (s : String) : String :=
  String.ofList (upperChars (trimChars s.toList))

/-- Reads a code in any case, with blanks around it. -/
def parse (s : String) : Except Error Currency :=
  match ofCode? (normalize s) with
  | some c => .ok c
  | none => .error (.constraint (.unsupportedCurrency (normalize s)))

/-- The code of a currency is its own. -/
theorem ofCode?_code (c : Currency) : ofCode? c.code = some c := by
  cases c <;> decide

theorem parse_code (c : Currency) : parse c.code = .ok c := by
  cases c <;> rfl

/-- Currencies of one code are the same. -/
theorem code_injective {c d : Currency} (h : c.code = d.code) : c = d := by
  have hparse := ofCode?_code c
  rw [h, ofCode?_code d] at hparse
  exact (Option.some.inj hparse).symm

end Currency

end DoubleEntry
