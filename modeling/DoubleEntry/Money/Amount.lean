/-
DoubleEntry/Money/Amount.lean

Amounts as text.  An amount counts minor units, a hundred to the unit, and
is written with two decimals and the code of its currency.
-/
import DoubleEntry.Money.Currency
import DoubleEntry.Text.Style

namespace DoubleEntry

open DoubleEntry.Text

/-- Minor units as units with two decimals. -/
def decimalText (minor : Int64) : String :=
  let n := minor.toInt
  String.ofList ((if n < 0 then ['-'] else []) ++ natDigits (n.natAbs / 100)
    ++ '.' :: padDigits 2 (n.natAbs % 100))

/-- An amount with its currency. -/
def amountText (minor : Int64) (currency : Currency) : String :=
  decimalText minor ++ " " ++ currency.code

/-- An amount with its sign, green when money comes in and red when it goes
out. -/
def signedText (color : Bool) (minor : Int64) (currency : Currency) : String :=
  if minor.toInt < 0 then styled color .red (amountText minor currency)
  else styled color .green ("+" ++ amountText minor currency)

end DoubleEntry
