/-
DoubleEntry/Text/Style.lean

Colours and weights on a terminal, as escape sequences around a text.  A
style is applied only where colours are wanted.
-/

namespace DoubleEntry.Text

/-- A style of text. -/
inductive Style where
  | red
  | green
  | yellow
  | cyan
  | bold
  | dimmed
  | boldRed
  deriving DecidableEq, Repr

/-- The parameters of the escape sequence that starts a style. -/
def Style.parameters : Style → String
  | red => "31"
  | green => "32"
  | yellow => "33"
  | cyan => "36"
  | bold => "1"
  | dimmed => "2"
  | boldRed => "1;31"

/-- The sequence that starts a style. -/
def Style.start (style : Style) : List Char :=
  '\x1b' :: '[' :: style.parameters.toList ++ ['m']

/-- The sequence that ends all styles. -/
def resetChars : List Char := ['\x1b', '[', '0', 'm']

/-- Starts a style again after each place where the text ends all styles. -/
def restyle (style : Style) : List Char → List Char
  | '\x1b' :: '[' :: '0' :: 'm' :: rest => resetChars ++ style.start ++ restyle style rest
  | c :: rest => c :: restyle style rest
  | [] => []

/-- A text in a style where colours are wanted, else as it is. -/
def styled (color : Bool) (style : Style) (s : String) : String :=
  if color then String.ofList (style.start ++ restyle style s.toList ++ resetChars) else s

end DoubleEntry.Text
