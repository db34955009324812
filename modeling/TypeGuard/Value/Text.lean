import TypeGuard.Decimal.Positional
import TypeGuard.Text.Layout
import TypeGuard.Text.Quoted
import TypeGuard.Value

/-! Values as text for people. Strings are quoted; descriptions of symbols and names of functions
stand as they are. The texts of entries are made in the layout of the inside of their group. -/

namespace TypeGuard.Value

open TypeGuard.Text

mutual
def text (layout : Layout) : Value → String
  | .undefined => "undefined"
  | .null => "null"
  | .boolean true => "true"
  | .boolean false => "false"
  | .number value => Decimal.numberText value
  | .bigint value => String.ofList (Decimal.intDigits value ++ ['n'])
  | .string text => quote text
  | .symbol _ description => layout.lines ("Symbol(" ++ description ++ ")")
  | .array items => layout.group "[" "]" (itemTexts layout.inner items)
  | .object members => layout.group "\x7b" "\x7d" (memberTexts layout.inner members)
  | .set items => layout.group "Set \x7b" "\x7d" (itemTexts layout.inner items)
  | .map entries => layout.group "Map \x7b" "\x7d" (entryTexts layout.inner entries)
  | .generator _ => "[object Generator]"
  | .promise _ => "Promise \x7b <pending> \x7d"
  | .function callable => layout.lines callable.debug
termination_by structural value => value
def itemTexts (layout : Layout) : List Value → List String
  | [] => []
  | item :: items => text layout item :: itemTexts layout items
termination_by structural items => items
def memberTexts (layout : Layout) : List (String × Value) → List String
  | [] => []
  | (key, value) :: members =>
    (quote key ++ ": " ++ text layout value) :: memberTexts layout members
termination_by structural members => members
def entryTexts (layout : Layout) : List (Value × Value) → List String
  | [] => []
  | (key, value) :: entries =>
    (text layout key ++ ": " ++ text layout value) :: entryTexts layout entries
termination_by structural entries => entries
end

/-- The text of a value on one line. -/
def debug (value : Value) : String :=
  value.text .compact

/-- The text of a value that joins others into one: a string stands as it is. -/
def plainText : Value → String
  | .string text => text
  | value => value.debug

end TypeGuard.Value
