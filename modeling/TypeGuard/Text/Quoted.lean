import TypeGuard.Text.Printable

/-! Text between double quotes. A quote, a backslash and the usual controls have a short escape;
every other character without a visible form of its own is written as its number in braces. -/

namespace TypeGuard.Text

/-- The number of a code point in lowercase hexadecimal digits, without leading zeros. -/
def hexDigits (code : Nat) : List Char :=
  Nat.toDigits 16 code

/-- How one character is written inside quotes. An apostrophe needs no escape there. -/
def quoteChar (c : Char) : List Char :=
  match c with
  | '"' => ['\\', '"']
  | '\\' => ['\\', '\\']
  | '\n' => ['\\', 'n']
  | '\r' => ['\\', 'r']
  | '\t' => ['\\', 't']
  | '\x00' => ['\\', '0']
  | c => if isPrintable c then [c] else ['\\', 'u', '\x7b'] ++ hexDigits c.toNat ++ ['\x7d']

def quote (text : String) : String :=
  String.ofList ('"' :: text.toList.flatMap quoteChar ++ ['"'])

end TypeGuard.Text
