import TypeGuard.Decimal.Positional
import TypeGuard.Json.Basic

/-! Documents as text without any white space. Only quotes, backslashes and controls are
escaped. -/

namespace TypeGuard.Json

def controlDigits (code : Nat) : List Char :=
  [Nat.digitChar (code / 16), Nat.digitChar (code % 16)]

def escapeChar (c : Char) : List Char :=
  match c with
  | '"' => ['\\', '"']
  | '\\' => ['\\', '\\']
  | '\n' => ['\\', 'n']
  | '\r' => ['\\', 'r']
  | '\t' => ['\\', 't']
  | '\x08' => ['\\', 'b']
  | '\x0c' => ['\\', 'f']
  | c => if c.toNat < 0x20 then ['\\', 'u', '0', '0'] ++ controlDigits c.toNat else [c]

/-- A quoted text in front of what follows it. -/
def writeText (text : String) (rest : List Char) : List Char :=
  '"' :: text.toList.flatMap escapeChar ++ '"' :: rest

def writeNumber : Number → List Char
  | .whole value _ => Decimal.intDigits value
  | .fraction value _ => (Decimal.numberText value).toList

mutual
/-- The text of a document in front of what follows it. -/
def write : Json → List Char → List Char
  | .null, rest => 'n' :: 'u' :: 'l' :: 'l' :: rest
  | .bool true, rest => 't' :: 'r' :: 'u' :: 'e' :: rest
  | .bool false, rest => 'f' :: 'a' :: 'l' :: 's' :: 'e' :: rest
  | .number value, rest => writeNumber value ++ rest
  | .string text, rest => writeText text rest
  | .array items, rest => '[' :: writeItems items (']' :: rest)
  | .object members, rest => '\x7b' :: writeMembers members ('\x7d' :: rest)
termination_by structural json => json
/-- The items of an array and the separators between them. -/
def writeItems : List Json → List Char → List Char
  | [], rest => rest
  | [item], rest => write item rest
  | item :: items, rest => write item (',' :: writeItems items rest)
termination_by structural items => items
def writeMembers : List (String × Json) → List Char → List Char
  | [], rest => rest
  | [(name, value)], rest => writeText name (':' :: write value rest)
  | (name, value) :: members, rest =>
    writeText name (':' :: write value (',' :: writeMembers members rest))
termination_by structural members => members
end

def text (json : Json) : String :=
  String.ofList (json.write [])

end TypeGuard.Json
