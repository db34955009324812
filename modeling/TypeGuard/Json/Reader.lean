import TypeGuard.Json.Basic
import TypeGuard.Decimal.Reader

/-! Reading documents from text. Each reader takes the text from where it stands and leaves the
rest; `parse?` accepts a text only if one document and white space fill it. Readers of lists and
of members take the reader of what stands inside them, so nesting is bounded by a budget handed
down. -/

namespace TypeGuard.Json

abbrev Reader (α : Type) : Type := List Char → Option (α × List Char)

/-- How much is asked of a document: all of it is kept, or it is only skipped. A document that is
skipped may hold numbers out of range and halves of character pairs. -/
inductive Care
  | keep
  | skip
  deriving DecidableEq

/-- A document that is kept has at most this many lists and objects inside each other. -/
def nestingLimit : Nat := 127

def isSpace (c : Char) : Bool :=
  c == ' ' || c == '\n' || c == '\r' || c == '\t'

def skipSpace (text : List Char) : List Char :=
  text.dropWhile isSpace

def hexValue? (c : Char) : Option Nat :=
  if '0' ≤ c ∧ c ≤ '9' then some (c.toNat - '0'.toNat)
  else if 'a' ≤ c ∧ c ≤ 'f' then some (c.toNat - 'a'.toNat + 10)
  else if 'A' ≤ c ∧ c ≤ 'F' then some (c.toNat - 'A'.toNat + 10)
  else none

def unit? (a b c d : Char) : Option Nat := do
  some (4096 * (← hexValue? a) + 256 * (← hexValue? b) + 16 * (← hexValue? c) + (← hexValue? d))

def isHighHalf (code : Nat) : Bool :=
  decide (0xd800 ≤ code ∧ code < 0xdc00)

def isLowHalf (code : Nat) : Bool :=
  decide (0xdc00 ≤ code ∧ code < 0xe000)

def joinHalves (high low : Nat) : Char :=
  Char.ofNat (0x10000 + 0x400 * (high - 0xd800) + (low - 0xdc00))

def shortEscape? (c : Char) : Option Char :=
  match c with
  | '"' => some '"'
  | '\\' => some '\\'
  | '/' => some '/'
  | 'b' => some '\x08'
  | 'f' => some '\x0c'
  | 'n' => some '\n'
  | 'r' => some '\r'
  | 't' => some '\t'
  | _ => none

def readText (care : Care) : Reader (List Char)
  | [] => none
  | '"' :: rest => some ([], rest)
  | '\\' :: 'u' :: a :: b :: c :: d :: rest => do
    let code ← unit? a b c d
    if care = .skip then
      let (chars, rest) ← readText care rest
      some (Char.ofNat code :: chars, rest)
    else if isLowHalf code then none
    else if isHighHalf code then
      match rest with
      | '\\' :: 'u' :: e :: f :: g :: h :: rest => do
        let low ← unit? e f g h
        if isLowHalf low then
          let (chars, rest) ← readText care rest
          some (joinHalves code low :: chars, rest)
        else none
      | _ => none
    else
      let (chars, rest) ← readText care rest
      some (Char.ofNat code :: chars, rest)
  | '\\' :: c :: rest => do
    let escaped ← shortEscape? c
    let (chars, rest) ← readText care rest
    some (escaped :: chars, rest)
  | c :: rest =>
    if c.toNat < 0x20 then none
    else do
      let (chars, rest) ← readText care rest
      some (c :: chars, rest)

/-- A number out of range is refused where documents are kept. -/
def readNumber (care : Care) : Reader Json := fun text => do
  let (written, rest) ← readWritten text
  match care with
  | .keep => some (.number (← Number.ofWritten? written), rest)
  | .skip => some (.null, rest)

def readScalar (care : Care) : Reader Json
  | 'n' :: 'u' :: 'l' :: 'l' :: rest => some (.null, rest)
  | 't' :: 'r' :: 'u' :: 'e' :: rest => some (.bool true, rest)
  | 'f' :: 'a' :: 'l' :: 's' :: 'e' :: rest => some (.bool false, rest)
  | '"' :: rest => do
    let (chars, rest) ← readText care rest
    some (.string (String.ofList chars), rest)
  | text => readNumber care text

/-- One or more items up to the closing bracket; the count bounds them by the length of the
text. -/
def readItems {α : Type} (item : Reader α) : Nat → Reader (List α)
  | 0, _ => none
  | count + 1, text => do
    let (first, rest) ← item (skipSpace text)
    match skipSpace rest with
    | ']' :: rest => some ([first], rest)
    | ',' :: rest => do
      let (others, rest) ← readItems item count rest
      some (first :: others, rest)
    | _ => none

def readArray {α : Type} (item : Reader α) : Reader (List α) := fun text =>
  match skipSpace text with
  | ']' :: rest => some ([], rest)
  | text => readItems item text.length text

/-- A name, a colon and what the reader for that name finds. -/
def readMember {α : Type} (care : Care) (value : String → Reader α) : Reader (String × α) :=
  fun text => do
  match text with
  | '"' :: rest =>
    let (chars, rest) ← readText care rest
    match skipSpace rest with
    | ':' :: rest =>
      let name := String.ofList chars
      let (found, rest) ← value name (skipSpace rest)
      some ((name, found), rest)
    | _ => none
  | _ => none

def readMembers {α : Type} (care : Care) (value : String → Reader α) :
    Nat → Reader (List (String × α))
  | 0, _ => none
  | count + 1, text => do
    let (first, rest) ← readMember care value (skipSpace text)
    match skipSpace rest with
    | '\x7d' :: rest => some ([first], rest)
    | ',' :: rest => do
      let (others, rest) ← readMembers care value count rest
      some (first :: others, rest)
    | _ => none

def readObject {α : Type} (care : Care) (value : String → Reader α) :
    Reader (List (String × α)) := fun text =>
  match skipSpace text with
  | '\x7d' :: rest => some ([], rest)
  | text => readMembers care value text.length text

def readValue (care : Care) : Nat → Reader Json
  | 0, text => readScalar care text
  | budget + 1, text =>
    match text with
    | '[' :: rest => do
      let (items, rest) ← readArray (readValue care budget) rest
      some (.array items, rest)
    | '\x7b' :: rest => do
      let (members, rest) ← readObject care (fun _ => readValue care budget) rest
      some (.object members, rest)
    | text => readScalar care text

/-- A reader that has to use up the whole text. -/
def complete {α : Type} (reader : Reader α) (text : String) : Option α := do
  let (found, rest) ← reader (skipSpace text.toList)
  if skipSpace rest = [] then some found else none

def parse? (text : String) : Option Json :=
  complete (readValue .keep nestingLimit) text

end TypeGuard.Json
