import TypeGuard.Json.Reader
import TypeGuard.Json.Writer
import TypeGuard.Registry

/-! The configuration of a registry as text. The one setting may be left out, and members of other
names are skipped whatever they hold; a list of at most that one setting is read too. -/

namespace TypeGuard.Registry.Settings

open TypeGuard.Json

def settingName : String := "enable_custom_types"

def toJson (settings : Registry.Settings) : Json :=
  .object [(settingName, .bool settings.enabled)]

def text (settings : Registry.Settings) : String :=
  settings.toJson.text

/-- A setting that has to be a truth value. -/
def readSetting : Reader (Option Bool) := fun text => do
  match ← readScalar .keep text with
  | (.bool value, rest) => some (some value, rest)
  | _ => none

/-- Steps over a member of another name. -/
def skipSetting : Reader (Option Bool) := fun text => do
  let (_, rest) ← readValue .skip text.length text
  some (none, rest)

/-- The configuration that the settings give, or none if one is given twice. -/
def ofSettings? : List Bool → Option Registry.Settings
  | [] => some {}
  | [enabled] => some { enabled := enabled }
  | _ => none

def read : Reader Registry.Settings
  | '\x7b' :: rest => do
    let value (name : String) := if name = settingName then readSetting else skipSetting
    let (members, rest) ← readObject .keep value rest
    some (← ofSettings? (members.filterMap Prod.snd), rest)
  | '[' :: rest => do
    let (items, rest) ← readArray readSetting rest
    some (← ofSettings? (items.filterMap id), rest)
  | _ => none

def parse? (text : String) : Option Registry.Settings :=
  complete read text

end TypeGuard.Registry.Settings
