/-! Bracketed groups of entries, on one line or spread over several. A spread group gives each
entry a line of its own, four places further to the right, with a comma after every entry. -/

namespace TypeGuard.Text

inductive Layout
  | compact
  /-- Lines begin so many levels to the right. -/
  | spread (level : Nat)
  deriving DecidableEq

namespace Layout

/-- The layout of what stands inside a group. -/
def inner : Layout → Layout
  | .compact => .compact
  | .spread level => .spread (level + 1)

/-- The end of a line and the space that the next one begins with. -/
def lineBreak (level : Nat) : List Char :=
  '\n' :: List.replicate (4 * level) ' '

/-- A text as it is, but for the space that its further lines begin with. -/
def lines (layout : Layout) (text : String) : String :=
  match layout with
  | .compact => text
  | .spread level =>
    String.ofList (text.toList.flatMap fun c => if c = '\n' then lineBreak level else [c])

/-- A group without entries is the two brackets in either layout. -/
def group (layout : Layout) (opening closing : String) (entries : List String) : String :=
  match layout, entries with
  | _, [] => opening ++ closing
  | .compact, entries => opening ++ ", ".intercalate entries ++ closing
  | .spread level, entries =>
    let entryBreak := String.ofList (lineBreak (level + 1))
    opening ++ String.join (entries.map fun entry => entryBreak ++ entry ++ ",") ++
      String.ofList (lineBreak level) ++ closing

end Layout

end TypeGuard.Text
