import Wiring.Decimal.Binary64

/-!
# Values of settings

* `Setting`: values as sources give them, before they are given the types of the settings.
-/

namespace Wiring

/-- A value as a source gives it. -/
inductive Setting where
  | nothing
  | bool (value : Bool)
  | int (value : Int)
  | float (value : Binary64)
  | text (value : String)
  | list (items : List Setting)
  | table (entries : List (String × Setting))
  deriving Inhabited

namespace Setting

/-- The entries of a table. Any other value has none. -/
def entries : Setting → List (String × Setting)
  | table entries => entries
  | _ => []

/-- The items of a list. Any other value has none. -/
def items : Setting → List Setting
  | list items => items
  | _ => []

end Setting

end Wiring
