import Wiring.Decimal.Basic
import Wiring.Settings.Value
import Wiring.Text.LowerCase

/-!
# Layers of settings

Settings come from several sources, of which later ones are laid over earlier ones key by key. Case
does not matter in keys.

* `Setting.overlay`: one value laid over another one;
* `Step`, `stepsOf`, `Setting.set?`: setting the value that a path of keys and indices leads to.
-/

namespace Wiring

namespace Setting

/-- Change the value of a key in a list of entries. A key that is not there yet gets the change of
an empty table. -/
def updateEntry (key : String) (change : Setting → Setting) :
    List (String × Setting) → List (String × Setting)
  | [] => [(key, change (table []))]
  | entry :: rest =>
    if entry.1 = key then (key, change entry.2) :: rest
    else entry :: updateEntry key change rest

/-- Change the value of a key, in whatever case it is written. What was no table becomes one. -/
def updateKey (key : String) (change : Setting → Setting) (below : Setting) : Setting :=
  table (updateEntry (Text.lowerCase key) change below.entries)

mutual

/-- Lay a value over another one: tables are merged, any other value replaces what was there. -/
def overlay (below : Setting) : Setting → Setting
  | table entries => overlayAll below entries
  | nothing => nothing
  | bool value => bool value
  | int value => int value
  | float value => float value
  | text value => text value
  | list items => list items
  termination_by structural value => value

/-- Lay entries over a value, one after the other. -/
def overlayAll (below : Setting) : List (String × Setting) → Setting
  | [] => below
  | (key, value) :: rest =>
    overlayAll (below.updateKey key fun old => overlay old value) rest
  termination_by structural entries => entries

end

end Setting

/-! ## Paths -/

/-- A step to a part of a value: a key of a table, or an index of a list, from its end if it is
negative. -/
inductive Step where
  | key (name : String)
  | index (place : Int)
  deriving DecidableEq

/-- Whether a character may stand in a key of a path. -/
def inKey (c : Char) : Bool := c.isAlphanum || c = '_' || c = '-' || c = ' '

/-- A whole number in brackets, with blanks around it. -/
def indexOf? (cs : List Char) : Option Int :=
  let blank (c : Char) : Bool := c = ' ' || c = '\t'
  let inner := ((cs.dropWhile blank).reverse.dropWhile blank).reverse
  if inner.head? = some '+' then none else (Decimal.signedDigits? inner).filter inSignedWord

/-- The steps of a path after the first key: keys after dots, and indices in brackets. -/
def furtherSteps? : Nat → List Char → Option (List Step)
  | _, [] => some []
  | fuel + 1, '.' :: cs =>
    let name := cs.takeWhile inKey
    if name.isEmpty then none
    else (furtherSteps? fuel (cs.dropWhile inKey)).map (.key (String.ofList name) :: ·)
  | fuel + 1, '[' :: cs =>
    match cs.dropWhile (· ≠ ']') with
    | [] => none
    | _ :: rest => do
      let place ← indexOf? (cs.takeWhile (· ≠ ']'))
      return .index place :: (← furtherSteps? fuel rest)
  | _, _ => none

/-- The steps of a path. A text that is no path is a single key. -/
def stepsOf (path : String) : List Step :=
  let cs := path.toList
  let name := cs.takeWhile inKey
  let steps := if name.isEmpty then none else furtherSteps? cs.length (cs.dropWhile inKey)
  match steps with
  | some steps => .key (String.ofList name) :: steps
  | none => [.key path]

/-- The number of items that a list may be filled up to. -/
def placeLimit : Nat := Nat.pow 2 24

/-- The place of an index in a list of `size` items, which may have to be filled up. There is none
before the start of the list, and none beyond what a list can be filled up to. -/
def placeOf? (size : Nat) (index : Int) : Option Nat :=
  let place := if index < 0 then size + index else index
  if place < 0 ∨ placeLimit ≤ place then none else some place.toNat

namespace Setting

/-- Set the value that steps lead to, if all their indices have a place. The last key gets the value
laid over what was there, the last index gets the value itself. -/
def setAt? (value : Setting) : List Step → Setting → Option Setting
  | [], _ => some value
  | [.key name], below => some (below.updateKey name (·.overlay value))
  | .key name :: steps, below => do
    let part ← setAt? value steps ((below.entries.lookup name).getD nothing)
    return table (updateEntry name (fun _ => part) below.entries)
  | .index index :: steps, below => do
    let place ← placeOf? below.items.length index
    let filled := below.items ++ List.replicate (place + 1 - below.items.length) nothing
    let part ← setAt? value steps (filled.getD place nothing)
    return list (filled.set place part)

/-- Set the value of a path. Case does not matter in any of its keys, so the path is read in lower
case, in which the Kelvin sign too is a letter that a key may hold. -/
def set? (below : Setting) (path : String) (value : Setting) : Option Setting :=
  setAt? value (stepsOf (Text.lowerCase path)) below

/-- Set the values of a source, one after the other. -/
def setAll? (below : Setting) (source : List (String × Setting)) : Option Setting :=
  source.foldlM (fun below entry => below.set? entry.1 entry.2) below

end Setting

end Wiring
