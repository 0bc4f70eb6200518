import Airlink.Text.Decimal
import Airlink.Text.Json

/-!
# JSON values of bounded size

Values that can be held as they are: every text stands for characters, every number has a double
near it, and lists and objects do not stand too deep within each other.
-/

namespace Airlink.Text.Json

/-- Whether a double is near a number. -/
def isNearDouble (digits : String) : Bool :=
  match Decimal.parse? (digits.toList.filter (· ≠ '-')) with
  | some d => !d.overflows
  | none => true

mutual

/-- Whether a value can be held, with at most so many lists and objects within each other. -/
def isBounded (depth : Nat) : Json → Bool
  | null => true
  | bool _ => true
  | number digits => isNearDouble digits
  | text chars => chars.isSome
  | array items =>
    match depth with
    | 0 => false
    | depth + 1 => areBounded depth items
  | object members =>
    match depth with
    | 0 => false
    | depth + 1 => membersBounded depth members

/-- Whether all items of an array can be held. -/
def areBounded (depth : Nat) : List Json → Bool
  | [] => true
  | v :: vs => isBounded depth v && areBounded depth vs

/-- Whether all members of an object can be held. -/
def membersBounded (depth : Nat) : List (Option String × Json) → Bool
  | [] => true
  | (key, v) :: ms => key.isSome && isBounded depth v && membersBounded depth ms

end

end Airlink.Text.Json
