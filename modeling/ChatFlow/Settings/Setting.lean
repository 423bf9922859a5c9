import ChatFlow.Decimal.Shortest
import ChatFlow.Entries

/-!
# Values of settings

A settings file or a variable gives a setting as a value of any kind.  A field
takes what it can from that value: text from every value that is written in
one piece, and an unsigned number from every value that counts something.
-/

namespace ChatFlow

inductive Setting
  | null
  | bool (value : Bool)
  | integer (value : Int)
  | real (value : Binary64)
  | text (value : String)
  | array (items : List Setting)
  | table (entries : List (String × Setting))
deriving Repr, Inhabited

namespace Setting

/-- The text of a value that is written in one piece. -/
def text? : Setting → Option String
  | .bool value => some (if value then "true" else "false")
  | .integer value => some (String.ofList (Text.signedDecimal value))
  | .real value => some (String.ofList (Decimal.write value))
  | .text value => some value
  | .null | .array _ | .table _ => none

/-- The words that switch something on or off. -/
def switch? (word : String) : Option Bool :=
  let lower := word.toList.map Char.toLower
  if lower ∈ ["true".toList, "on".toList, "yes".toList] then some true
  else if lower ∈ ["false".toList, "off".toList, "no".toList] then some false
  else none

def ofSwitch (on : Bool) : UInt64 :=
  if on then 1 else 0

/-- The unsigned number of sixty-four bits that a value stands for. -/
def unsigned? : Setting → Option UInt64
  | .bool value => some (ofSwitch value)
  | .integer value =>
      if 0 ≤ value ∧ value < UInt64.size then some (UInt64.ofNat value.toNat) else none
  | .real value => some value.toUnsigned
  | .text value =>
      match switch? value with
      | some on => some (ofSwitch on)
      | none => Text.unsigned? value.toList
  | .null | .array _ | .table _ => none

end Setting

end ChatFlow
