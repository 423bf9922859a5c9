import ChatFlow.Json.Scan
import ChatFlow.Settings.Setting

/-!
# JSON as a source of settings

A JSON text gives settings if it holds an object.  Whole numbers of up to
sixty-four bits with a sign stay whole, and other numbers are rounded.
-/

namespace ChatFlow.Json

/-- The setting that a number gives. -/
def Number.toSetting : Number → Setting
  | .natural size =>
      if size.toNat < Text.signedLimit then .integer size.toNat
      else .real (.nearest false size.toNat 1)
  | .negative size => .integer (-size)
  | .real given => .real (.ofBits given.toBits)

/-- Files a member under its key; the last one under a key counts. -/
def fileMember (key : Reading) (value : Setting) (entries : Entries Setting) :
    Entries Setting :=
  match key with
  | .text name => if (entries.lookup name).isSome then entries else (name, value) :: entries
  | _ => entries

mutual

/-- The setting that a value without faults gives. -/
def Reading.toSetting : Reading → Setting
  | .bool given => .bool given
  | .number given => given.toSetting
  | .text given => .text given
  | .array items _ => .array (itemsToSettings items)
  | .object members _ => .table (membersToEntries members)
  | .null | .absent | .brokenText _ _ | .broken _ _ => .null

def itemsToSettings : List Reading → List Setting
  | [] => []
  | item :: rest => item.toSetting :: itemsToSettings rest

def membersToEntries : List (Reading × Reading) → List (String × Setting)
  | [] => []
  | (key, value) :: rest => fileMember key value.toSetting (membersToEntries rest)

end

/-- The setting that a value gives, if it has no faults. -/
def decodeSetting (reading : Reading) : Result Setting :=
  (reading.readAny 0).map fun _ => reading.toSetting

/-- Reads a text as the entries of its object. -/
def readSource (text : String) : Option (Entries Setting) :=
  match read decodeSetting text with
  | .ok (.table entries) => some entries
  | _ => none

end ChatFlow.Json
