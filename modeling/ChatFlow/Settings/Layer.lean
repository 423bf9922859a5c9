import ChatFlow.Settings.Setting

/-!
# Layers of settings

Sources of settings are laid over each other.  A table is laid over a table
entry by entry, and anything else replaces what was there.  Each source stores
its values under paths, on the way to which tables and arrays are made where
there are none.  Names do not tell upper from lower case.
-/

namespace ChatFlow

/-- A step on the way to a value: into a table or into an array. -/
inductive Step
  | name (name : String)
  /-- A place in an array; a negative one is counted from its end. -/
  | place (place : Int)
deriving DecidableEq, Repr

namespace Step

/-! ## Paths -/

/-- The characters of a name in a path. -/
def isNameChar (c : Char) : Bool :=
  c.isAlphanum || c = '_' || c = '-' || c = ' '

/-- Space inside the brackets around a place. -/
def isPadding (c : Char) : Bool :=
  c = ' ' || c = '\t'

/-- The whole number at the start of a text, with the text after it. -/
def readPlace? (text : List Char) : Option (Int × List Char) :=
  let unpadded := text.dropWhile isPadding
  let (sign, unsigned) :=
    match unpadded with
    | '-' :: rest => (['-'], rest)
    | _ => ([], unpadded)
  let (digits, rest) := Text.spanDigits unsigned
  (Text.signed? (sign ++ digits)).map fun position => (position, rest.dropWhile isPadding)

/-- The steps after the first one; `fuel` bounds their number. -/
def readMore? : Nat → List Char → Option (List Step)
  | _, [] => some []
  | 0, _ :: _ => none
  | fuel + 1, '.' :: text =>
      let name := text.takeWhile isNameChar
      if name.isEmpty then none
      else
        (readMore? fuel (text.dropWhile isNameChar)).map
          (.name (String.ofList name) :: ·)
  | fuel + 1, '[' :: text =>
      match readPlace? text with
      | some (position, ']' :: rest) => (readMore? fuel rest).map (.place position :: ·)
      | _ => none
  | _ + 1, _ :: _ => none

/-- Reads a path: a name, and then names after points and places in
brackets. -/
def readPath? (path : String) : Option (List Step) :=
  let text := path.toList
  let name := text.takeWhile isNameChar
  if name.isEmpty then none
  else (readMore? text.length (text.dropWhile isNameChar)).map (.name (String.ofList name) :: ·)

/-- The path that a key stands for; a key that is no path is a name. -/
def path (key : String) : List Step :=
  (readPath? key).getD [.name key]

end Step

/-! ## Names -/

/-- The sign for kelvin, the only character outside ASCII with a lower-case
form within. -/
def kelvinSign : Char := '\u212a'

/-- A letter in lower case.  Every name that means something is ASCII, so no
other case matters. -/
def lowerChar (c : Char) : Char :=
  if c = kelvinSign then 'k' else c.toLower

def lowerName (name : String) : String :=
  String.ofList (name.toList.map lowerChar)

/-! ## Laying values over each other -/

namespace Setting

/-- The entries of a table; other values have none. -/
def entries : Setting → Entries Setting
  | .table entries => entries
  | _ => []

/-- The items of an array; other values have none. -/
def items : Setting → List Setting
  | .array items => items
  | _ => []

mutual

/-- Lays a value over the one that is there, if there is one. -/
def layOver (current? : Option Setting) : Setting → Setting
  | .table entries => layEntriesOver (current?.getD (.table [])) entries
  | value => value

def layEntriesOver (current : Setting) : List (String × Setting) → Setting
  | [] => current
  | (name, value) :: rest =>
      let known := current.entries
      let laid := layOver (known.lookup (lowerName name)) value
      layEntriesOver (.table (Entries.put (lowerName name) laid known)) rest

end

/-- The items with one of them changed, after making them enough. -/
def changeItem (change : Option Setting → Setting) (place : Int) (items : List Setting) :
    List Setting :=
  let index := if place < 0 then items.length - place.natAbs else place.natAbs
  let enough := items ++ List.replicate (index + 1 - items.length) .null
  enough.set index (change enough[index]?)

/-- Stores a value under a path.  At a place of an array it replaces what was
there; under a name it is laid over it. -/
def store (value : Setting) : Option Setting → List Step → Setting
  | current?, [] => layOver current? value
  | current?, .name name :: rest =>
      let known := (current?.getD .null).entries
      .table (Entries.put (lowerName name) (value.store (known.lookup (lowerName name)) rest) known)
  | current?, [.place place] =>
      .array (changeItem (fun _ => value) place (current?.getD .null).items)
  | current?, .place place :: rest =>
      .array
        (changeItem (fun item? => value.store item? rest) place (current?.getD .null).items)

/-- Lays a source over what is there: each of its keys is a path. -/
def layer (root : Setting) (source : Entries Setting) : Setting :=
  source.foldl (fun root (key, value) => value.store (some root) (Step.path key)) root

end Setting

end ChatFlow
