import Funge93.Files.Path

/-!
# Files

Reading a path gives bytes or an error (`Files`). A `Tree` is a working directory with files and
directories in it. A walk through it needs a directory at every step, also before two dots. Above
the working directory nothing but directories is known.

Names are kept as UTF-8, in which a name has at most 255 bytes and a path at most 4095. Surrogates
that stand for single bytes count as these; other surrogates have no place in a path.
-/

namespace Funge93

/-- The contents of a file. -/
abbrev Bytes := List UInt8

/-- Why a path cannot be read. -/
inductive FileError
  | notFound
  | isDirectory
  | notDirectory
  | nameTooLong
  /-- The path holds the code point zero. -/
  | nullInPath
  /-- The path holds a surrogate that stands for no byte. -/
  | unencodable
deriving DecidableEq, Repr

/-- The wording of a file error. -/
def FileError.message : FileError → Text
  | notFound => "No such file or directory"
  | isDirectory => "Is a directory"
  | notDirectory => "Not a directory"
  | nameTooLong => "File name too long"
  | nullInPath => "embedded null byte"
  | unencodable => "surrogates not allowed"

/-- What reading each path gives. -/
abbrev Files := Path → Except FileError Bytes

/-- What stands at a place. -/
inductive Entry
  | file (bytes : Bytes)
  | directory
deriving DecidableEq, Repr

/-- A working directory: the entries in it, at any depth. -/
structure Tree where
  entries : List (List Text × Entry)

namespace Tree

/-- The tree of some named files. A name that ends in a slash is a directory. -/
def ofNamed (named : List (Text × Bytes)) : Tree where
  entries := named.map fun (name, bytes) =>
    ((Path.ofText name).parts, if name.getLast? = some Path.slash then .directory else .file bytes)

/-- The entry at a place. Whatever has an entry below it is a directory. -/
def entry? (t : Tree) (place : List Text) : Option Entry :=
  match t.entries.lookup place with
  | some e => some e
  | none =>
    if place = [] ∨ t.entries.any fun e => place.isPrefixOf e.1 then some .directory else none

/-- Where a walk stands. -/
inductive Place
  | inside (parts : List Text)
  | above
deriving DecidableEq, Repr

/-- The name of the directory above. -/
def parentName : Text := [Path.dot, Path.dot]

/-- The surrogates that stand for single bytes. -/
def isByteSurrogate (c : CodePoint) : Bool := 0xDC80 ≤ c.val && c.val ≤ 0xDCFF

/-- The number of bytes that a code point takes in a name. -/
def nameBytes (c : CodePoint) : Nat :=
  if c.val < 0x80 ∨ isByteSurrogate c then 1
  else if c.val < 0x800 then 2
  else if c.val < 0x10000 then 3
  else 4

/-- The number of bytes that a text takes as a name. -/
def nameSize (t : Text) : Nat := t.foldl (fun size c => size + nameBytes c) 0

/-- What is wrong with a path before anything is looked up. -/
def malformed? (path : Path) : Option FileError :=
  if path.text.any fun c => c.isSurrogate && !isByteSurrogate c then some .unencodable
  else if path.text.contains 0 then some .nullInPath
  else if 4095 < nameSize path.text then some .nameTooLong
  else none

/-- Walks into a component. -/
def enter (t : Tree) (place : Place) (component : Text) : Except FileError Place :=
  match place with
  | .above =>
    if component = parentName then .ok .above
    else .error (if 255 < nameSize component then .nameTooLong else .notFound)
  | .inside parts =>
    match t.entry? parts with
    | none => .error .notFound
    | some (.file _) => .error .notDirectory
    | some .directory =>
      if component = parentName then
        .ok (if parts = [] then .above else .inside parts.dropLast)
      else if 255 < nameSize component then .error .nameTooLong
      else .ok (.inside (parts ++ [component]))

/-- What reading a path gives. -/
def read (t : Tree) : Files := fun path =>
  match malformed? path with
  | some e => .error e
  | none =>
    let start := if path.root = .relative then Place.inside [] else .above
    match path.parts.foldlM t.enter start with
    | .error e => .error e
    | .ok .above => .error .isDirectory
    | .ok (.inside parts) =>
      match t.entry? parts with
      | some (.file bytes) => .ok bytes
      | some .directory => .error .isDirectory
      | none => .error .notFound

end Tree

end Funge93
