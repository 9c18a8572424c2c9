import Funge93.Text.Basic

/-!
# Paths

A path is kept in a normal form: repeated slashes, components that are a single dot, and a slash at
the end do not count. Two dots are a component like any other. Exactly two slashes at the start are
told apart from one.
-/

namespace Funge93

/-- What a path starts from. -/
inductive PathRoot
  /-- The working directory. -/
  | relative
  | slash
  | doubleSlash
deriving DecidableEq, Repr

/-- The text of a root. -/
def PathRoot.text : PathRoot → Text
  | relative => ""
  | slash => "/"
  | doubleSlash => "//"

/-- A path in normal form. -/
structure Path where
  root : PathRoot
  parts : List Text
deriving DecidableEq, Repr

namespace Path

/-- The slash between two components. -/
def slash : CodePoint := 0x2F

/-- The dot before a suffix. -/
def dot : CodePoint := 0x2E

/-- The root that a text starts with. -/
def rootOf (t : Text) : PathRoot :=
  match (t.takeWhile (· == slash)).length with
  | 0 => .relative
  | 2 => .doubleSlash
  | _ => .slash

/-- The pieces of a text between slashes. -/
def pieces (t : Text) : List Text :=
  t.foldr
    (fun c pieces =>
      if c = slash then [] :: pieces
      else
        match pieces with
        | [] => [[c]]
        | piece :: more => (c :: piece) :: more)
    [[]]

/-- The path that a text names. -/
def ofText (t : Text) : Path where
  root := rootOf t
  parts := (pieces t).filter fun piece => piece ≠ [] ∧ piece ≠ [dot]

/-- A path as text. The working directory itself is a dot. -/
def text (p : Path) : Text :=
  match p.root.text ++ Text.join [slash] p.parts with
  | [] => [dot]
  | t => t

/-- The last component. -/
def name (p : Path) : Text := p.parts.getLast?.getD []

/-- A name from its last dot on. A dot at the start or at the end of the name does not count. -/
def suffixOf (name : Text) : Text :=
  match Text.splitFirst dot name.reverse with
  | some (c :: ending, _ :: _) => dot :: (c :: ending).reverse
  | _ => []

/-- The suffix of the last component. -/
def suffix (p : Path) : Text := suffixOf p.name

example : (ofText "a//b/./c/").text = ("a/b/c" : Text) := by decide
example : suffixOf "a.tar.bf" = (".bf" : Text) ∧ suffixOf ".bf" = [] ∧ suffixOf "a." = [] := by
  decide

end Path

end Funge93
