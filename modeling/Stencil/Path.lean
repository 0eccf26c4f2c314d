/-!
# Paths

A path is written with slashes. Empty parts and single points have no meaning and are dropped; a double point is
kept until the path is resolved.
-/

set_option autoImplicit false

namespace Stencil

structure Path where
  slashes : Nat
  parts : List String
  deriving DecidableEq, Repr

namespace Path

def keepsPart (part : String) : Bool := part != "" && part != "."

def slashParts (s : String) : List String := (s.toList.splitOn '/').map String.ofList

def ofString (s : String) : Path :=
  let leading := (s.toList.takeWhile (· == '/')).length
  ⟨if leading = 2 then 2 else min leading 1, (slashParts s).filter keepsPart⟩

def isAbsolute (p : Path) : Bool := p.slashes != 0

def text (p : Path) : String :=
  let joined := "/".intercalate p.parts
  if p.isAbsolute then String.ofList (List.replicate p.slashes '/') ++ joined
  else if p.parts.isEmpty then "." else joined

def join (p q : Path) : Path := if q.isAbsolute then q else ⟨p.slashes, p.parts ++ q.parts⟩

def name (p : Path) : String := p.parts.getLastD ""

def suffix (p : Path) : String :=
  let cs := p.name.toList
  let after := (cs.reverse.takeWhile (· != '.')).reverse
  if !cs.contains '.' || after.isEmpty || after.length + 1 = cs.length then ""
  else String.ofList ('.' :: after)

def descend (parts : List String) (part : String) : List String :=
  if part == ".." then parts.dropLast else parts ++ [part]

def absoluteParts (cwd : List String) (p : Path) : List String :=
  p.parts.foldl descend (if p.isAbsolute then [] else cwd)

def hasNull (p : Path) : Bool := p.parts.any fun part => part.toList.contains '\x00'

def resolve? (cwd : List String) (p : Path) : Option Path :=
  if p.hasNull then none else some ⟨1, p.absoluteParts cwd⟩

end Path

end Stencil
