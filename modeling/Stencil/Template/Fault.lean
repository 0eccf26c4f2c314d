import Stencil.Mishap
import Stencil.Text.Quoted

/-!
# What can be wrong with a template's text

Problems are found while the text is cut into tokens, while the tokens are read as statements, and when the
finished tree is checked. The last kind, and the import of a hidden name, count as broken rules rather than as
broken grammar.
-/

set_option autoImplicit false

namespace Stencil.Template

inductive EscapeProblem where
  | truncatedByte
  | truncatedShort
  | truncatedLong
  | beyondRange
  | malformedName
  | unknownName
  deriving DecidableEq, Repr

def EscapeProblem.message : EscapeProblem → String
  | .truncatedByte => "truncated \\xXX escape"
  | .truncatedShort => "truncated \\uXXXX escape"
  | .truncatedLong => "truncated \\UXXXXXXXX escape"
  | .beyondRange => "illegal Unicode character"
  | .malformedName => "malformed \\N character escape"
  | .unknownName => "unknown Unicode character name"

structure Nesting where
  tags : List String := []
  ends : List (List String) := []
  deriving DecidableEq, Repr

inductive Problem where
  | unexpectedChar (c : Char) (offset : Nat)
  | unopened (closing : String)
  | mismatched (closing wanted : String)
  | openComment
  | openRaw
  | identifier
  | escape (p : EscapeProblem)
  | expected (wanted found : String)
  | ended (wanted : String)
  | unexpected (found : String)
  | noExpression (found : String)
  | unknownTag (name : String) (nesting : Nesting)
  | unclosed (nesting : Nesting)
  | noTagName
  | noMember
  | notAssignable (kind : String)
  | arguments
  | chainedTests
  | notACall
  | defaultOrder
  | hyphen
  | requiredBlock
  | hiddenImport
  | unknownFilter (name : String)
  | unknownTest (name : String)
  | loopTarget
  | lateExtends
  | blockTwice (name : String)
  | callerParameter
  -- a literal that cannot be read, or nesting that is not borne
  | mishap (m : Mishap)
  deriving DecidableEq, Repr

def orList (tags : List String) : String := " or ".intercalate (tags.map Text.quoted)

def Nesting.looking (n : Nesting) : String :=
  match n.ends with
  | [] => ""
  | innermost :: _ => orList innermost

def Nesting.innermost (n : Nesting) : String :=
  match n.tags with
  | [] => ""
  | tag :: _ => " The innermost block that needs to be closed is " ++ Text.quoted tag ++ "."

def Nesting.unknownText (n : Nesting) (name : String) : String :=
  let start := "Encountered unknown tag " ++ Text.quoted name ++ "."
  let hint :=
    if n.ends.isEmpty then ""
    else if n.ends.any (·.contains name) then
      " You probably made a nesting mistake. Jinja is expecting this tag, but currently looking for " ++
        n.looking ++ "."
    else " Jinja was looking for the following tags: " ++ n.looking ++ "."
  start ++ hint ++ n.innermost

def Nesting.unclosedText (n : Nesting) : String :=
  let hint := if n.ends.isEmpty then "" else " Jinja was looking for the following tags: " ++ n.looking ++ "."
  "Unexpected end of template." ++ hint ++ n.innermost

def Problem.message : Problem → String
  | .unexpectedChar c offset => "unexpected char " ++ Text.quoted (String.singleton c) ++ " at " ++ toString offset
  | .unopened closing => "unexpected '" ++ closing ++ "'"
  | .mismatched closing wanted => "unexpected '" ++ closing ++ "', expected '" ++ wanted ++ "'"
  | .openComment => "Missing end of comment tag"
  | .openRaw => "Missing end of raw directive"
  | .identifier => "Invalid character in identifier"
  | .escape p => p.message
  | .expected wanted found => "expected token " ++ Text.quoted wanted ++ ", got " ++ Text.quoted found
  | .ended wanted => "unexpected end of template, expected " ++ Text.quoted wanted ++ "."
  | .unexpected found => "unexpected " ++ Text.quoted found
  | .noExpression found => "Expected an expression, got " ++ Text.quoted found
  | .unknownTag name nesting => nesting.unknownText name
  | .unclosed nesting => nesting.unclosedText
  | .noTagName => "tag name expected"
  | .noMember => "expected name or number"
  | .notAssignable kind => "can't assign to " ++ Text.quoted kind
  | .arguments => "invalid syntax for function call expression"
  | .chainedTests => "You cannot chain multiple tests with is"
  | .notACall => "expected call"
  | .defaultOrder => "non-default argument follows default argument"
  | .hyphen => "Block names in Jinja have to be valid Python identifiers and may not contain hyphens, use an underscore instead."
  | .requiredBlock => "Required blocks can only contain comments or whitespace"
  | .hiddenImport => "names starting with an underline can not be imported"
  | .unknownFilter name => "No filter named " ++ Text.quoted name ++ "."
  | .unknownTest name => "No test named " ++ Text.quoted name ++ "."
  | .loopTarget => "Can't assign to special loop variable in for-loop target"
  | .lateExtends => "cannot use extend from a non top-level scope"
  | .blockTwice name => "block " ++ Text.quoted name ++ " defined twice"
  | .callerParameter =>
    "When defining macros or call blocks the special \"caller\" argument must be omitted or be given a default."
  | .mishap _ => ""

def Problem.isRule : Problem → Bool
  | .hiddenImport => true
  | .unknownFilter _ => true
  | .unknownTest _ => true
  | .loopTarget => true
  | .lateExtends => true
  | .blockTwice _ => true
  | .callerParameter => true
  | _ => false

structure Flaw where
  problem : Problem
  line : Nat
  deriving DecidableEq, Repr

end Stencil.Template
