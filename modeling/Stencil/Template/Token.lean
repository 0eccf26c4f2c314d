/-!
# Tokens

A template is a row of tokens: pieces of literal text, the delimiters of expressions and statements, and between
the delimiters names, literals and symbols.
-/

set_option autoImplicit false

namespace Stencil.Template

inductive Symbol where
  | add
  | assign
  | colon
  | comma
  | div
  | dot
  | eq
  | floorDiv
  | ge
  | gt
  | lbrace
  | lbracket
  | le
  | lparen
  | lt
  | mod
  | mul
  | ne
  | pipe
  | pow
  | rbrace
  | rbracket
  | rparen
  | semicolon
  | sub
  | tilde
  deriving DecidableEq, Repr

def Symbol.text : Symbol → String
  | .add => "+"
  | .assign => "="
  | .colon => ":"
  | .comma => ","
  | .div => "/"
  | .dot => "."
  | .eq => "=="
  | .floorDiv => "//"
  | .ge => ">="
  | .gt => ">"
  | .lbrace => "\x7b"
  | .lbracket => "["
  | .le => "<="
  | .lparen => "("
  | .lt => "<"
  | .mod => "%"
  | .mul => "*"
  | .ne => "!="
  | .pipe => "|"
  | .pow => "**"
  | .rbrace => "\x7d"
  | .rbracket => "]"
  | .rparen => ")"
  | .semicolon => ";"
  | .sub => "-"
  | .tilde => "~"

inductive TokenKind where
  | data (s : String)
  | variableBegin
  | variableEnd
  | blockBegin
  | blockEnd
  | name (s : String)
  | text (s : String)
  | int (n : Nat)
  | float (x : Float)
  | symbol (s : Symbol)
  | ending

structure Token where
  line : Nat
  kind : TokenKind

def TokenKind.description : TokenKind → String
  | .data _ => "template data / text"
  | .variableBegin => "begin of print statement"
  | .variableEnd => "end of print statement"
  | .blockBegin => "begin of statement block"
  | .blockEnd => "end of statement block"
  | .name s => s
  | .text _ => "string"
  | .int _ => "integer"
  | .float _ => "float"
  | .symbol s => s.text
  | .ending => "end of template"

def Token.isName (t : Token) (word : String) : Bool :=
  match t.kind with
  | .name s => s == word
  | _ => false

def Token.isSymbol (t : Token) (symbol : Symbol) : Bool :=
  match t.kind with
  | .symbol s => s == symbol
  | _ => false

def Token.isBlockEnd (t : Token) : Bool :=
  match t.kind with
  | .blockEnd => true
  | _ => false

def Token.isEnding (t : Token) : Bool :=
  match t.kind with
  | .ending => true
  | _ => false

end Stencil.Template
