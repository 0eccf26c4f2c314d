/-!
# Log lines

A run keeps what it logged in order; who reads the log decides which levels count.
-/

set_option autoImplicit false

namespace Stencil

inductive LogLevel where
  | debug
  | warning
  deriving DecidableEq, Repr

structure LogLine where
  level : LogLevel
  text : String
  deriving DecidableEq, Repr

def LogLevel.label : LogLevel → String
  | .debug => "DEBUG"
  | .warning => "WARNING"

def LogLine.written (l : LogLine) : String := "[" ++ l.level.label ++ "] " ++ l.text

def shownLines (debug : Bool) (lines : List LogLine) : List String :=
  (lines.filter fun l => debug || l.level != .debug).map LogLine.written

end Stencil
