/-!
# Escaping for markup

The five characters that mean something in markup are replaced by references; all others stay.
-/

set_option autoImplicit false

namespace Stencil.Text

def htmlChar : Char → List Char
  | '&' => "&amp;".toList
  | '<' => "&lt;".toList
  | '>' => "&gt;".toList
  | '"' => "&#34;".toList
  | '\'' => "&#39;".toList
  | c => [c]

def htmlEscape (s : String) : String := String.ofList (s.toList.flatMap htmlChar)

end Stencil.Text
