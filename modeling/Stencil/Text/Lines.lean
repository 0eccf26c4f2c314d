/-!
# Line ends

A carriage return, alone or before a line feed, is read as one line feed.
-/

set_option autoImplicit false

namespace Stencil.Text

def unifyLines : List Char → List Char
  | [] => []
  | '\r' :: '\n' :: cs => '\n' :: unifyLines cs
  | '\r' :: cs => '\n' :: unifyLines cs
  | c :: cs => c :: unifyLines cs

def dropFinalNewline (cs : List Char) : List Char :=
  if cs.getLast? == some '\n' then cs.dropLast else cs

def countNewlines (cs : List Char) : Nat := cs.count '\n'

theorem unifyLines_of_not_mem {cs : List Char} (h : '\r' ∉ cs) : unifyLines cs = cs := by
  induction cs with
  | nil => rfl
  | cons c cs ih =>
    have hc : c ≠ '\r' := fun e => h (by simp [e])
    have ht : '\r' ∉ cs := fun m => h (by simp [m])
    unfold unifyLines
    split <;> simp_all

end Stencil.Text
