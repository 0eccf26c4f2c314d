import Stencil.Template.Scope

/-!
# Brackets

An expression is carried out as one line of nested brackets. `Expr.brackets` counts how deep they stand in each other:
a name that may be without a value is asked for it in two of them, a joined text takes two, and every other operation
takes one. `Expr.height` counts how many operations stand in each other.
-/

set_option autoImplicit false

namespace Stencil.Template

mutual

def dataBrackets : Data → Nat
  | .safe _ => 1
  | .range _ _ _ => 1
  | .complex _ => 1
  | .list items => 1 + rowBrackets items
  | .tuple items => 1 + rowBrackets items
  | .set items => 1 + rowBrackets items
  | .map entries => 1 + entryBrackets entries
  | _ => 0

def rowBrackets : List Data → Nat
  | [] => 0
  | d :: rest => max (dataBrackets d) (rowBrackets rest)

def entryBrackets : List (Data × Data) → Nat
  | [] => 0
  | (k, d) :: rest => max (max (dataBrackets k) (dataBrackets d)) (entryBrackets rest)

end

def Scopes.isParam (scopes : Scopes) (id : String) : Bool :=
  match scopes with
  | [] => false
  | s :: outer =>
    match s.names.find? id with
    | some origin => origin == .param
    | none => isParam outer id

mutual

def Expr.brackets (scopes : Scopes) : Expr → Nat
  | .literal d => dataBrackets d
  | .folded d _ => dataBrackets d
  | .name id _ => if scopes.isParam id then 0 else 2
  | .list items => 1 + listBrackets scopes items
  | .tuple items => 1 + listBrackets scopes items
  | .dict entries => 1 + dictBrackets scopes entries
  | .attribute e _ => 1 + e.brackets scopes
  | .item e (.slice start stop stride) =>
    max (e.brackets scopes)
      (1 + max (optionBrackets scopes start) (max (optionBrackets scopes stop) (optionBrackets scopes stride)))
  | .item e i => 1 + max (e.brackets scopes) (i.brackets scopes)
  | .slice start stop stride =>
    max (optionBrackets scopes start) (max (optionBrackets scopes stop) (optionBrackets scopes stride))
  | .call f args named more moreNamed =>
    1 + max (f.brackets scopes) (max (max (listBrackets scopes args) (namedBrackets scopes named))
      (max (optionBrackets scopes more) (optionBrackets scopes moreNamed)))
  | .filter e _ args named more moreNamed _ =>
    1 + max (optionBrackets scopes e) (max (max (listBrackets scopes args) (namedBrackets scopes named))
      (max (optionBrackets scopes more) (optionBrackets scopes moreNamed)))
  | .test e _ args named more moreNamed _ =>
    1 + max (e.brackets scopes) (max (max (listBrackets scopes args) (namedBrackets scopes named))
      (max (optionBrackets scopes more) (optionBrackets scopes moreNamed)))
  | .negative e => 1 + e.brackets scopes
  | .positive e => 1 + e.brackets scopes
  | .not e => 1 + e.brackets scopes
  | .and a b => 1 + max (a.brackets scopes) (b.brackets scopes)
  | .or a b => 1 + max (a.brackets scopes) (b.brackets scopes)
  | .binary _ a b => 1 + max (a.brackets scopes) (b.brackets scopes)
  | .compare e rest => 1 + max (e.brackets scopes) (comparedBrackets scopes rest)
  | .concat items => 2 + listBrackets scopes items
  | .choose condition yes no _ =>
    1 + max (condition.brackets scopes) (max (yes.brackets scopes) (max 1 (optionBrackets scopes no)))

def listBrackets (scopes : Scopes) : List Expr → Nat
  | [] => 0
  | e :: rest => max (e.brackets scopes) (listBrackets scopes rest)

def optionBrackets (scopes : Scopes) : Option Expr → Nat
  | none => 0
  | some e => e.brackets scopes

def dictBrackets (scopes : Scopes) : List (Expr × Expr) → Nat
  | [] => 0
  | (k, e) :: rest => max (max (k.brackets scopes) (e.brackets scopes)) (dictBrackets scopes rest)

def namedBrackets (scopes : Scopes) : List (String × Expr) → Nat
  | [] => 0
  | (_, e) :: rest => max (e.brackets scopes) (namedBrackets scopes rest)

def comparedBrackets (scopes : Scopes) : List (CompareOp × Expr) → Nat
  | [] => 0
  | (_, e) :: rest => max (e.brackets scopes) (comparedBrackets scopes rest)

end

mutual

def Expr.height : Expr → Nat
  | .list items => 1 + listHeight items
  | .tuple items => 1 + listHeight items
  | .dict entries => 1 + dictHeight entries
  | .attribute e _ => 1 + e.height
  | .item e i => 1 + max e.height i.height
  | .slice start stop stride => 1 + max (optionHeight start) (max (optionHeight stop) (optionHeight stride))
  | .call f args named more moreNamed =>
    1 + max f.height (max (max (listHeight args) (namedHeight named)) (max (optionHeight more) (optionHeight moreNamed)))
  | .filter e _ args named more moreNamed _ =>
    1 + max (optionHeight e)
      (max (max (listHeight args) (namedHeight named)) (max (optionHeight more) (optionHeight moreNamed)))
  | .test e _ args named more moreNamed _ =>
    1 + max e.height (max (max (listHeight args) (namedHeight named)) (max (optionHeight more) (optionHeight moreNamed)))
  | .negative e => 1 + e.height
  | .positive e => 1 + e.height
  | .not e => 1 + e.height
  | .and a b => 1 + max a.height b.height
  | .or a b => 1 + max a.height b.height
  | .binary _ a b => 1 + max a.height b.height
  | .compare e rest => 1 + max e.height (comparedHeight rest)
  | .concat items => 1 + listHeight items
  | .choose condition yes no _ => 1 + max condition.height (max yes.height (optionHeight no))
  | _ => 1

def listHeight : List Expr → Nat
  | [] => 0
  | e :: rest => max e.height (listHeight rest)

def optionHeight : Option Expr → Nat
  | none => 0
  | some e => e.height

def dictHeight : List (Expr × Expr) → Nat
  | [] => 0
  | (k, e) :: rest => max (max k.height e.height) (dictHeight rest)

def namedHeight : List (String × Expr) → Nat
  | [] => 0
  | (_, e) :: rest => max e.height (namedHeight rest)

def comparedHeight : List (CompareOp × Expr) → Nat
  | [] => 0
  | (_, e) :: rest => max e.height (comparedHeight rest)

end

end Stencil.Template
