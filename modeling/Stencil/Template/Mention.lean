import Stencil.Template.Syntax

/-!
# The names that a tree mentions

Mentions are listed in the order of the text, with a flag that says whether the name is read. A name is free in a
row of statements if the first mention of it reads it. Named blocks are separate units and are not looked into.
-/

set_option autoImplicit false

namespace Stencil.Template

def bodyLocals : String := "_rerender_body_locals"

mutual

def Expr.names : Expr → List String
  | .literal _ => []
  | .folded _ source => source.names
  | .name id _ => [id]
  | .list items => namesOfList items
  | .tuple items => namesOfList items
  | .dict entries => namesOfEntries entries
  | .attribute e _ => e.names
  | .item e i => e.names ++ i.names
  | .slice start stop stride => namesOfOption start ++ namesOfOption stop ++ namesOfOption stride
  | .call f args named more moreNamed =>
    f.names ++ namesOfList args ++ namesOfNamed named ++ namesOfOption more ++ namesOfOption moreNamed
  | .filter e _ args named more moreNamed _ =>
    namesOfOption e ++ namesOfList args ++ namesOfNamed named ++ namesOfOption more ++ namesOfOption moreNamed
  | .test e _ args named more moreNamed _ =>
    e.names ++ namesOfList args ++ namesOfNamed named ++ namesOfOption more ++ namesOfOption moreNamed
  | .negative e => e.names
  | .positive e => e.names
  | .not e => e.names
  | .and a b => a.names ++ b.names
  | .or a b => a.names ++ b.names
  | .binary _ a b => a.names ++ b.names
  | .compare e rest => e.names ++ namesOfCompared rest
  | .concat items => namesOfList items
  | .choose c a b _ => c.names ++ a.names ++ namesOfOption b

def namesOfList : List Expr → List String
  | [] => []
  | e :: rest => e.names ++ namesOfList rest

def namesOfOption : Option Expr → List String
  | none => []
  | some e => e.names

def namesOfEntries : List (Expr × Expr) → List String
  | [] => []
  | (k, v) :: rest => k.names ++ v.names ++ namesOfEntries rest

def namesOfNamed : List (String × Expr) → List String
  | [] => []
  | (_, e) :: rest => e.names ++ namesOfNamed rest

def namesOfCompared : List (CompareOp × Expr) → List String
  | [] => []
  | (_, e) :: rest => e.names ++ namesOfCompared rest

end

def Piece.names : Piece → List String
  | .data _ => []
  | .value e => e.names
  | .fixed _ source => namesOfOption source

structure Mention where
  id : String
  reads : Bool

def reading (ids : List String) : List Mention := ids.map (⟨·, true⟩)

def binding (ids : List String) : List Mention := ids.map (⟨·, false⟩)

def Target.mentions (t : Target) : List Mention := binding (t.names.map Prod.fst)

def bindingsMentions (bs : List (Target × Expr)) : List Mention :=
  bs.flatMap (fun b => b.1.mentions) ++ bs.flatMap (fun b => reading b.2.names)

def Params.mentions (p : Params) : List Mention := binding p.names ++ reading (namesOfList p.defaults)

mutual

def Node.mentions : Node → List Mention
  | .output pieces => reading (pieces.flatMap Piece.names)
  | .assign target value => target.mentions ++ reading value.names
  | .capture target filter body => target.mentions ++ reading (namesOfOption filter) ++ mentionsOf body
  | .forLoop target iterable test _ body otherwise =>
    target.mentions ++ reading iterable.names ++ mentionsOf body ++ mentionsOf otherwise ++
      reading (namesOfOption test)
  | .ifElse condition body branches otherwise =>
    reading condition.names ++ mentionsOf body ++ mentionsOfBranches branches ++ mentionsOf otherwise
  | .withVars bindings body => bindingsMentions bindings ++ mentionsOf body
  | .macroDef _ params body _ => params.mentions ++ mentionsOf body
  | .callBlock params call body _ => reading call.names ++ params.mentions ++ mentionsOf body
  | .tagBlock _ _ body => reading ["loop"] ++ binding [bodyLocals] ++ mentionsOf body
  | .filterBlock filter body => mentionsOf body ++ reading filter.names
  | .autoescape value _ body => reading value.names ++ mentionsOf body
  | .block _ _ _ _ _ => []
  | .extendsFrom template _ => reading template.names
  | .includeFile template _ _ => reading template.names
  | .importAs template _ _ => reading template.names
  | .importNames template _ _ _ => reading template.names
  | .collect => reading [bodyLocals]

def mentionsOf : List Node → List Mention
  | [] => []
  | n :: rest => n.mentions ++ mentionsOf rest

def mentionsOfBranches : List (Expr × List Node) → List Mention
  | [] => []
  | (c, body) :: rest => reading c.names ++ mentionsOf body ++ mentionsOfBranches rest

end

def isFree (id : String) (nodes : List Node) : Bool :=
  match (mentionsOf nodes).find? (·.id == id) with
  | some m => m.reads
  | none => false

structure Block where
  id : String
  isScoped : Bool
  body : List Node
  line : Nat

mutual

def Node.blocks : Node → List Block
  | .block id isScoped _ body line => ⟨id, isScoped, body, line⟩ :: blocksOf body
  | .capture _ _ body => blocksOf body
  | .forLoop _ _ _ _ body otherwise => blocksOf body ++ blocksOf otherwise
  | .ifElse _ body branches otherwise => blocksOf body ++ blocksOfBranches branches ++ blocksOf otherwise
  | .withVars _ body => blocksOf body
  | .macroDef _ _ body _ => blocksOf body
  | .callBlock _ _ body _ => blocksOf body
  | .tagBlock _ _ body => blocksOf body
  | .filterBlock _ body => blocksOf body
  | .autoescape _ _ body => blocksOf body
  | _ => []

def blocksOf : List Node → List Block
  | [] => []
  | n :: rest => n.blocks ++ blocksOf rest

def blocksOfBranches : List (Expr × List Node) → List Block
  | [] => []
  | (_, body) :: rest => blocksOf body ++ blocksOfBranches rest

end

mutual

def Node.assigned : Node → List (String × Nat)
  | .assign target _ => target.names
  | .capture target _ body => target.names ++ assignedIn body
  | .forLoop target _ _ _ body otherwise => target.names ++ assignedIn body ++ assignedIn otherwise
  | .ifElse _ body branches otherwise => assignedIn body ++ assignedInBranches branches ++ assignedIn otherwise
  | .withVars _ body => assignedIn body
  | .macroDef _ _ body _ => assignedIn body
  | .callBlock _ _ body _ => assignedIn body
  | .tagBlock _ _ body => assignedIn body
  | .filterBlock _ body => assignedIn body
  | .autoescape _ _ body => assignedIn body
  | .block _ _ _ body _ => assignedIn body
  | _ => []

def assignedIn : List Node → List (String × Nat)
  | [] => []
  | n :: rest => n.assigned ++ assignedIn rest

def assignedInBranches : List (Expr × List Node) → List (String × Nat)
  | [] => []
  | (_, body) :: rest => assignedIn body ++ assignedInBranches rest

end

mutual

def Node.hasExtends : Node → Bool
  | .extendsFrom _ _ => true
  | .capture _ _ body => anyExtends body
  | .forLoop _ _ _ _ body otherwise => anyExtends body || anyExtends otherwise
  | .ifElse _ body branches otherwise => anyExtends body || anyBranchExtends branches || anyExtends otherwise
  | .withVars _ body => anyExtends body
  | .macroDef _ _ body _ => anyExtends body
  | .callBlock _ _ body _ => anyExtends body
  | .tagBlock _ _ body => anyExtends body
  | .filterBlock _ body => anyExtends body
  | .autoescape _ _ body => anyExtends body
  | .block _ _ _ body _ => anyExtends body
  | _ => false

def anyExtends : List Node → Bool
  | [] => false
  | n :: rest => n.hasExtends || anyExtends rest

def anyBranchExtends : List (Expr × List Node) → Bool
  | [] => false
  | (_, body) :: rest => anyExtends body || anyBranchExtends rest

end

mutual

def Node.leaks : Node → Bool
  | .includeFile _ _ withContext => !withContext
  | .capture _ _ body => anyLeaks body
  | .forLoop _ _ _ isRecursive body otherwise => !isRecursive && (anyLeaks body || anyLeaks otherwise)
  | .ifElse _ body branches otherwise => anyLeaks body || anyBranchLeaks branches || anyLeaks otherwise
  | .withVars _ body => anyLeaks body
  | .filterBlock _ body => anyLeaks body
  | .autoescape _ _ body => anyLeaks body
  | _ => false

def anyLeaks : List Node → Bool
  | [] => false
  | n :: rest => n.leaks || anyLeaks rest

def anyBranchLeaks : List (Expr × List Node) → Bool
  | [] => false
  | (_, body) :: rest => anyLeaks body || anyBranchLeaks rest

end

def countsTurns (isRecursive : Bool) (body otherwise : List Node) : Bool :=
  isRecursive || isFree "loop" body || (blocksOf body ++ blocksOf otherwise).any (·.isScoped)

end Stencil.Template
