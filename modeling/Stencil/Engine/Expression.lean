import Stencil.Engine.Test
import Stencil.Engine.Variable

/-!
# Expressions

The value of an expression in an environment. Functions and filters are called through the interpreter.
-/

set_option autoImplicit false

namespace Stencil.Engine

open Stencil.Template

def isPlainFloat (x : Float) : Bool := Number.isFinite x

mutual

def hasSpelling : Data → Bool
  | .float x => isPlainFloat x
  | .nan _ => false
  | .complex z => isPlainFloat z.re && isPlainFloat z.im
  | .list items => allSpelled items
  | .tuple items => allSpelled items
  | .set items => allSpelled items
  | .map entries => entriesSpelled entries
  | .ordered _ => false
  | .missing _ => false
  | .handle _ => false
  | .labelled _ _ => false
  | .again _ _ => false
  | _ => true

def allSpelled : List Data → Bool
  | [] => true
  | d :: rest => hasSpelling d && allSpelled rest

def entriesSpelled : List (Data × Data) → Bool
  | [] => true
  | (k, d) :: rest => hasSpelling k && hasSpelling d && entriesSpelled rest

end

def respelled (z : Number.Complex) : Number.Complex :=
  if z.re == 0.0 && !Number.isNegativeFloat z.re then
    if Number.isNegativeFloat z.im then ⟨-0.0, z.im⟩ else z
  else ⟨z.re + 0.0, z.im + 0.0⟩

def constant (d : Data) : Eval Value := do
  if !hasSpelling d then fail .noName
  match d with
  | .complex z => return .complex (respelled z)
  | d => thaw d

def unsigned? : Expr → Option Data
  | .folded (.int n) _ => if n < 0 then some (.int (-n)) else none
  | .folded (.float x) _ => if Number.isNegativeFloat x && isPlainFloat x then some (.float (-x)) else none
  | .folded (.complex z) _ =>
    if z.re == 0.0 && !Number.isNegativeFloat z.re && Number.isNegativeFloat z.im then some (.complex ⟨0.0, -z.im⟩)
    else none
  | _ => none

def positionText (env : Env) (shown : String → String) (line : Nat) : Eval String := do
  let name := (← compiled? env.script).bind Compiled.name
  return "line " ++ toString line ++ (match name with
    | some id => " in " ++ shown id
    | none => "")

def inMarks (id : String) : String := "'" ++ id ++ "'"

def noOtherSide (env : Env) (line : Nat) : Eval Value := do
  return .missing ⟨false, .nothing, "the inline if-expression on " ++ (← positionText env inMarks line) ++
    " evaluated to false and no else section was defined.", ← freshMark⟩

def escapesHere (I : Interp) (env : Env) : Eval Bool :=
  if env.escape.unsure then escapesNow I env else return env.escape.on

def joinSafely (I : Interp) (values : List Value) : Eval Value := do
  let texts ← values.mapM (asText I)
  if texts.any isSafe then return .safe (String.join (← texts.mapM (escaped I)))
  else return .text (String.join (← texts.mapM (display I)))

def joinPlainly (I : Interp) (values : List Value) : Eval Value := do
  return .text (String.join (← values.mapM (display I)))

structure Arguments where
  positional : List Value
  named : Named

def namedKey (key : Value) : Eval String :=
  match key with
  | .text s => return s
  | .safe s => return s
  | _ => fail .wrongType

def reservedWords : List String :=
  ["False", "None", "True", "and", "as", "assert", "async", "await", "break", "class", "continue", "def", "del",
    "elif", "else", "except", "finally", "for", "from", "global", "if", "import", "in", "is", "lambda", "nonlocal",
    "not", "or", "pass", "raise", "return", "try", "while", "with", "yield"]

def passedAsMap (ids : List String) : Bool := ids.any reservedWords.contains

def putNamed (named : Named) (id : String) (v : Value) : Named :=
  if named.any (·.1 == id) then named.map fun e => if e.1 == id then (id, v) else e else named ++ [(id, v)]

def addNamed (asMap : Bool) (named : Named) : List (Value × Value) → Eval Named
  | [] => return named
  | (k, v) :: rest => do
    let id ← namedKey k
    if !asMap && named.any (·.1 == id) then fail .wrongType
    addNamed asMap (putNamed named id v) rest

def collectNamed (named : Named) (moreNamed : Option Value) : Eval Named := do
  let asMap := passedAsMap (named.map Prod.fst)
  let named := if asMap then named.foldl (fun ns e => putNamed ns e.1 e.2) []
    else named.map fun e => (Text.normal e.1, e.2)
  match moreNamed with
  | some (.dict r) => addNamed asMap named (← dictEntries r)
  | some (.missing m) => failMissing m
  | some _ => fail .wrongType
  | none => return named

def spread (I : Interp) (more : Option Value) : Eval (List Value) :=
  match more with
  | some v => itemsOf I v
  | none => return []

def gather (args : List Value) (named : Named) (moreNamed : Option Value) : Eval Arguments := do
  return ⟨args, ← collectNamed named moreNamed⟩

mutual

def evaluate (I : Interp) (env : Env) : Expr → Eval Value
  | .literal d => constant d
  | .folded d _ => constant d
  | .name id _ => readName env id
  | .list items => do newList (← evaluateAll I env items)
  | .tuple items => do return .tuple (← evaluateAll I env items)
  | .dict entries => do newDict (← putAll [] (← evaluateEntries I env entries))
  | .attribute e id => do getMember I (← evaluate I env e) id
  | .item e (.slice start stop stride) => do
    let v ← evaluate I env e
    let a ← evaluateOption I env start
    let b ← evaluateOption I env stop
    let c ← evaluateOption I env stride
    sliceOf v (a.getD .null) (b.getD .null) (c.getD .null)
  | .item e i => do
    let v ← evaluate I env e
    getElement I v (← evaluate I env i)
  | .slice start stop stride => do
    let a ← evaluateOption I env start
    let b ← evaluateOption I env stop
    let c ← evaluateOption I env stride
    return .slice (a.getD .null) (b.getD .null) (c.getD .null)
  | .call f args named more moreNamed => do
    let v ← evaluate I env f
    let args ← evaluateAll I env args
    let rest ← spread I (← evaluateOption I env more)
    let named ← evaluateNamed I env named
    let given ← gather (args ++ rest) named (← evaluateOption I env moreNamed)
    I.call env v given.positional given.named
  | .filter operand id args named more moreNamed _ => do
    let v ← evaluateOption I env operand
    let args ← evaluateAll I env args
    let rest ← spread I (← evaluateOption I env more)
    let named ← evaluateNamed I env named
    let given ← gather (args ++ rest) named (← evaluateOption I env moreNamed)
    I.filter env id (v.toList ++ given.positional) given.named
  | .test operand id args named more moreNamed _ => do
    let v ← evaluate I env operand
    let args ← evaluateAll I env args
    let rest ← spread I (← evaluateOption I env more)
    let named ← evaluateNamed I env named
    let given ← gather (args ++ rest) named (← evaluateOption I env moreNamed)
    return .bool (← applyTest I id (v :: given.positional) given.named)
  | .negative e => do negate (← evaluate I env e)
  | .positive e => do positive (← evaluate I env e)
  | .not e => do return .bool (!(← truth I (← evaluate I env e)))
  | .and a b => do
    let v ← evaluate I env a
    if ← truth I v then evaluate I env b else return v
  | .or a b => do
    let v ← evaluate I env a
    if ← truth I v then return v else evaluate I env b
  | .binary op a b => do
    match op, unsigned? a with
    | .pow, some d =>
      let v ← constant d
      negate (← binaryOp I .pow v (← evaluate I env b))
    | _, _ =>
      let v ← evaluate I env a
      binaryOp I op v (← evaluate I env b)
  | .compare e rest => do
    let v ← evaluate I env e
    return .bool (← compareChain I env v rest)
  | .concat items => do
    let values ← evaluateAll I env items
    if env.escape.on && !env.escape.unsure then joinSafely I values else joinPlainly I values
  | .choose condition yes no line => do
    if ← truth I (← evaluate I env condition) then evaluate I env yes
    else
      match ← evaluateOption I env no with
      | some v => return v
      | none => noOtherSide env line

def evaluateAll (I : Interp) (env : Env) : List Expr → Eval (List Value)
  | [] => return []
  | e :: rest => do
    let v ← evaluate I env e
    return v :: (← evaluateAll I env rest)

def evaluateOption (I : Interp) (env : Env) : Option Expr → Eval (Option Value)
  | none => return none
  | some e => do return some (← evaluate I env e)

def evaluateEntries (I : Interp) (env : Env) : List (Expr × Expr) → Eval (List (Value × Value))
  | [] => return []
  | (k, e) :: rest => do
    let key ← evaluate I env k
    let v ← evaluate I env e
    return (key, v) :: (← evaluateEntries I env rest)

def evaluateNamed (I : Interp) (env : Env) : List (String × Expr) → Eval Named
  | [] => return []
  | (id, e) :: rest => do
    let v ← evaluate I env e
    return (id, v) :: (← evaluateNamed I env rest)

def compareChain (I : Interp) (env : Env) (v : Value) : List (CompareOp × Expr) → Eval Bool
  | [] => return true
  | (op, e) :: rest => do
    let w ← evaluate I env e
    if ← compareValues I op v w then compareChain I env w rest else return false

end

def applyChain (I : Interp) (env : Env) (captured : Value) : Expr → Eval Value
  | .filter operand id args named more moreNamed _ => do
    let v ← match operand with
      | some e => applyChain I env captured e
      | none => pure captured
    let args ← evaluateAll I env args
    let rest ← spread I (← evaluateOption I env more)
    let named ← evaluateNamed I env named
    let given ← gather (args ++ rest) named (← evaluateOption I env moreNamed)
    I.filter env id (v :: given.positional) given.named
  | e => evaluate I env e

end Stencil.Engine
