import Stencil.Engine.Arithmetic
import Stencil.Engine.Signature
import Stencil.Text.Case
import Stencil.Text.Split

/-!
# Methods

What lists, maps, texts and loops can be asked to do.
-/

set_option autoImplicit false

namespace Stencil.Engine

def needText (v : Value) : Eval String := liftOption .wrongType (textOf? v)

def needInt (v : Value) : Eval Int := liftOption .wrongType (asIndex? v)

def positional (names : List String) (required : Nat) (args : List Value) (named : Named) : Eval Given :=
  if named.isEmpty then Signature.bind ⟨names, required⟩ args named else fail .wrongType

def noArguments (args : List Value) (named : Named) : Eval Unit :=
  if args.isEmpty && named.isEmpty then return () else fail .wrongType

def limitOf (whole : List Char) (n : Int) : Nat := if n < 0 then whole.length + 1 else n.toNat

def stripChars (chars cs : List Char) (left right : Bool) : List Char :=
  let cs := if left then cs.dropWhile chars.contains else cs
  if right then (cs.reverse.dropWhile chars.contains).reverse else cs

def stripWith (chars : Option (List Char)) (cs : List Char) (left right : Bool) : List Char :=
  match chars with
  | some chars => stripChars chars cs left right
  | none =>
    let cs := if left then Text.stripLeft cs else cs
    if right then Text.stripRight cs else cs

def charsArgument (v : Value) : Eval (Option (List Char)) := do
  match v with
  | .null => return none
  | v => return some (← needText v).toList

def stripMethod (v : Value) (cs : List Char) (left right : Bool) (args : List Value) (named : Named) : Eval Value := do
  let g ← positional ["chars"] 0 args named
  let chars ← charsArgument (g.get "chars" .null)
  return likeText v (String.ofList (stripWith chars cs left right))

def splitParts (limit : Nat) (cs : List Char) (sep : Value) : Eval (List (List Char)) := do
  match sep with
  | .null => return Text.splitBlank (cs.length + 1) limit cs
  | sep =>
    let s ← needText sep
    if s.isEmpty then fail .badValue
    return Text.splitText s.toList limit cs

def splitMethod (v : Value) (cs : List Char) (args : List Value) (named : Named) : Eval Value := do
  let g ← Signature.bind ⟨["sep", "maxsplit"], 0⟩ args named
  let limit := limitOf cs (← needInt (g.get "maxsplit" (.int (-1))))
  let parts ← splitParts limit cs (g.get "sep" .null)
  newList (parts.map fun p => likeText v (String.ofList p))

def partText (whole part : Value) : Eval String :=
  match part with
  | .text t => return if isSafe whole then Text.htmlEscape t else t
  | part => needText part

def joinMethod (I : Interp) (v : Value) (s : String) (items : Value) : Eval Value := do
  let parts ← itemsOf I items
  let texts ← parts.mapM (partText v)
  return likeText v (s.intercalate texts)

def affixArgument (found : List Char → Bool) (v : Value) : Eval Value := do
  match v with
  | .tuple items => return .bool (← items.anyM fun p => do return found (← needText p).toList)
  | v => return .bool (found (← needText v).toList)

def findIn (part : List Char) : Nat → List Char → Option Nat
  | n, [] => if part.isEmpty then some n else none
  | n, c :: cs => if part.isPrefixOf (c :: cs) then some n else findIn part (n + 1) cs

def countIn (part cs : List Char) : Nat :=
  if part.isEmpty then cs.length + 1 else (Text.splitText part (cs.length + 1) cs).length - 1

def textMethod (I : Interp) (v : Value) (s : String) (id : String) (args : List Value) (named : Named) :
    Eval Value := do
  let cs := s.toList
  let like (cs : List Char) : Value := likeText v (String.ofList cs)
  let one : Eval Value := do return (← positional ["x"] 1 args named).get "x" .null
  match id with
  | "upper" =>
    noArguments args named
    return like (Text.upper cs)
  | "lower" =>
    noArguments args named
    return like (Text.lower cs)
  | "capitalize" =>
    noArguments args named
    return like (Text.capitalize cs)
  | "title" =>
    noArguments args named
    return like (Text.titleLetters [] cs)
  | "strip" => stripMethod v cs true true args named
  | "lstrip" => stripMethod v cs true false args named
  | "rstrip" => stripMethod v cs false true args named
  | "split" => splitMethod v cs args named
  | "splitlines" =>
    noArguments args named
    newList ((Text.splitLines cs).map like)
  | "join" => joinMethod I v s (← one)
  | "replace" =>
    let g ← positional ["old", "new", "count"] 2 args named
    let old ← needText (g.get "old" .null)
    let new ← partText v (g.get "new" .null)
    let limit := limitOf cs (← needInt (g.get "count" (.int (-1))))
    return like (Text.replaceText old.toList new.toList limit cs)
  | "startswith" => affixArgument (fun p => p.isPrefixOf cs) (← one)
  | "endswith" => affixArgument (fun p => p.isSuffixOf cs) (← one)
  | "find" =>
    match findIn (← needText (← one)).toList 0 cs with
    | some n => return natValue n
    | none => return .int (-1)
  | "index" =>
    match findIn (← needText (← one)).toList 0 cs with
    | some n => return natValue n
    | none => fail .badValue
  | "count" => return natValue (countIn (← needText (← one)).toList cs)
  | "isdigit" => return .bool (!cs.isEmpty && cs.all Char.isDigit)
  | "isspace" => return .bool (!cs.isEmpty && cs.all Text.isBlank)
  | _ => fail .wrongType

def pairsOf (I : Interp) (v : Value) : Eval (List (Value × Value)) := do
  match v with
  | .missing m => failMissing m
  | .dict r => dictEntries r
  | v =>
    (← itemsOf I v).mapM fun item => do
      match ← itemsOf I item with
      | [k, x] => return (k, x)
      | _ => fail .badValue

def putAll (entries more : List (Value × Value)) : Eval (List (Value × Value)) :=
  more.foldlM (fun es e => putEntry es e.1 e.2) entries

def namedEntries (named : Named) : List (Value × Value) := named.map fun e => (.text e.1, e.2)

def buildEntries (I : Interp) (args : List Value) (named : Named) : Eval (List (Value × Value)) := do
  let start ← match args with
    | [] => pure []
    | [v] => putAll [] (← pairsOf I v)
    | _ => fail .wrongType
  putAll start (namedEntries named)

def withoutKey (entries : List (Value × Value)) (key : Value) : List (Value × Value) :=
  entries.filter fun e => !keyEqual e.1 key

def popKey (r : Ref) (entries : List (Value × Value)) (key : Value) (default : Option Value) : Eval Value := do
  match findKey? key entries with
  | some v =>
    setEntries r (withoutKey entries key)
    return v
  | none => liftOption .noKey default

def dictMethod (I : Interp) (r : Ref) (id : String) (args : List Value) (named : Named) : Eval Value := do
  let entries ← dictEntries r
  match id with
  | "keys" =>
    noArguments args named
    return .view .keys r
  | "values" =>
    noArguments args named
    return .view .values r
  | "items" =>
    noArguments args named
    return .view .items r
  | "copy" =>
    noArguments args named
    return .dict (← alloc (.dict entries (← insists r)))
  | "clear" =>
    noArguments args named
    setEntries r []
    return .null
  | "get" =>
    let g ← positional ["key", "default"] 1 args named
    let key := g.get "key" .null
    needKey key
    return (findKey? key entries).getD (g.get "default" .null)
  | "setdefault" =>
    let g ← positional ["key", "default"] 1 args named
    let key := g.get "key" .null
    needKey key
    match findKey? key entries with
    | some v => return v
    | none =>
      let v := g.get "default" .null
      setEntries r (putKey key v entries)
      return v
  | "pop" =>
    let g ← positional ["key", "default"] 1 args named
    let key := g.get "key" .null
    if !entries.isEmpty then needKey key
    popKey r entries key (g.lookup "default")
  | "popitem" =>
    noArguments args named
    match entries.getLast? with
    | some (k, v) =>
      setEntries r entries.dropLast
      return .tuple [k, v]
    | none => fail .noKey
  | "update" =>
    let more ← buildEntries I args named
    setEntries r (← putAll entries more)
    return .null
  | _ => fail .wrongType

def insertAt {α : Type} (xs : List α) (place : Nat) (x : α) : List α := xs.take place ++ x :: xs.drop place

def placeOf (v : Value) : Nat → List Value → Eval (Option Nat)
  | _, [] => return none
  | n, x :: rest => do
    if ← sameOrEqual x v then return some n else placeOf v (n + 1) rest

def countEqual (v : Value) (items : List Value) : Eval Nat :=
  items.foldlM (fun n x => do return if ← sameOrEqual x v then n + 1 else n) 0

def sortValues (reverse : Bool) (keyed : List (Value × Value)) : Eval (List Value) := do
  let less (a b : Value × Value) : Eval Bool := valueRelated .lt a.1 b.1
  if reverse then
    let sorted ← sortM less keyed.reverse
    return (sorted.map Prod.snd).reverse
  else
    let sorted ← sortM less keyed
    return sorted.map Prod.snd

def listMethod (I : Interp) (r : Ref) (id : String) (args : List Value) (named : Named) : Eval Value := do
  let items ← listItems r
  let set (items : List Value) : Eval Unit := setObject r (.list items)
  let one : Eval Value := do return (← positional ["x"] 1 args named).get "x" .null
  match id with
  | "append" =>
    set (items ++ [← one])
    return .null
  | "extend" =>
    set (items ++ (← itemsOf I (← one)))
    return .null
  | "insert" =>
    let g ← positional ["index", "object"] 2 args named
    let n ← needInt (g.get "index" .null)
    let place := (max 0 (if n < 0 then n + items.length else n)).toNat
    set (insertAt items place (g.get "object" .null))
    return .null
  | "pop" =>
    let g ← positional ["index"] 0 args named
    match placeIn? items.length (← needInt (g.get "index" (.int (-1)))) with
    | some n =>
      set (items.eraseIdx n)
      return items.getD n .null
    | none => fail .noIndex
  | "remove" =>
    match ← placeOf (← one) 0 items with
    | some n =>
      set (items.eraseIdx n)
      return .null
    | none => fail .badValue
  | "index" => return natValue (← liftOption .badValue (← placeOf (← one) 0 items))
  | "count" => return natValue (← countEqual (← one) items)
  | "reverse" =>
    noArguments args named
    set items.reverse
    return .null
  | "copy" =>
    noArguments args named
    newList items
  | "clear" =>
    noArguments args named
    set []
    return .null
  | "sort" =>
    let g ← Signature.bind ⟨["reverse"], 0⟩ [] named
    if !args.isEmpty then fail .wrongType
    set (← sortValues (← truth I (g.get "reverse" (.bool false))) (items.map fun v => (v, v)))
    return .null
  | _ => fail .wrongType

def tupleMethod (items : List Value) (id : String) (args : List Value) (named : Named) : Eval Value := do
  let v := (← positional ["x"] 1 args named).get "x" .null
  match id with
  | "index" => return natValue (← liftOption .badValue (← placeOf v 0 items))
  | "count" => return natValue (← countEqual v items)
  | _ => fail .wrongType

def askedBefore (l : Loop) (args : List Value) : Eval Bool :=
  match l.lastChanged with
  | none => return false
  | some old => equalRows sameOrEqual old args

def loopMethod (r : Ref) (id : String) (args : List Value) (named : Named) : Eval Value := do
  if !named.isEmpty then fail .wrongType
  match ← loop? r with
  | none => fail .wrongType
  | some l =>
    match id with
    | "cycle" =>
      if args.isEmpty then fail .wrongType
      return args.getD ((l.turns - 1) % args.length) .null
    | "changed" =>
      if ← askedBefore l args then return .bool false
      setObject r (.loop { l with lastChanged := some args })
      return .bool true
    | _ => fail .wrongType

def callMethod (I : Interp) (owner : Value) (id : String) (args : List Value) (named : Named) : Eval Value :=
  match owner with
  | .text s => textMethod I owner s id args named
  | .safe s => textMethod I owner s id args named
  | .dict r => dictMethod I r id args named
  | .list r => listMethod I r id args named
  | .tuple items => tupleMethod items id args named
  | .loop r => loopMethod r id args named
  | _ => fail .wrongType

end Stencil.Engine
