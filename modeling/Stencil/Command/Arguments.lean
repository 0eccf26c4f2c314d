import Stencil.Text.Decimal
import Stencil.Text.Lines
import Stencil.Text.Quoted

/-!
# Arguments of a command line

Options start with a dash and may stand anywhere; a long one may be shortened as long as it stays unambiguous, and its
value follows it or is attached with an equals sign. Two dashes alone end the options. What is neither an option nor
a value is for the operand, and arguments that nobody wants are left over.
-/

set_option autoImplicit false

namespace Stencil.Command

inductive Effect where
  | value
  | flag
  | help
  | version
  deriving DecidableEq, Repr

structure Switch where
  names : List String
  effect : Effect
  deriving DecidableEq, Repr

def Switch.name (o : Switch) : String := o.names.getLastD ""

def Switch.label (o : Switch) : String := "/".intercalate o.names

structure Operand where
  name : String
  choices : List String
  takesRest : Bool
  deriving DecidableEq, Repr

structure Grammar where
  program : String
  switches : List Switch
  operand : Operand
  deriving DecidableEq, Repr

inductive ArgumentProblem where
  | required (name : String)
  | invalidChoice (name value : String) (choices : List String)
  | expectedValue (label : String)
  | unexpectedValue (label value : String)
  | ambiguous (written : String) (candidates : List String)
  | unrecognized (arguments : List String)
  deriving DecidableEq, Repr

def ArgumentProblem.message : ArgumentProblem → String
  | .required name => "the following arguments are required: " ++ name
  | .invalidChoice name value choices =>
    "argument " ++ name ++ ": invalid choice: " ++ Text.quoted value ++ " (choose from " ++
      ", ".intercalate (choices.map Text.quoted) ++ ")"
  | .expectedValue label => "argument " ++ label ++ ": expected one argument"
  | .unexpectedValue label value => "argument " ++ label ++ ": ignored explicit argument " ++ Text.quoted value
  | .ambiguous written candidates =>
    "ambiguous option: " ++ written ++ " could match " ++ ", ".intercalate candidates
  | .unrecognized arguments => "unrecognized arguments: " ++ " ".intercalate arguments

inductive Stop where
  | fault (program : String) (problem : ArgumentProblem)
  | help
  | version
  deriving DecidableEq, Repr

section Marks

structure Written where
  switch : Option Switch
  isLong : Bool
  divided : Bool
  attached : Option (List Char)

inductive Mark where
  | option (w : Written)
  | plain
  | divider

def Mark.isOption : Mark → Bool
  | .option _ => true
  | _ => false

def isLongName (cs : List Char) : Bool := cs.take 2 == ['-', '-']

def find? (g : Grammar) (name : String) : Option Switch := g.switches.find? (·.names.contains name)

def divide (cs : List Char) : List Char × Option (List Char) :=
  let name := cs.takeWhile (· != '=')
  (name, if name.length = cs.length then none else some (cs.drop (name.length + 1)))

def spellings (g : Grammar) : List (String × Switch) := g.switches.flatMap fun o => o.names.map (·, o)

def candidates (g : Grammar) (cs : List Char) : List (String × Written) :=
  if isLongName cs then
    let (start, attached) := divide cs
    (spellings g).filterMap fun (name, o) =>
      if start.isPrefixOf name.toList then some (name, ⟨some o, true, attached.isSome, attached⟩) else none
  else
    (spellings g).filterMap fun (name, o) =>
      if name.toList == cs.take 2 then some (name, ⟨some o, false, false, some (cs.drop 2)⟩)
      else if cs.isPrefixOf name.toList then some (name, ⟨some o, isLongName name.toList, false, none⟩)
      else none

def isNegativeNumber (cs : List Char) : Bool :=
  match (Text.dropFinalNewline cs).map Text.asciiDigit with
  | '-' :: rest =>
    let whole := rest.takeWhile Char.isDigit
    match rest.drop whole.length with
    | [] => !whole.isEmpty
    | '.' :: fraction => !fraction.isEmpty && fraction.all Char.isDigit
    | _ => false
  | _ => false

def mark (g : Grammar) (s : String) : Except Stop Mark :=
  let cs := s.toList
  if cs.head? != some '-' then .ok .plain
  else
    match find? g s with
    | some o => .ok (.option ⟨some o, isLongName cs, false, none⟩)
    | none =>
      let (name, attached) := divide cs
      match attached.bind fun _ => find? g (String.ofList name) with
      | some o => .ok (.option ⟨some o, isLongName cs, true, attached⟩)
      | none =>
        if cs.length = 1 then .ok .plain
        else
          match candidates g cs with
          | [(_, w)] => .ok (.option w)
          | [] =>
            if isNegativeNumber cs || cs.contains ' ' then .ok .plain
            else .ok (.option ⟨none, isLongName cs, false, none⟩)
          | found => .error (.fault g.program (.ambiguous s (found.map Prod.fst)))

def marks (g : Grammar) : List String → Except Stop (List (String × Mark))
  | [] => .ok []
  | s :: rest =>
    if s == "--" then .ok ((s, .divider) :: rest.map (·, .plain))
    else do
      let m ← mark g s
      return (s, m) :: (← marks g rest)

end Marks

structure Reading where
  options : List (String × String) := []
  operand : Option (List String) := none
  unwanted : List String := []

def Reading.has (r : Reading) (name : String) : Bool := r.options.any (·.1 == name)

def Reading.values (r : Reading) (name : String) : List String := (r.options.filter (·.1 == name)).map Prod.snd

def Reading.last? (r : Reading) (name : String) : Option String := (r.values name).getLast?

section Reading

abbrev Marked := List (String × Mark)

def isDivider : String × Mark → Bool
  | (_, .divider) => true
  | _ => false

def takeOperand? (operand : Operand) (items : Marked) : Option (List String × Marked) :=
  let behind := items.dropWhile isDivider
  match behind with
  | (s, .plain) :: rest =>
    if operand.takesRest then some (items.map Prod.fst, []) else some ([s], rest.dropWhile isDivider)
  | _ => none

def checkChoice (g : Grammar) (taken : List String) : Except Stop Unit :=
  let value := taken.headD ""
  if g.operand.choices.isEmpty || g.operand.choices.contains value then .ok ()
  else .error (.fault g.program (.invalidChoice g.operand.name value g.operand.choices))

def giveOperand (g : Grammar) (r : Reading) (items : Marked) : Except Stop (Reading × Marked) := do
  if r.operand.isSome then return (r, items)
  match takeOperand? g.operand items with
  | some (taken, rest) =>
    checkChoice g taken
    return ({ r with operand := some taken }, rest)
  | none => return (r, items)

def takeEffect (r : Reading) (o : Switch) : Except Stop Reading :=
  match o.effect with
  | .help => .error .help
  | .version => .error .version
  | _ => .ok { r with options := r.options ++ [(o.name, "")] }

def takeRun (g : Grammar) (r : Reading) (o : Switch) (divided : Bool) : List Char → Except Stop Reading
  | [] => .error (.fault g.program (.unexpectedValue o.label ""))
  | c :: cs =>
    if divided || c == '-' then .error (.fault g.program (.unexpectedValue o.label (String.ofList (c :: cs))))
    else
      match find? g (String.ofList ['-', c]) with
      | none => takeEffect { r with unwanted := r.unwanted ++ [String.ofList ('-' :: c :: cs)] } o
      | some next =>
        match cs with
        | [] => do takeEffect (← takeEffect r o) next
        | '=' :: rest => takeRun g r next true rest
        | cs => takeRun g r next false cs

def takeOption (g : Grammar) (r : Reading) (s : String) (w : Written) (rest : Marked) :
    Except Stop (Reading × Marked) :=
  match w.switch with
  | none => .ok ({ r with unwanted := r.unwanted ++ [s] }, rest)
  | some o =>
    match o.effect, w.attached with
    | .value, some value => .ok ({ r with options := r.options ++ [(o.name, String.ofList value)] }, rest)
    | .value, none =>
      match rest with
      | (value, .plain) :: rest => .ok ({ r with options := r.options ++ [(o.name, value)] }, rest)
      | _ => .error (.fault g.program (.expectedValue o.label))
    | _, none => (takeEffect r o).map (·, rest)
    | _, some value =>
      if w.isLong then .error (.fault g.program (.unexpectedValue o.label (String.ofList value)))
      else (takeRun g r o w.divided value).map (·, rest)

def readMarked (g : Grammar) : Nat → Reading → Marked → Except Stop Reading
  | 0, r, _ => .ok r
  | n + 1, r, items =>
    if items.any fun i => i.2.isOption then
      match items with
      | (s, .option w) :: rest => do
        let (r, rest) ← takeOption g r s w rest
        readMarked g n r rest
      | items => do
        let (served, rest) ← giveOperand g r items
        if rest.length < items.length then readMarked g n served rest
        else
          let skipped := items.takeWhile fun i => !i.2.isOption
          readMarked g n { r with unwanted := r.unwanted ++ skipped.map Prod.fst } (items.drop skipped.length)
    else do
      let (r, rest) ← giveOperand g r items
      return { r with unwanted := r.unwanted ++ rest.map Prod.fst }

def readArguments (g : Grammar) (arguments : List String) : Except Stop Reading := do
  let items ← marks g arguments
  let r ← readMarked g (2 * items.length + 1) {} items
  if r.operand.isNone then throw (.fault g.program (.required g.operand.name))
  return r

end Reading

end Stencil.Command
