import Stencil.Data.Order
import Stencil.Mishap
import Stencil.Number.Read

/-!
# Reading JSON

Each reader takes the rest of the text with its position and gives back what it read and what follows. A failure
names the problem and the position at which it was noticed. Besides the grammar of the format `NaN`, `Infinity`
and `-Infinity` are read as numbers. An escape for half of a surrogate pair that stands alone is read as the
replacement character. Numbers with too many digits and values nested too deep are failures of another kind.
-/

set_option autoImplicit false

namespace Stencil.Json

inductive Problem where
  | value
  | propertyName
  | colon
  | comma
  | extraData
  | unterminated
  | control
  | escape
  | unicodeEscape
  | byteOrderMark
  deriving DecidableEq, Repr

structure Fault where
  problem : Problem
  position : Nat
  deriving DecidableEq, Repr

inductive Failure where
  | malformed (f : Fault)
  | mishap (m : Mishap)
  deriving DecidableEq, Repr

def Problem.message : Problem → String
  | .value => "Expecting value"
  | .propertyName => "Expecting property name enclosed in double quotes"
  | .colon => "Expecting ':' delimiter"
  | .comma => "Expecting ',' delimiter"
  | .extraData => "Extra data"
  | .unterminated => "Unterminated string starting at"
  | .control => "Invalid control character at"
  | .escape => "Invalid \\escape"
  | .unicodeEscape => "Invalid \\uXXXX escape"
  | .byteOrderMark => "Unexpected UTF-8 BOM (decode using utf-8-sig)"

def Fault.message (f : Fault) (text : List Char) : String :=
  let before := text.take f.position
  let line := before.count '\n' + 1
  let column := (before.reverse.takeWhile (· != '\n')).length + 1
  f.problem.message ++ ": line " ++ toString line ++ " column " ++ toString column ++
    " (char " ++ toString f.position ++ ")"

structure Rest where
  chars : List Char
  position : Nat

def isSpace (c : Char) : Bool := c == ' ' || c == '\t' || c == '\n' || c == '\r'

def Rest.drop (r : Rest) (n : Nat) : Rest := ⟨r.chars.drop n, r.position + n⟩

def Rest.skipSpace (r : Rest) : Rest := r.drop (r.chars.takeWhile isSpace).length

def Rest.fail {α : Type} (r : Rest) (p : Problem) : Except Failure α := .error (.malformed ⟨p, r.position⟩)

def plainEscape? : Char → Option Char
  | '"' => some '"'
  | '\\' => some '\\'
  | '/' => some '/'
  | 'b' => some '\x08'
  | 'f' => some '\x0c'
  | 'n' => some '\n'
  | 'r' => some '\r'
  | 't' => some '\t'
  | _ => none

def fourHex? (cs : List Char) : Option Nat :=
  let ds := cs.take 4
  if ds.length == 4 && ds.all (Number.isDigitOf 16) then some (Number.ofDigits 16 ds) else none

def isHighSurrogate (n : Nat) : Bool := 0xD800 ≤ n && n ≤ 0xDBFF

def isLowSurrogate (n : Nat) : Bool := 0xDC00 ≤ n && n ≤ 0xDFFF

def codePoint (n : Nat) : Char :=
  if isHighSurrogate n || isLowSurrogate n then '\ufffd' else Char.ofNat n

def joinPair? (high : Nat) (cs : List Char) : Option (Option Char) :=
  match cs with
  | '\\' :: 'u' :: rest =>
    match fourHex? rest with
    | none => none
    | some low =>
      if isLowSurrogate low then some (some (Char.ofNat (0x10000 + (high - 0xD800) * 0x400 + (low - 0xDC00))))
      else some none
  | _ => some none

def readString (start : Nat) : Nat → Rest → List Char → Except Failure (String × Rest)
  | 0, _, _ => .error (.malformed ⟨.unterminated, start⟩)
  | n + 1, r, read =>
    match r.chars with
    | [] => .error (.malformed ⟨.unterminated, start⟩)
    | '"' :: _ => .ok (String.ofList read.reverse, r.drop 1)
    | '\\' :: rest =>
      match rest with
      | [] => .error (.malformed ⟨.unterminated, start⟩)
      | 'u' :: digits =>
        -- the digits must be followed by something, if only the closing quote
        if digits.length ≤ 4 then (r.drop 1).fail .unicodeEscape
        else match fourHex? digits with
          | none => (r.drop 1).fail .unicodeEscape
          | some code =>
            let after := r.drop 6
            if isHighSurrogate code && 6 < after.chars.length then
              match joinPair? code after.chars with
              | none => (after.drop 1).fail .unicodeEscape
              | some (some c) => readString start n (after.drop 6) (c :: read)
              | some none => readString start n after (codePoint code :: read)
            else readString start n after (codePoint code :: read)
      | e :: _ =>
        match plainEscape? e with
        | some c => readString start n (r.drop 2) (c :: read)
        | none => r.fail .escape
    | c :: _ =>
      if c.toNat ≤ 0x1f then r.fail .control else readString start n (r.drop 1) (c :: read)

def wholeDigits : List Char → List Char
  | '0' :: _ => ['0']
  | cs => cs.takeWhile Char.isDigit

def fractionDigits : List Char → List Char
  | '.' :: cs => cs.takeWhile Char.isDigit
  | _ => []

def takeMinus : List Char → Bool × List Char
  | '-' :: cs => (true, cs)
  | cs => (false, cs)

def readNumber (r : Rest) : Except Failure (Data × Rest) :=
  let (negative, afterSign) := takeMinus r.chars
  let signLength := if negative then 1 else 0
  let whole := wholeDigits afterSign
  if whole.isEmpty then r.fail .value
  else
    let rest := afterSign.drop whole.length
    let fraction := fractionDigits rest
    let fractionLength := if fraction.isEmpty then 0 else fraction.length + 1
    let rest := rest.drop fractionLength
    let length := signLength + whole.length + fractionLength
    match Number.takeExponent? rest with
    | some (e, after) =>
      .ok (.float (Number.decimalFloat negative whole fraction e), r.drop (length + (rest.length - after.length)))
    | none =>
      if fraction.isEmpty then
        if Number.digitLimit < whole.length then .error (.mishap .badValue)
        else
        let n : Int := Number.ofDigits 10 whole
        .ok (.int (if negative then -n else n), r.drop length)
      else .ok (.float (Number.decimalFloat negative whole fraction 0), r.drop length)

def sharedMark : Nat := 1

def deepestRead : Nat := 985

def words : List (String × Data) :=
  [("null", .null), ("true", .bool true), ("false", .bool false), ("NaN", .nan sharedMark),
    ("Infinity", .float Number.infinity), ("-Infinity", .float (-Number.infinity))]

def readWord? (r : Rest) : List (String × Data) → Option (Data × Rest)
  | [] => none
  | (w, d) :: rest => if w.toList.isPrefixOf r.chars then some (d, r.drop w.length) else readWord? r rest

mutual

def readValue : Nat → Nat → Rest → Except Failure (Data × Rest)
  | 0, _, r => r.fail .value
  | n + 1, depth, r =>
    match r.chars with
    | '"' :: _ => do
      let (s, r') ← readString r.position r.chars.length (r.drop 1) []
      return (.text s, r')
    | '\x7b' :: _ =>
      if deepestRead ≤ depth then .error (.mishap .tooDeep)
      else
      let r' := (r.drop 1).skipSpace
      match r'.chars with
      | '\x7d' :: _ => .ok (.map [], r'.drop 1)
      | _ => readEntries n (depth + 1) r' []
    | '[' :: _ =>
      if deepestRead ≤ depth then .error (.mishap .tooDeep)
      else
      let r' := (r.drop 1).skipSpace
      match r'.chars with
      | ']' :: _ => .ok (.list [], r'.drop 1)
      | _ => readItems n (depth + 1) r' []
    | _ =>
      match readWord? r words with
      | some found => .ok found
      | none => readNumber r

def readEntries : Nat → Nat → Rest → List (Data × Data) → Except Failure (Data × Rest)
  | 0, _, r, _ => r.fail .value
  | n + 1, depth, r, entries =>
    match r.chars with
    | '"' :: _ => do
      let (key, afterKey) ← readString r.position r.chars.length (r.drop 1) []
      let atColon := afterKey.skipSpace
      match atColon.chars with
      | ':' :: _ =>
        let (value, afterValue) ← readValue n depth (atColon.drop 1).skipSpace
        let entries := Data.put (.text key) value entries
        let atEnd := afterValue.skipSpace
        match atEnd.chars with
        | '\x7d' :: _ => .ok (.map entries, atEnd.drop 1)
        | ',' :: _ => readEntries n depth (atEnd.drop 1).skipSpace entries
        | _ => atEnd.fail .comma
      | _ => atColon.fail .colon
    | _ => r.fail .propertyName

def readItems : Nat → Nat → Rest → List Data → Except Failure (Data × Rest)
  | 0, _, r, _ => r.fail .value
  | n + 1, depth, r, items => do
    let (value, afterValue) ← readValue n depth r
    let items := value :: items
    let atEnd := afterValue.skipSpace
    match atEnd.chars with
    | ']' :: _ => .ok (.list items.reverse, atEnd.drop 1)
    | ',' :: _ => readItems n depth (atEnd.drop 1).skipSpace items
    | _ => atEnd.fail .comma

end

def read (text : List Char) : Except Failure Data :=
  match text with
  | '\ufeff' :: _ => .error (.malformed ⟨.byteOrderMark, 0⟩)
  | _ => do
    let (value, rest) ← readValue (2 * text.length + 1) 0 (Rest.skipSpace ⟨text, 0⟩)
    let rest := rest.skipSpace
    if rest.chars.isEmpty then .ok value else rest.fail .extraData

end Stencil.Json
