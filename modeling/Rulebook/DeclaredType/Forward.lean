import Rulebook.DeclaredType.Text
import Rulebook.Number.Numeral
import Rulebook.Text.Blank
import Rulebook.Text.Identifier

/-!
# Types given by a text

A text may stand for a declared type or a part of one. It is read as an expression and evaluated;
the known names are those of the language of values alone. A text that is no expression is a
fault; one that cannot be evaluated leaves the type unresolved.

* `DeclaredType.resolve`: a declared type with all texts evaluated and all notes dropped.
-/

namespace Rulebook

/-- Why a declared type has no evaluated form. -/
inductive HintFailure where
  /-- A name in it is unknown, or its parts do not go together. -/
  | unresolved
  | fault (f : Fault)

/-- A token of an expression. -/
inductive ForwardToken where
  | name (s : String)
  | number (n : Nat)
  | text (s : String)
  | op (s : String)
deriving DecidableEq

namespace ForwardToken

/-- Words that cannot be names. -/
def reserved : List String :=
  ["and", "as", "assert", "async", "await", "break", "class", "continue", "def", "del", "elif",
    "else", "except", "finally", "for", "from", "global", "if", "import", "in", "is", "lambda",
    "nonlocal", "not", "or", "pass", "raise", "return", "try", "while", "with", "yield"]

/-- Operators between two operands. -/
def binary : List String :=
  ["|", "+", "-", "*", "/", "//", "%", "**", "&", "^", "<<", ">>", "@", "<", ">", "<=", ">=",
    "==", "!=", "and", "or", "in", "is"]

/-- The longest operator at the start of a text. -/
def takeOp? (cs : List Char) : Option (String × List Char) :=
  let candidates := ["**", "//", "<<", ">>", "<=", ">=", "==", "!=", "|", "+", "-", "*", "/", "%",
    "&", "^", "@", "<", ">", "~", "(", ")", "[", "]", ",", "."]
  (candidates.find? fun s => s.toList.isPrefixOf cs).map fun s => (s, cs.drop s.length)

/-- Whether a character goes on with a name. -/
def isNameChar (c : Char) : Bool := identifierContinue.contains c

/-- The digits of a number, without the marks that may stand in front of each of them. -/
def ungroup : List Char → List Char
  | '_' :: c :: cs => if c == '_' then '_' :: ungroup (c :: cs) else c :: ungroup cs
  | c :: cs => c :: ungroup cs
  | [] => []

/-- The number that a word is, if it is one. With its base in front it may have any length; a decimal
number may not be longer than those that can be written, and only zero starts with a zero. -/
def natOfWord? : List Char → Option Nat
  | '0' :: mark :: cs =>
    match [('x', 16), ('X', 16), ('o', 8), ('O', 8), ('b', 2), ('B', 2)].lookup mark with
    | some base =>
      let digits := ungroup cs
      if digits.isEmpty || digits.any (base ≤ digitValue ·) then none
      else some (natOfBase base digits)
    | none => if (ungroup (mark :: cs)).all (· == '0') then some 0 else none
  | cs =>
    let digits := cs.take 1 ++ ungroup (cs.drop 1)
    if !digits.all isAsciiDigit || digits.length > maxDigits then none
    else some (natOfDigits digits)

/-- The tokens of a text, if it has only known ones. -/
def scan : Nat → List Char → Option (List ForwardToken)
  | _, [] => some []
  | 0, _ => none
  | fuel + 1, c :: cs =>
    if c == ' ' || c == '\t' then scan fuel cs
    else if identifierStart.contains c then
      let word := String.ofList (c :: cs.takeWhile isNameChar)
      let token := if word ∈ ["and", "or", "in", "is", "not"] then op word else name word
      if word ∈ reserved && !(word ∈ ["and", "or", "in", "is", "not"]) then none
      else (scan fuel (cs.dropWhile isNameChar)).map (token :: ·)
    else if isAsciiDigit c then
      (natOfWord? (c :: cs.takeWhile isNameChar)).bind fun n =>
        (scan fuel (cs.dropWhile isNameChar)).map (number n :: ·)
    else if c == '\'' || c == '"' then
      match cs.dropWhile (· != c) with
      | _ :: rest => (scan fuel rest).map (text (String.ofList (cs.takeWhile (· != c))) :: ·)
      | [] => none
    else
      match takeOp? (c :: cs) with
      | some (s, rest) => (scan fuel rest).map (op s :: ·)
      | none => none

end ForwardToken

/-- An expression that may stand for a type. -/
inductive ForwardExpr where
  | name (s : String)
  | number (n : Nat)
  | text (s : String)
  | bar (a b : ForwardExpr)
  | index (a : ForwardExpr) (items : List ForwardExpr)
  | attribute_ (a : ForwardExpr) (name : String)
  /-- Any other expression: its value is no type. -/
  | other

namespace ForwardExpr

open ForwardToken

/-- Two operands with a bar between them. -/
def join : ForwardExpr → ForwardExpr → ForwardExpr
  | .other, _ => .other
  | _, .other => .other
  | a, b => .bar a b

mutual

/-- Reads operands with operators between them. -/
def readExpr : Nat → List ForwardToken → Option (ForwardExpr × List ForwardToken)
  | 0, _ => none
  | fuel + 1, ts => do
    let (a, rest) ← readOperand fuel ts
    readRest fuel a rest

/-- Reads further operators and operands. -/
def readRest : Nat → ForwardExpr → List ForwardToken → Option (ForwardExpr × List ForwardToken)
  | 0, _, _ => none
  | fuel + 1, a, ts =>
    match ts with
    | .op "|" :: rest => do
      let (b, rest) ← readOperand fuel rest
      readRest fuel (join a b) rest
    | .op "not" :: .op "in" :: rest => do
      let (_, rest) ← readOperand fuel rest
      readRest fuel .other rest
    | .op "is" :: .op "not" :: rest => do
      let (_, rest) ← readOperand fuel rest
      readRest fuel .other rest
    | .op s :: rest =>
      if s ∈ binary then do
        let (_, rest) ← readOperand fuel rest
        readRest fuel .other rest
      else some (a, ts)
    | _ => some (a, ts)

/-- Reads an operand with the signs before and the brackets behind it. -/
def readOperand : Nat → List ForwardToken → Option (ForwardExpr × List ForwardToken)
  | 0, _ => none
  | fuel + 1, ts =>
    match ts with
    | .op s :: rest =>
      if s ∈ ["-", "+", "~", "not"] then do
        let (_, rest) ← readOperand fuel rest
        some (.other, rest)
      else if s == "(" then do
        let (items, rest) ← readItems fuel ")" rest
        readTrail fuel (match items with | [a] => a | _ => .other) rest
      else if s == "[" then do
        let (_, rest) ← readItems fuel "]" rest
        readTrail fuel .other rest
      else none
    | .name s :: rest => readTrail fuel (.name s) rest
    | .number n :: rest => readTrail fuel (.number n) rest
    | .text s :: rest => readTrail fuel (.text s) rest
    | [] => none

/-- Reads what is in brackets or behind a dot after an operand. -/
def readTrail : Nat → ForwardExpr → List ForwardToken → Option (ForwardExpr × List ForwardToken)
  | 0, _, _ => none
  | fuel + 1, a, ts =>
    match ts with
    | .op "." :: .name s :: rest => readTrail fuel (.attribute_ a s) rest
    | .op "[" :: rest => do
      let (items, rest) ← readItems fuel "]" rest
      if items.isEmpty then none else readTrail fuel (.index a items) rest
    | .op "(" :: rest => do
      let (_, rest) ← readItems fuel ")" rest
      readTrail fuel .other rest
    | .op "." :: _ => none
    | _ => some (a, ts)

/-- Reads expressions with commas between them, up to a closing bracket. -/
def readItems : Nat → String → List ForwardToken → Option (List ForwardExpr × List ForwardToken)
  | 0, _, _ => none
  | fuel + 1, close, ts =>
    match ts with
    | .op s :: rest =>
      if s == close then some ([], rest)
      else do
        let (a, rest) ← readExpr fuel ts
        readMore fuel close a rest
    | _ => do
      let (a, rest) ← readExpr fuel ts
      readMore fuel close a rest

/-- Reads on behind an expression: a closing bracket, or a comma and more. -/
def readMore : Nat → String → ForwardExpr → List ForwardToken →
    Option (List ForwardExpr × List ForwardToken)
  | 0, _, _, _ => none
  | fuel + 1, close, a, ts =>
    match ts with
    | .op s :: rest =>
      if s == close then some ([a], rest)
      else if s == "," then do
        let (items, rest) ← readItems fuel close rest
        some (a :: items, rest)
      else none
    | _ => none

end

/-- The expression that a text is, if it is one. -/
def ofText? (s : String) : Option ForwardExpr := do
  let cs := s.toList
  if (cs.head?.map isBlank).getD true then none
  let tokens ← scan (cs.length + 1) cs
  match readExpr (8 * tokens.length + 8) tokens with
  | some (e, []) => some e
  | _ => none

/-- The classes that are known by their names alone. -/
def knownClasses : List ClassInfo :=
  [ClassInfo.ofInt, ClassInfo.ofStr, ClassInfo.ofFloat, ClassInfo.ofBool, ClassInfo.ofComplex,
    ClassInfo.ofBytes, ClassInfo.ofObject, ClassInfo.ofList, ClassInfo.ofDict, ClassInfo.ofTuple,
    ClassInfo.ofSet, ClassInfo.ofClass]

/-- The classes that take the types of their contents in brackets. -/
def isContainer (c : ClassInfo) : Bool :=
  c.id ∈ [ClassInfo.ofList.id, ClassInfo.ofDict.id, ClassInfo.ofTuple.id, ClassInfo.ofSet.id,
    ClassInfo.ofClass.id]

/-- Whether a bar may stand between two values. -/
def mayJoin : DeclaredType → DeclaredType → Bool
  | .nothing, .nothing => false
  | .quoted _, _ => false
  | _, .quoted _ => false
  | .constant _, _ => false
  | _, .constant _ => false
  | _, _ => true

mutual

/-- The type that an expression stands for. -/
def eval : ForwardExpr → Except HintFailure DeclaredType
  | .name s =>
    if s == "None" then .ok .nothing
    else if s == "True" then .ok (.constant (.bool true))
    else if s == "False" then .ok (.constant (.bool false))
    else
      match knownClasses.find? (·.name == s) with
      | some c => .ok (.class c)
      | none => .error .unresolved
  | .number n => .ok (.constant (.int n))
  | .text s => .ok (.quoted s)
  | .bar a b => do
    let x ← eval a
    let y ← eval b
    if mayJoin x y then pure (DeclaredType.bar x y) else .error .unresolved
  | .index a items => do
    let x ← eval a
    let args ← evalAll items
    match x with
    | .class c => if isContainer c then pure (.generic c args) else .error .unresolved
    | _ => .error .unresolved
  | .attribute_ a attr => do
    let x ← eval a
    match x with
    | .class c => .error (.fault (.noClassAttribute c.name attr))
    | .nothing => .error (.fault (.noAttribute "NoneType" attr))
    | .constant (.bool _) => .error (.fault (.noAttribute "bool" attr))
    | .constant (.int _) => .error (.fault (.noAttribute "int" attr))
    | .quoted _ => .error (.fault (.noAttribute "str" attr))
    | _ => .error .unresolved
  | .other => .error .unresolved

/-- The types that expressions stand for. -/
def evalAll : List ForwardExpr → Except HintFailure (List DeclaredType)
  | [] => .ok []
  | e :: es => do
    let a ← eval e
    let as ← evalAll es
    pure (a :: as)

end

end ForwardExpr

namespace DeclaredType

/-- The type that a text stands for. -/
def ofText (s : String) : Except HintFailure DeclaredType :=
  match ForwardExpr.ofText? s with
  | some e => e.eval.map toPart
  | none => .error (.fault (.forwardNotExpression (Quoted.encode s)))

/-- Whether a type is that of a variable of the class itself, which no union may have. -/
def isClassVariable : DeclaredType → Bool
  | .classVariable _ => true
  | _ => false

mutual

/-- A declared type with its texts evaluated as given and its notes dropped. -/
def resolveBy (evaluate : String → Except HintFailure DeclaredType) :
    DeclaredType → Except HintFailure DeclaredType
  | .union style members => do
    let members ← resolveAllBy evaluate members
    if members.any isClassVariable then .error .unresolved
    match style with
    | .named => pure (namedUnion members)
    | .bar => pure (barUnion members)
  | .noted body _ => resolveBy evaluate body
  | .generic origin args => do
    let args ← resolveAllBy evaluate args
    pure (.generic origin args)
  | .classVariable body => do
    let body ← resolveBy evaluate body
    pure (.classVariable body)
  | .quoted s => evaluate s
  | .forward s => evaluate s
  | a => .ok a

/-- A list of declared types with their texts evaluated as given and their notes dropped. -/
def resolveAllBy (evaluate : String → Except HintFailure DeclaredType) :
    List DeclaredType → Except HintFailure (List DeclaredType)
  | [] => .ok []
  | a :: as => do
    let a ← resolveBy evaluate a
    let as ← resolveAllBy evaluate as
    pure (a :: as)

end

/-- The type that a text stands for, with the texts in it evaluated in turn. -/
def evaluate : Nat → String → Except HintFailure DeclaredType
  | 0, _ => .error .unresolved
  | fuel + 1, s => do
    let a ← ofText s
    resolveBy (evaluate fuel) a

/-- No text holds texts nested deeper than this. -/
def maxNesting : Nat := 1000

/-- What a text stands for where no names are known but those of the language of values. -/
def plainReading : String → Except HintFailure DeclaredType := evaluate maxNesting

/-- A declared type with its texts evaluated as given and its notes dropped; nothing stands for the
class of nothing. -/
def resolve (reading : String → Except HintFailure DeclaredType) (a : DeclaredType) :
    Except HintFailure DeclaredType :=
  resolveBy reading a.toPart

end DeclaredType

end Rulebook
