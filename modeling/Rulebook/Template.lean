import Rulebook.Value.Access
import Rulebook.Text.Word

/-!
# Message templates

A template is a text with fields in braces; a doubled brace is a brace. A field has a name, which
may look up attributes and items, and may have a conversion and a format, which is a template
itself. Reading a template finds its fields; filling it in looks them up.

* `Template.read`: the pieces of a template, and the fault at which reading stops, if any.
* `Template.fill`: the text of a template with its fields looked up.
* `Template.check`: whether all fields of a template have the one name that messages know.
-/

namespace Rulebook

namespace Template

/-- A field of a template: the characters of its name, its conversion and its format. -/
structure Field where
  name : List Char
  conversion : Option Char
  format : List Char
deriving DecidableEq, Repr

/-- A piece of a template: a character, or a field. -/
inductive Piece where
  | char (c : Char)
  | field (f : Field)
deriving DecidableEq, Repr

/-- What reading a template gives: its pieces, and the fault that ended the reading. -/
structure Reading where
  pieces : List Piece
  fault : Option TemplateFault
deriving DecidableEq, Repr

/-! ## Reading -/

/-- The name of a field, the character that ends it, and the rest. Inside brackets every character
belongs to the name. -/
def readName (inBrackets : Bool) :
    List Char → Except TemplateFault (List Char × Option Char × List Char)
  | [] => .ok ([], none, [])
  | c :: cs =>
    if inBrackets then do
      let (name, stop, rest) ← readName (c != ']') cs
      pure (c :: name, stop, rest)
    else if c == '{' then .error .unexpectedBrace
    else if c == '}' || c == ':' || c == '!' then .ok ([], some c, cs)
    else do
      let (name, stop, rest) ← readName (c == '[') cs
      pure (c :: name, stop, rest)

/-- The format of a field up to the brace that closes the field, with `depth` braces open. -/
def readFormat (depth : Nat) : List Char → Except TemplateFault (List Char × List Char)
  | [] => .error .unmatchedInSpec
  | c :: cs =>
    if c == '}' && depth == 0 then .ok ([], cs)
    else do
      let inner := if c == '{' then depth + 1 else if c == '}' then depth - 1 else depth
      let (format, rest) ← readFormat inner cs
      pure (c :: format, rest)

/-- The conversion of a field and its format, behind an exclamation mark. -/
def readConversion : List Char → Except TemplateFault (Char × List Char × List Char)
  | [] => .error .noConversion
  | [_] => .error .unmatchedInSpec
  | c :: '}' :: rest => .ok (c, [], rest)
  | c :: ':' :: rest => (readFormat 0 rest).map fun (format, rest) => (c, format, rest)
  | _ :: _ :: _ => .error .noConversionEnd

/-- A field behind its opening brace, and the rest. -/
def readField (cs : List Char) : Except TemplateFault (Field × List Char) :=
  match readName false cs with
  | .error e => .error e
  | .ok (name, stop, rest) =>
    match stop with
    | some '}' => .ok (⟨name, none, []⟩, rest)
    | some ':' => (readFormat 0 rest).map fun (format, rest) => (⟨name, none, format⟩, rest)
    | some _ => (readConversion rest).map fun (c, format, rest) => (⟨name, some c, format⟩, rest)
    | none => .error .noClosingBrace

theorem readName_length {b : Bool} {cs name rest : List Char} {stop : Option Char}
    (h : readName b cs = .ok (name, stop, rest)) : rest.length ≤ cs.length := by
  induction cs generalizing b name stop rest with
  | nil => simp only [readName, Except.ok.injEq, Prod.mk.injEq] at h; simp [← h.2.2]
  | cons c cs ih =>
    have step : ∀ {b' name'}, (readName b' cs).bind (fun x => Except.ok (c :: x.1, x.2.1, x.2.2)) =
        .ok (name', stop, rest) → rest.length ≤ (c :: cs).length := by
      intro b' name' h
      cases hr : readName b' cs with
      | error e => rw [hr] at h; cases h
      | ok r =>
        rw [hr] at h
        simp only [Except.bind, Except.ok.injEq, Prod.mk.injEq] at h
        obtain ⟨name', stop', rest'⟩ := r
        rw [← h.2.2]
        exact Nat.le_succ_of_le (ih hr)
    unfold readName at h
    split at h
    · exact step h
    · split at h
      · cases h
      · split at h
        · simp only [Except.ok.injEq, Prod.mk.injEq] at h
          rw [← h.2.2]; exact Nat.le_succ _
        · exact step h

theorem readFormat_length {depth : Nat} {cs format rest : List Char}
    (h : readFormat depth cs = .ok (format, rest)) : rest.length ≤ cs.length := by
  induction cs generalizing depth format rest with
  | nil => simp [readFormat] at h
  | cons c cs ih =>
    unfold readFormat at h
    split at h
    · simp only [Except.ok.injEq, Prod.mk.injEq] at h
      rw [← h.2]; exact Nat.le_succ _
    · cases hr : readFormat
          (if c == '{' then depth + 1 else if c == '}' then depth - 1 else depth) cs with
      | error e => simp only [hr] at h; cases h
      | ok r =>
        obtain ⟨format', rest'⟩ := r
        simp only [hr, bind, Except.bind, pure, Except.pure, Except.ok.injEq, Prod.mk.injEq] at h
        have := ih hr
        rw [h.2] at this
        exact Nat.le_succ_of_le this

theorem readConversion_length {cs format rest : List Char} {c : Char}
    (h : readConversion cs = .ok (c, format, rest)) : rest.length ≤ cs.length := by
  unfold readConversion at h
  split at h
  · cases h
  · cases h
  · simp only [Except.ok.injEq, Prod.mk.injEq] at h
    rw [← h.2.2]; simp only [List.length_cons]; omega
  · rename_i c' r
    cases hr : readFormat 0 r with
    | error e => rw [hr] at h; cases h
    | ok p =>
      obtain ⟨f, rest'⟩ := p
      rw [hr] at h
      simp only [Except.map, Except.ok.injEq, Prod.mk.injEq] at h
      have := readFormat_length hr
      rw [h.2.2] at this
      simp only [List.length_cons]; omega
  · cases h

/-- A field leaves no more than what is read of it. -/
theorem readField_length {cs rest : List Char} {f : Field}
    (h : readField cs = .ok (f, rest)) : rest.length ≤ cs.length := by
  unfold readField at h
  split at h
  · cases h
  · rename_i name stop r hn
    have hle := readName_length hn
    split at h
    · simp only [Except.ok.injEq, Prod.mk.injEq] at h; rw [← h.2]; exact hle
    · cases hr : readFormat 0 r with
      | error e => rw [hr] at h; cases h
      | ok p =>
        obtain ⟨format, rest'⟩ := p
        rw [hr] at h
        simp only [Except.map, Except.ok.injEq, Prod.mk.injEq] at h
        have := readFormat_length hr
        rw [h.2] at this
        omega
    · cases hr : readConversion r with
      | error e => rw [hr] at h; cases h
      | ok p =>
        obtain ⟨c, format, rest'⟩ := p
        rw [hr] at h
        simp only [Except.map, Except.ok.injEq, Prod.mk.injEq] at h
        have := readConversion_length hr
        rw [h.2] at this
        omega
    · cases h

/-- A reading with one more piece in front. -/
def Reading.cons (p : Piece) (r : Reading) : Reading := { r with pieces := p :: r.pieces }

/-- Reads a template from left to right: a brace that is followed by the same brace is a
character, any other opening brace starts a field, and any other closing one is a fault. -/
def read : List Char → Reading
  | [] => ⟨[], none⟩
  | c :: cs =>
    if c == '{' then
      match cs with
      | [] => ⟨[], some (.singleBrace '{')⟩
      | d :: rest =>
        if d == '{' then (read rest).cons (.char '{')
        else
          match _h : readField (d :: rest) with
          | .error e => ⟨[], some e⟩
          | .ok (f, rest) => (read rest).cons (.field f)
    else if c == '}' then
      match cs with
      | '}' :: rest => (read rest).cons (.char '}')
      | _ => ⟨[], some (.singleBrace '}')⟩
    else (read cs).cons (.char c)
termination_by cs => cs.length
decreasing_by
  all_goals simp_wf
  all_goals first
    | omega
    | (have h := readField_length _h
       simp only [List.length_cons] at h
       omega)

/-- The characters of the names of all fields. -/
def names (r : Reading) : List (List Char) :=
  r.pieces.filterMap fun
    | .field f => some f.name
    | .char _ => none

/-! ## Looking fields up -/

/-- How fields without a name are numbered: not yet, by counting, or by the template itself. -/
inductive Numbering where
  | open_
  | automatic (next : Nat)
  | manual
deriving DecidableEq, Repr

/-- The number that decimal digits of any script form, if the text is made of them. -/
def number? (cs : List Char) : Option Nat :=
  if !cs.isEmpty && cs.all decimalDigit.contains then
    some (cs.foldl (fun n c => 10 * n + decimalDigitValue c) 0)
  else none

/-- Numbers above this do not fit. -/
def maxNumber : Nat := 9223372036854775807

/-- A number in a template. -/
def boundedNumber? (cs : List Char) : Except Fault (Option Nat) :=
  match number? cs with
  | some n => if n ≤ maxNumber then .ok (some n) else .error (.template .tooManyDigits)
  | none => .ok none

/-- A step from a value into it. -/
inductive Step where
  | attribute (name : String)
  | key (name : String)
  | index (i : Nat)

/-- The steps that follow the first part of a name, each with the fault it meets. -/
def steps : Nat → List Char → List (Except Fault Step)
  | _, [] => []
  | 0, _ => []
  | fuel + 1, '.' :: cs =>
    let name := cs.takeWhile fun c => c != '.' && c != '['
    let rest := cs.dropWhile fun c => c != '.' && c != '['
    if name.isEmpty then [.error (.template .emptyAttribute)]
    else .ok (.attribute (String.ofList name)) :: steps fuel rest
  | fuel + 1, '[' :: cs =>
    let name := cs.takeWhile (· != ']')
    match cs.dropWhile (· != ']') with
    | [] => [.error (.template .unclosedIndex)]
    | _ :: rest =>
      match boundedNumber? name with
      | .error e => [.error e]
      | .ok found =>
        if name.isEmpty then [.error (.template .emptyAttribute)]
        else
          .ok (match found with | some i => .index i | none => .key (String.ofList name)) ::
            steps fuel rest
  | _ + 1, _ :: _ => [.error (.template .afterIndex)]

/-- Takes a step into a value. -/
def Step.take (v : Value) : Step → Except Fault Value
  | .attribute name => v.getAttribute name
  | .key name => v.item (.str name)
  | .index i => v.item (.int i)

/-- The values that a template is filled with. -/
abbrev Operands := List (String × Value)

/-- Filling in, with the state of the numbering. -/
abbrev Filler := StateT Numbering (Except Fault)

/-- The value of the first part of a name. -/
def firstValue (operands : Operands) (first : List Char) : Filler Value := do
  let index ← boundedNumber? first
  match first.isEmpty, index, ← get with
  | false, none, _ =>
    match operands.lookup (String.ofList first) with
    | some v => pure v
    | none => throw (.template (.missingName (Quoted.encode (String.ofList first))))
  | true, _, .manual => throw (.template (.mixedNumbering false))
  | false, some _, .automatic _ => throw (.template (.mixedNumbering true))
  | true, _, .automatic n => do
    set (Numbering.automatic (n + 1))
    throw (.template (.missingPosition n))
  | true, _, .open_ => do
    set (Numbering.automatic 1)
    throw (.template (.missingPosition 0))
  | false, some i, _ => do
    set Numbering.manual
    throw (.template (.missingPosition i))

/-- The value of a name. -/
def fieldValue (operands : Operands) (name : List Char) : Filler Value := do
  let first := name.takeWhile fun c => c != '.' && c != '['
  let rest := name.dropWhile fun c => c != '.' && c != '['
  let v ← firstValue operands first
  ((steps (rest.length + 1) rest).foldlM (fun v step => step.bind (Step.take v)) v :
    Except Fault Value)

/-! ## Formats -/

/-- The ASCII form of a text that has been shown: other characters by their numbers. -/
def asciiOnly (s : String) : String :=
  String.join (s.toList.map fun c =>
    if c.toNat < 128 then String.singleton c
    else if c.toNat < 0x100 then "\\x" ++ hexDigits 2 c.toNat
    else if c.toNat < 0x10000 then "\\u" ++ hexDigits 4 c.toNat
    else "\\U" ++ hexDigits 8 c.toNat)

/-- A value under a conversion. -/
def convert (v : Value) : Option Char → Except Fault Value
  | none => .ok v
  | some 'r' => v.shown.map .str
  | some 's' => v.text.map .str
  | some 'a' => v.shown.map fun s => .str (asciiOnly s)
  | some c => .error (.template (.badConversion c))

/-- The format of a text. -/
structure TextFormat where
  fill : Char
  align : Char
  sign : Option Char
  noNegativeZero : Bool
  alternate : Bool
  width : Option Nat
  grouping : Option Char
  precision : Option Nat
  type : Char

/-- Whether a character is a sign of alignment. -/
def isAlignment (c : Char) : Bool := c == '<' || c == '>' || c == '=' || c == '^'

/-- Takes a character if it passes a test. -/
def takeIf (test : Char → Bool) : List Char → Option Char × List Char
  | c :: cs => if test c then (some c, cs) else (none, c :: cs)
  | [] => (none, [])

/-- Takes digits as a number; `none` if there are none. -/
def takeNumber (cs : List Char) : Except Fault (Option Nat × List Char) := do
  let n ← boundedNumber? (cs.takeWhile decimalDigit.contains)
  pure (n, cs.dropWhile decimalDigit.contains)

/-- Whether thousands may be grouped in a number of this type. -/
def mayGroup (mark type : Char) : Bool :=
  type ∈ ['d', 'e', 'f', 'g', 'E', 'G', '%', 'F'] ||
    (mark == '_' && type ∈ ['b', 'o', 'x', 'X'])

/-- The mark that groups thousands. -/
def takeGrouping (cs : List Char) : Except Fault (Option Char × List Char) :=
  let (comma, cs) := takeIf (· == ',') cs
  let (under, cs) := takeIf (· == '_') cs
  if comma.isSome && under.isSome then .error (.template .bothGroupings)
  else if under.isSome && cs.head? == some ',' then .error (.template .bothGroupings)
  else .ok (under.or comma, cs)

/-- Reads a format: fill and alignment, sign, flags, width, grouping, precision and type. -/
def readTextFormat (cs : List Char) : Except Fault TextFormat := do
  let (fill, align, rest) := match cs with
    | f :: a :: rest => if isAlignment a then (some f, some a, rest)
      else if isAlignment f then (none, some f, a :: rest) else (none, none, cs)
    | [a] => if isAlignment a then (none, some a, []) else (none, none, cs)
    | [] => (none, none, cs)
  let (sign, rest) := takeIf (fun c => c == ' ' || c == '+' || c == '-') rest
  let (z, rest) := takeIf (· == 'z') rest
  let (hash, rest) := takeIf (· == '#') rest
  let (zero, rest) := if fill.isNone then takeIf (· == '0') rest else (none, rest)
  let (width, rest) ← takeNumber rest
  let (grouping, rest) ← takeGrouping rest
  let (dot, rest) := takeIf (· == '.') rest
  let (precision, rest) ← if dot.isSome then takeNumber rest else pure (none, rest)
  if dot.isSome && precision.isNone then throw (.template .noPrecision)
  match rest with
  | _ :: _ :: _ => throw (.template (.badSpec (String.ofList cs) "str"))
  | _ => pure ()
  let type := rest.head?.getD 's'
  match grouping with
  | some mark => if !mayGroup mark type then throw (.template (.groupingWith mark type))
  | none => pure ()
  pure ⟨(fill.or zero).getD ' ', align.getD '<', sign, z.isSome, hash.isSome, width, grouping,
    precision, type⟩

/-- Fails on what only numbers have. -/
def TextFormat.checkForText (f : TextFormat) : Except Fault Unit :=
  if f.type != 's' then .error (.template (.unknownCode f.type "str"))
  else
    match f.sign with
    | some c => .error (.template (.notForText (if c == ' ' then "Space" else "Sign")))
    | none =>
      if f.noNegativeZero then .error (.template (.notForText "Negative zero coercion (z)"))
      else if f.alternate then .error (.template (.notForText "Alternate form (#)"))
      else if f.align == '=' then .error (.template (.notForText "'=' alignment"))
      else .ok ()

/-- A text cut to the precision, and filled up to the width. -/
def TextFormat.write (f : TextFormat) (s : String) : String :=
  let body := match f.precision with
    | some p => s.toList.take p
    | none => s.toList
  let missing := f.width.getD 0 - body.length
  let left := if f.align == '>' then missing else if f.align == '^' then missing / 2 else 0
  let filling (n : Nat) := List.replicate n f.fill
  String.ofList (filling left ++ body ++ filling (missing - left))

/-- A text under a format. -/
def formatText (s : String) (format : List Char) : Except Fault String := do
  let f ← readTextFormat format
  f.checkForText
  pure (f.write s)

/-- A value under a format; only texts have one that says anything. -/
def formatValue (v : Value) (format : List Char) : Except Fault String :=
  if format.isEmpty then v.text
  else
    match v with
    | .str s => formatText s format
    | v => .error (.template (.unsupported v.className))

/-! ## Filling in -/

/-- Fills in a template. Formats are templates themselves, one level deep. The fault at which
reading stopped is met after the pieces before it. -/
def fillNested (operands : Operands) : Nat → List Char → Filler String
  | 0, _ => throw (.template .nestedTooDeep)
  | depth + 1, cs => do
    let r := read cs
    let texts ← r.pieces.mapM fun
      | .char c => pure (String.singleton c)
      | .field f => do
        let v ← fieldValue operands f.name
        let v ← convert v f.conversion
        let format ← if f.format.contains '{' then
            (fun s => s.toList) <$> fillNested operands depth f.format
          else pure f.format
        (formatValue v format : Except Fault String)
    match r.fault with
    | some e => throw (.template e)
    | none => pure (String.join texts)

/-- The text of a template filled in with operands. -/
def fill (template : String) (operands : Operands) : Except Fault String :=
  ((fillNested operands 2 template.toList).run .open_).map Prod.fst

/-- The name of the field that messages know. -/
def fieldName : String := "field"

/-- The names in increasing order, each once, but the one that messages know. -/
def unknownNames (r : Reading) : List String :=
  let others := (names r).map String.ofList |>.filter (· != fieldName)
  (others.mergeSort (fun a b => decide (a ≤ b))).eraseDups

/-- Checks that a template can be read and that its fields have the one name that messages know.
What the fields are converted to, and their formats, are not looked at. -/
def check (template : String) : Except Fault Unit :=
  let r := read template.toList
  match r.fault with
  | some e => .error (.templateInvalid e template)
  | none =>
    match unknownNames r with
    | [] => .ok ()
    | unknown =>
      .error (.templatePlaceholders
        ("[" ++ ", ".intercalate (unknown.map Quoted.encode) ++ "]") template)

end Template

end Rulebook
