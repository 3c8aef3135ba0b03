import Rulebook.DeclaredType.Text

/-!
# The text of values

Every value has two texts: the one it is shown by, in which text stands between quotes and
numbers other than the plainest name their kind, and its own text, which for a text is itself.
Integers beyond 4300 digits have neither.

* `Value.text_str`: the text of a text is itself.
-/

namespace Rulebook

/-- An offset as a duration: whole days of either sign, and seconds and microseconds of the day. -/
def durationText (offset : Int) : String :=
  let days := offset.fdiv microsPerDay
  let rest := offset.fmod microsPerDay
  let seconds := rest / 1000000
  let micros := rest % 1000000
  let parts := (if days = 0 then [] else ["days=" ++ toString days]) ++
    (if seconds = 0 then [] else ["seconds=" ++ toString seconds]) ++
    (if micros = 0 then [] else ["microseconds=" ++ toString micros])
  "datetime.timedelta(" ++ (if parts.isEmpty then "0" else ", ".intercalate parts) ++ ")"

/-- How a zone is shown. -/
def zoneText (offset : Int) : String :=
  if offset = 0 then "datetime.timezone.utc"
  else "datetime.timezone(" ++ durationText offset ++ ")"

/-- How a time is shown: its numbers, without zeros for seconds and below at their end. -/
def DateTime.shown (t : DateTime) : String :=
  let (y, m, d) := t.date.ymd
  let n := t.timeOfDay
  let s := n / 1000000
  let micros := n % 1000000
  let numbers := [y, m, d, s / 3600, s / 60 % 60] ++
    (if s % 60 = 0 ∧ micros = 0 then [] else [s % 60]) ++ (if micros = 0 then [] else [micros])
  "datetime.datetime(" ++ ", ".intercalate (numbers.map toString) ++
    (match t.offset with | none => "" | some o => ", tzinfo=" ++ zoneText o) ++ ")"

/-- How a date is shown. -/
def Date.shown (d : Date) : String :=
  let (y, m, day) := d.ymd
  "datetime.date(" ++ ", ".intercalate ([y, m, day].map toString) ++ ")"

/-- The text of a complex number. A real part of zero is left out, unless it is a negative zero. -/
def complexText (re im : Binary) : String :=
  if re.isZero && !re.isNegative then im.partText ++ "j"
  else "(" ++ re.partText ++ (if im.isNegative then "" else "+") ++ im.partText ++ "j)"

/-- How a compiled pattern is shown. -/
def patternText (source : String) (flags : PatternFlags) : String :=
  let names := (if flags.ignoreCase then ["re.IGNORECASE"] else []) ++
    (if flags.multiline then ["re.MULTILINE"] else []) ++
    (if flags.dotAll then ["re.DOTALL"] else []) ++
    (if flags.verbose then ["re.VERBOSE"] else []) ++ (if flags.ascii then ["re.ASCII"] else [])
  "re.compile(" ++ String.ofList ((Quoted.encode source).toList.take 200) ++
    (if names.isEmpty then "" else ", " ++ "|".intercalate names) ++ ")"

namespace Value

/-- Integers of a set come in increasing order, before its other elements. -/
def setOrder {α : Type} (items : List (Value × α)) : List α :=
  let number? : Value × α → Option Int
    | (.int n, _) => some n
    | _ => Option.none
  let numbers := items.filter fun p => (number? p).isSome
  let others := items.filter fun p => (number? p).isNone
  (numbers.mergeSort (fun p q => decide ((number? p).getD 0 ≤ (number? q).getD 0)) ++ others).map
    Prod.snd

/-- The text of the fields of a record, in the order of the fields. -/
def fieldTexts (className : String) (attributes : List (String × Except Fault String)) :
    List String → Except Fault (List String)
  | [] => .ok []
  | name :: rest =>
    match attributes.lookup name with
    | Option.none => .error (.noAttribute className name)
    | some shown => do
      let text ← shown
      let texts ← fieldTexts className attributes rest
      pure ((name ++ "=" ++ text) :: texts)

mutual

/-- How a value is shown. -/
def shown : Value → Except Fault String
  | .none => .ok "None"
  | .bool b => .ok (if b then "True" else "False")
  | .int n => intText n
  | .float x => .ok x.text
  | .decimal d => .ok ("Decimal('" ++ d.text ++ "')")
  | .fraction num den => do
    let n ← intText num
    let d ← intText den
    pure ("Fraction(" ++ n ++ ", " ++ d ++ ")")
  | .complex re im => .ok (complexText re im)
  | .str s => .ok (Quoted.encode s)
  | .bytes data => .ok (Quoted.encodeBytes data)
  | .date d => .ok d.shown
  | .datetime t => .ok t.shown
  | .list items => do
    let texts ← shownAll items
    pure ("[" ++ ", ".intercalate texts ++ "]")
  | .tuple items => do
    let texts ← shownAll items
    pure ("(" ++ ", ".intercalate texts ++ (if texts.length = 1 then ",)" else ")"))
  | .set items => do
    let texts ← shownAll items
    pure (if texts.isEmpty then "set()"
      else "\x7b" ++ ", ".intercalate (setOrder (items.zip texts)) ++ "\x7d")
  | .dict entries => do
    let texts ← shownEntries entries
    pure ("\x7b" ++ ", ".intercalate texts ++ "\x7d")
  | .iterator _ _ => .ok "<list_iterator object>"
  | .pattern source flags => .ok (patternText source flags)
  | .blank _ => .ok "<opaque>"
  | .class c _ => .ok c.text
  | .object _ c attributes =>
    match c.fields with
    | some fields => do
      let texts ← fieldTexts c.name (shownAttributes attributes) fields
      pure (c.qualname ++ "(" ++ ", ".intercalate texts ++ ")")
    | Option.none => .ok ("<" ++ c.fullName ++ " object>")
  | .callable f => .ok f.label
  | .method name => .ok ("<bound method " ++ name ++ ">")
  | .pending _ _ => .ok "<coroutine object>"
  | .property name accessor declared => do
    let n ← shown name
    let a ← shown accessor
    let d ← declared.text
    pure ("PropertyRef(name=" ++ n ++ ", accessor=" ++ a ++ ", annotation=" ++ d ++ ")")

/-- How the items of a collection are shown. -/
def shownAll : List Value → Except Fault (List String)
  | [] => .ok []
  | v :: vs => do
    let text ← shown v
    let texts ← shownAll vs
    pure (text :: texts)

/-- How the entries of a mapping are shown. -/
def shownEntries : List (Value × Value) → Except Fault (List String)
  | [] => .ok []
  | (k, v) :: rest => do
    let key ← shown k
    let value ← shown v
    let texts ← shownEntries rest
    pure ((key ++ ": " ++ value) :: texts)

/-- How the attributes of an object are shown, each by itself. -/
def shownAttributes : List (String × Value) → List (String × Except Fault String)
  | [] => []
  | (name, v) :: rest => (name, shown v) :: shownAttributes rest

end

/-- The text of a value. -/
def text : Value → Except Fault String
  | .str s => .ok s
  | .decimal d => .ok d.text
  | .fraction num den => do
    let n ← intText num
    if den = 1 then pure n
    else do
      let d ← intText den
      pure (n ++ "/" ++ d)
  | .date d => .ok d.text
  | .datetime t => .ok (t.text " ")
  | v => shown v

@[simp] theorem text_str (s : String) : (Value.str s).text = .ok s := rfl

end Value

end Rulebook
