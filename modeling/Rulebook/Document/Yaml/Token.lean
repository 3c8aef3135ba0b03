import Rulebook.Document.Yaml.Scalar
import Rulebook.Text.Utf8

/-!
# Tokens of a document

A document is read as a list of tokens. Blocks of lines are opened and closed by their
indentation; a key is often known only when its colon comes, so keys that are possible are kept
for every level of brackets, and the tokens in front of them are put in later.

* `Tokens.ofText`: the tokens of a document, up to the place where it cannot be read further.
-/

namespace Rulebook

namespace Yaml

/-- What is said in front of a document. -/
inductive Directive where
  | version (major : Nat)
  /-- What a handle of tags stands for. -/
  | tag (handle start : String)
  | other
deriving DecidableEq, Repr

/-- A token. -/
inductive Token where
  | directive (d : Directive)
  | documentStart
  | documentEnd
  | blockSequenceStart
  | blockMappingStart
  | blockEnd
  | flowSequenceStart
  | flowSequenceEnd
  | flowMappingStart
  | flowMappingEnd
  | key
  | value
  | blockEntry
  | flowEntry
  | alias (name : String)
  | anchor (name : String)
  | tag (handle : Option String) (suffix : String)
  | scalar (text : String) (isPlain : Bool)
  | streamEnd
deriving DecidableEq, Repr

/-! ## Names and tags -/

/-- Whether a character may be in a name. -/
def isNameChar (c : Char) : Bool :=
  isAsciiDigit c || ('A' ≤ c && c ≤ 'Z') || ('a' ≤ c && c ≤ 'z') || c == '-' || c == '_'

/-- Whether a character may be in a tag. -/
def isTagChar (c : Char) : Bool := isNameChar c || ";/?:@&=+$,_.!~*'()[]%".toList.contains c

/-- The name of an anchor or an alias, behind its mark. -/
def anchorName (c : Cursor) : Attempt (String × Cursor) :=
  let (name, c) := c.takeWhile isNameChar
  if name.isEmpty then .error .malformed
  else if c.gapAt 0 || c.isAt "?:,]\x7d%@`".toList then .ok (String.ofList name, c)
  else .error .malformed

/-- The bytes of a sequence of escapes. -/
def escapedBytes : Nat → List UInt8 → Cursor → Attempt (List UInt8 × Cursor)
  | 0, made, c => .ok (made, c)
  | fuel + 1, made, c =>
    if c.isAt ['%'] then
      let digits := (c.rest.drop 1).take 2
      if digits.length == 2 && digits.all isHex then
        escapedBytes fuel (made ++ [UInt8.ofNat (natOfBase 16 digits)]) (c.advance 3)
      else .error .malformed
    else .ok (made, c)

/-- The characters of a tag, with escapes read as bytes. -/
def tagText : Nat → List Char → Cursor → Attempt (String × Cursor)
  | 0, made, c => .ok (String.ofList made, c)
  | fuel + 1, made, c =>
    if c.isAt ['%'] then do
      let (bytes, c) ← escapedBytes (c.rest.length + 1) [] c
      match Utf8.decode 0 bytes with
      | (cs, none) => tagText fuel (made ++ cs) c
      | (_, some _) => .error .malformed
    else if c.peek.any isTagChar then
      let (cs, c) := c.takeWhile fun ch => isTagChar ch && ch != '%'
      tagText fuel (made ++ cs) c
    else .ok (String.ofList made, c)

/-- The characters of a tag, of which there is at least one. -/
def tagUri (c : Cursor) : Attempt (String × Cursor) :=
  if c.peek.any isTagChar then tagText (c.rest.length + 1) [] c else .error .malformed

/-- The handle of a tag: a mark, or a name between two marks. -/
def tagHandle (c : Cursor) : Attempt (String × Cursor) :=
  if !c.isAt ['!'] then .error .malformed
  else
    let c := c.next
    if c.isAt [' '] then .ok ("!", c)
    else
      let (name, c) := c.takeWhile isNameChar
      if c.isAt ['!'] then .ok (String.ofList ('!' :: name ++ ['!']), c.next)
      else .error .malformed

/-- Whether a mark comes before the end of a tag; the cursor stands behind its first mark. -/
def hasHandle (c : Cursor) : Bool :=
  (c.rest.takeWhile fun ch => !(ch == ' ' || isBreak ch)).contains '!'

/-- A tag: in full between angles, alone, or with a handle. -/
def tagToken (c : Cursor) : Attempt (Token × Cursor) := do
  let (token, c) ←
    if c.peekAt 1 == some '<' then do
      let (suffix, c) ← tagUri (c.advance 2)
      if c.isAt ['>'] then pure (Token.tag none suffix, c.next) else throw .malformed
    else if c.gapAt 1 then pure (Token.tag none "!", c.next)
    else if hasHandle c.next then do
      let (handle, c) ← tagHandle c
      let (suffix, c) ← tagUri c
      pure (Token.tag (some handle) suffix, c)
    else do
      let (suffix, c) ← tagUri c.next
      pure (Token.tag (some "!") suffix, c)
  if c.atGap then pure (token, c) else throw .malformed

/-! ## Directives -/

/-- A number of a version. -/
def versionNumber (c : Cursor) : Attempt (Nat × Cursor) :=
  let (digits, c) := c.takeWhile isAsciiDigit
  if digits.isEmpty then .error .malformed else .ok (natOfDigits digits, c)

/-- The version that a directive names. -/
def versionValue (c : Cursor) : Attempt (Directive × Cursor) := do
  let (major, c) ← versionNumber c.skipSpaces
  if !c.isAt ['.'] then throw .malformed
  let (_, c) ← versionNumber c.next
  if c.atGap then pure (.version major, c) else throw .malformed

/-- The handle that a directive names and what it stands for. -/
def tagValue (c : Cursor) : Attempt (Directive × Cursor) := do
  let (handle, c) ← tagHandle c.skipSpaces
  if !c.isAt [' '] then throw .malformed
  let (start, c) ← tagUri c.skipSpaces
  if c.atGap then pure (.tag handle start, c) else throw .malformed

/-- A directive; the cursor stands in front of its mark. -/
def directiveToken (c : Cursor) : Attempt (Token × Cursor) := do
  let (name, c) := c.next.takeWhile isNameChar
  if name.isEmpty || !c.atGap then throw .malformed
  let (d, c) ←
    if name == "YAML".toList then versionValue c
    else if name == "TAG".toList then tagValue c
    else pure (Directive.other, c.skipWhile (!isBreak ·))
  let c ← ignoredLine c
  pure (.directive d, c)

/-! ## Scanning -/

/-- A key that is possible: where its first token stands, and whether it has to be one. -/
structure PossibleKey where
  token : Nat
  required : Bool
  index : Nat
  line : Nat
  column : Nat

/-- How far a document has been read. Indentations are counted from one, so that zero stands for
what is outside of all blocks. -/
structure Scanner where
  cursor : Cursor
  tokens : Array Token
  /-- How many brackets are open. -/
  flow : Nat
  indent : Nat
  outer : List Nat
  allowsKey : Bool
  /-- The possible keys by the number of open brackets. -/
  keys : List (Nat × PossibleKey)

namespace Scanner

/-- The start of a document. -/
def start (cs : List Char) : Scanner := ⟨.start cs, #[], 0, 0, [], true, []⟩

/-- Whether brackets are open. -/
def inFlow (s : Scanner) : Bool := s.flow != 0

/-- The scanner with a token added. -/
def push (s : Scanner) (t : Token) : Scanner := { s with tokens := s.tokens.push t }

/-- Takes characters up to the next token. A new line allows a key unless brackets are open. -/
def skipGap : Nat → Scanner → Scanner
  | 0, s => s
  | fuel + 1, s =>
    let c := s.cursor.skipSpaces
    let c := if c.isAt ['#'] then c.skipWhile (!isBreak ·) else c
    match c.lineBreak with
    | ([], _) => { s with cursor := c }
    | (_, c) =>
      skipGap fuel { s with cursor := c, allowsKey := s.allowsKey || !s.inFlow }

/-- Whether a key cannot be one any more: it has to end in its line and within 1024 characters. -/
def isStale (c : Cursor) (k : PossibleKey) : Bool :=
  k.line != c.line || c.index - k.index > 1024

/-- Gives up keys that cannot be ones any more. -/
def dropStale (s : Scanner) : Attempt Scanner :=
  if s.keys.any fun (_, k) => k.required && isStale s.cursor k then .error .malformed
  else .ok { s with keys := s.keys.filter fun (_, k) => !isStale s.cursor k }

/-- Gives up the possible key at this level. -/
def dropKey (s : Scanner) : Attempt Scanner :=
  if (s.keys.lookup s.flow).any (·.required) then .error .malformed
  else .ok { s with keys := s.keys.filter fun (level, _) => level != s.flow }

/-- Remembers that the next token may start a key. -/
def saveKey (s : Scanner) : Attempt Scanner :=
  if s.allowsKey then do
    let c := s.cursor
    let required := !s.inFlow && s.indent == c.column + 1
    let t ← s.dropKey
    pure { t with keys := (s.flow, ⟨s.tokens.size, required, c.index, c.line, c.column⟩) :: t.keys }
  else .ok s

/-- Closes the blocks that are indented further than a column, counted from one. -/
def unwind (column : Nat) (s : Scanner) : Scanner :=
  if s.inFlow then s else go s.outer s
where
  go : List Nat → Scanner → Scanner
    | [], s => s
    | o :: outer, s =>
      if column < s.indent then go outer { s.push .blockEnd with indent := o, outer := outer }
      else s

/-- Opens a block at a column, counted from one, if it is indented further. -/
def openBlock (column : Nat) (s : Scanner) : Bool × Scanner :=
  if s.indent < column then (true, { s with indent := column, outer := s.indent :: s.outer })
  else (false, s)

/-- Opens a block at the cursor, unless brackets are open. A key has to be allowed there. -/
def openHere (start : Token) (s : Scanner) : Attempt Scanner :=
  if s.inFlow then .ok s
  else if !s.allowsKey then .error .malformed
  else
    match openBlock (s.cursor.column + 1) s with
    | (true, s) => .ok (s.push start)
    | (false, s) => .ok s

/-- Takes `n` characters as a token. -/
def take (n : Nat) (t : Token) (s : Scanner) : Scanner :=
  { s with cursor := s.cursor.advance n, tokens := s.tokens.push t }

/-! ### Tokens of one kind -/

/-- Closes everything and takes a token that belongs to no block. -/
def outside (s : Scanner) : Attempt Scanner := do
  let s ← (unwind 0 s).dropKey
  pure { s with allowsKey := false }

/-- An opening bracket. -/
def openFlow (t : Token) (s : Scanner) : Attempt Scanner := do
  let s ← s.saveKey
  pure (take 1 t { s with flow := s.flow + 1, allowsKey := true })

/-- A closing bracket; one has to be open. -/
def closeFlow (t : Token) (s : Scanner) : Attempt Scanner := do
  let s ← s.dropKey
  match s.flow with
  | 0 => throw .malformed
  | n + 1 => pure (take 1 t { s with flow := n, allowsKey := false })

/-- A comma. -/
def flowEntry (s : Scanner) : Attempt Scanner := do
  let s ← dropKey { s with allowsKey := true }
  pure (take 1 .flowEntry s)

/-- The mark of an item. -/
def blockEntry (s : Scanner) : Attempt Scanner := do
  let s ← openHere .blockSequenceStart s
  let s ← dropKey { s with allowsKey := true }
  pure (take 1 .blockEntry s)

/-- The mark of a key. -/
def keyMark (s : Scanner) : Attempt Scanner := do
  let s ← openHere .blockMappingStart s
  let s ← dropKey { s with allowsKey := !s.inFlow }
  pure (take 1 .key s)

/-- The colon behind a key. A possible key becomes one, which may open a block of entries. -/
def valueMark (s : Scanner) : Attempt Scanner :=
  match s.keys.lookup s.flow with
  | some k =>
    let s := { s with
      keys := s.keys.filter fun (level, _) => level != s.flow
      tokens := s.tokens.insertIdxIfInBounds k.token .key
      allowsKey := false }
    if s.inFlow then .ok (take 1 .value s)
    else
      match openBlock (k.column + 1) s with
      | (true, s) =>
        let tokens := s.tokens.insertIdxIfInBounds k.token .blockMappingStart
        .ok (take 1 .value { s with tokens := tokens })
      | (false, s) => .ok (take 1 .value s)
  | none => do
    let s ← openHere .blockMappingStart s
    let s ← dropKey { s with allowsKey := !s.inFlow }
    pure (take 1 .value s)

/-- A token that may start a key, read by a function. -/
def keyable (read : Cursor → Attempt (Token × Cursor)) (s : Scanner) : Attempt Scanner := do
  let s ← s.saveKey
  let (t, c) ← read s.cursor
  pure { s with cursor := c, tokens := s.tokens.push t, allowsKey := false }

/-- A block of lines. -/
def blockScalar (joined : Bool) (s : Scanner) : Attempt Scanner := do
  let s ← dropKey { s with allowsKey := true }
  let (text, c) ← Scalar.block joined (max 1 s.indent) s.cursor
  pure { s with cursor := c, tokens := s.tokens.push (.scalar text false) }

/-- A plain scalar. A line end behind it allows a key. -/
def plainScalar (s : Scanner) : Attempt Scanner := do
  let s ← s.saveKey
  let (text, broken, c) := Scalar.plain s.inFlow s.indent s.cursor
  pure { s with cursor := c, tokens := s.tokens.push (.scalar text true), allowsKey := broken }

/-! ### The next token -/

/-- Whether a plain scalar may start at a cursor. -/
def startsPlain (inFlow : Bool) (c : Cursor) (ch : Char) : Bool :=
  !(ch == ' ' || ch == '\t' || isBreak ch ||
      "-?:,[]\x7b\x7d#&*!|>'\"%@`".toList.contains ch) ||
    (!c.gapAt 1 && (ch == '-' || (!inFlow && (ch == '?' || ch == ':'))))

/-- Reads the next token, given the character it starts with. -/
def dispatch (s : Scanner) (ch : Char) : Attempt Scanner :=
  let c := s.cursor
  let mark := s.inFlow || c.gapAt 1
  if ch == '%' && c.column == 0 then do
    let s ← s.outside
    let (t, c) ← directiveToken s.cursor
    pure { s with cursor := c, tokens := s.tokens.push t }
  else if c.column == 0 && c.atMark '-' then s.outside.map (take 3 .documentStart)
  else if c.column == 0 && c.atMark '.' then s.outside.map (take 3 .documentEnd)
  else if ch == '[' then s.openFlow .flowSequenceStart
  else if ch == '\x7b' then s.openFlow .flowMappingStart
  else if ch == ']' then s.closeFlow .flowSequenceEnd
  else if ch == '\x7d' then s.closeFlow .flowMappingEnd
  else if ch == ',' then s.flowEntry
  else if ch == '-' && c.gapAt 1 then s.blockEntry
  else if ch == '?' && mark then s.keyMark
  else if ch == ':' && mark then s.valueMark
  else if ch == '*' then s.keyable fun c => do
    let (name, c) ← anchorName c.next
    pure (.alias name, c)
  else if ch == '&' then s.keyable fun c => do
    let (name, c) ← anchorName c.next
    pure (.anchor name, c)
  else if ch == '!' then s.keyable tagToken
  else if ch == '|' && !s.inFlow then s.blockScalar false
  else if ch == '>' && !s.inFlow then s.blockScalar true
  else if ch == '\'' || ch == '"' then s.keyable fun c => do
    let (text, c) ← Scalar.quoted (ch == '"') c
    pure (.scalar text false, c)
  else if startsPlain s.inFlow c ch then s.plainScalar
  else .error .malformed

/-- Reads the next token, and tells whether it is the last one. -/
def fetch (s : Scanner) : Attempt (Bool × Scanner) := do
  let s ← (skipGap (s.cursor.rest.length + 1) s).dropStale
  let s := unwind (s.cursor.column + 1) s
  match s.cursor.peek with
  | none => do
    let s ← s.outside
    pure (true, s.push .streamEnd)
  | some ch => do
    let s ← s.dispatch ch
    pure (false, s)

end Scanner

/-- The tokens of a document, and why they end early if they do. -/
structure Tokens where
  tokens : List Token
  fault : Option DocumentFault

namespace Tokens

/-- Reads tokens to the end or as far as it goes. -/
def scan : Nat → Scanner → Tokens
  | 0, s => ⟨s.tokens.toList, some .malformed⟩
  | fuel + 1, s =>
    match s.fetch with
    | .error e => ⟨s.tokens.toList, some e⟩
    | .ok (true, s) => ⟨s.tokens.toList, none⟩
    | .ok (false, s) => scan fuel s

/-- The tokens of a document. A mark of the byte order at its start is passed over. -/
def ofText (cs : List Char) : Tokens :=
  let s := Scanner.start cs
  let s := if s.cursor.isAt [byteOrderMark] then { s with cursor := s.cursor.next } else s
  scan (cs.length + 2) s

end Tokens

end Yaml

end Rulebook
