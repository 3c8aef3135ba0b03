import Rulebook.Pattern

/-!
# Matching

A pattern is matched by trying its choices in order and going back where the rest does not match.
A part is run on a place in the text together with what has to match afterwards. Repetitions are
bounded by the length of the text, since after the required ones every further one has to move on.

* `Node.run`: runs a part and then the rest.
* `search`, `fullMatch`: whether a pattern occurs somewhere, or matches the whole text.
-/

namespace Rulebook

namespace Pattern

/-- A place in a text, with the characters before it in reverse, and the texts of the groups that
have matched so far. -/
structure Place where
  before : List Char
  rest : List Char
  position : Nat
  groups : List (Nat × List Char)

/-- What has to match afterwards. -/
abbrev Next := Place → Option Place

namespace Place

/-- The start of a text. -/
def start (cs : List Char) : Place := ⟨[], cs, 0, []⟩

/-- The place one character on, if there is one that the test accepts. -/
def step (p : Place) (test : Char → Bool) : Option Place :=
  match p.rest with
  | c :: rest =>
    if test c then some { p with before := c :: p.before, rest, position := p.position + 1 }
    else none
  | [] => none

/-- The place after the given characters, if they come next. -/
def stepOver (p : Place) (same : Char → Char → Bool) : List Char → Option Place
  | [] => some p
  | c :: cs =>
    match p.step (same c) with
    | some q => q.stepOver same cs
    | none => none

/-- The place the given number of characters back, if there are so many. -/
def back (p : Place) : Nat → Option Place
  | 0 => some p
  | n + 1 =>
    match p.before with
    | c :: before => back { p with before, rest := c :: p.rest, position := p.position - 1 } n
    | [] => none

/-- Whether the place satisfies an anchor. -/
def satisfies (p : Place) : Anchor → Bool
  | .start => p.before.isEmpty
  | .lineStart => p.before.isEmpty || p.before.head? == some '\n'
  | .end_ => p.rest.isEmpty || p.rest == ['\n']
  | .lineEnd => p.rest.isEmpty || p.rest.head? == some '\n'
  | .finalEnd => p.rest.isEmpty
  | .wordEdge narrow => edge narrow
  | .noWordEdge narrow => !(p.before.isEmpty && p.rest.isEmpty) && !edge narrow
where
  edge (narrow : Bool) : Bool :=
    let isWord (c : Option Char) := (c.map (Category.word.contains narrow)).getD false
    isWord p.before.head? != isWord p.rest.head?

end Place

/-- Runs a part up to a number of rounds. Beyond the least number, a round is tried only where the
one before has moved on; it is tried first if greedy, and the rest is tried first if lazy. -/
def loop (greedy : Bool) (body : Place → Next → Option Place) (next : Next) :
    Nat → Nat → Option Nat → Option Nat → Place → Option Place
  | 0, _, _, _, p => next p
  | rounds + 1, least, most, last, p =>
    let again (_ : Unit) : Option Place :=
      body p (loop greedy body next rounds (least - 1) (most.map (· - 1)) (some p.position))
    if 0 < least then again ()
    else if most == some 0 || last == some p.position then next p
    else if greedy then
      match again () with
      | some q => some q
      | none => next p
    else
      match next p with
      | some q => some q
      | none => again ()

mutual

/-- Runs a part at a place and then what follows. -/
def Node.run : Node → Place → Next → Option Place
  | .char r c, p, next => (p.step (r.same c)).bind next
  | .any all, p, next => (p.step fun c => all || c != '\n').bind next
  | .set r negated items, p, next =>
    (p.step fun c => items.any (SetItem.accepts r c) != negated).bind next
  | .anchor a, p, next => if p.satisfies a then next p else none
  | .seq parts, p, next => runAll parts p next
  | .alt branches, p, next => runAny branches p next
  | .group index body, p, next =>
    body.run p fun q =>
      let text := (q.before.take (q.position - p.position)).reverse
      next { q with groups := (index, text) :: q.groups }
  | .repeat_ .possessive least most body, p, next =>
    (loop true body.run some (least + p.rest.length + 1) least most none p).bind next
  | .repeat_ greed least most body, p, next =>
    loop (greed == .greedy) body.run next (least + p.rest.length + 1) least most none p
  | .backref r index, p, next =>
    match p.groups.lookup index with
    | some text => (p.stepOver (fun c d => r.normalize c == r.normalize d) text).bind next
    | none => none
  | .ahead negated body, p, next =>
    match body.run p some with
    | some q => if negated then none else next { p with groups := q.groups }
    | none => if negated then next p else none
  | .behind negated width body, p, next =>
    match (p.back width).bind fun q => body.run q some with
    | some q => if negated then none else next { p with groups := q.groups }
    | none => if negated then next p else none
  | .atomic body, p, next => (body.run p some).bind next
  | .choice index yes no, p, next =>
    if (p.groups.lookup index).isSome then yes.run p next else no.run p next

/-- Runs parts one after the other. -/
def runAll : List Node → Place → Next → Option Place
  | [], p, next => next p
  | n :: ns, p, next => n.run p fun q => runAll ns q next

/-- Runs the first of several parts with which the rest matches. -/
def runAny : List Node → Place → Next → Option Place
  | [], _, _ => none
  | n :: ns, p, next =>
    match n.run p next with
    | some q => some q
    | none => runAny ns p next

end

/-- Whether a pattern matches at some place from the given one on. -/
def searchFrom (n : Node) (before : List Char) : List Char → Nat → Bool
  | [], i => (n.run ⟨before, [], i, []⟩ some).isSome
  | c :: rest, i =>
    (n.run ⟨before, c :: rest, i, []⟩ some).isSome || searchFrom n (c :: before) rest (i + 1)

/-- Whether a pattern occurs somewhere in a text. -/
def search (n : Node) (s : String) : Bool := searchFrom n [] s.toList 0

/-- Whether a pattern matches a whole text. -/
def fullMatch (n : Node) (cs : List Char) : Bool :=
  (n.run (.start cs) fun p => if p.rest.isEmpty then some p else none).isSome

end Pattern

end Rulebook
