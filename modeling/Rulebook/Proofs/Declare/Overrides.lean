import Rulebook.Proofs.Declare.Declaring

/-!
# Messages that are replaced

A chain is called over and over, and other things happen in between. What the calls that do not
fail did to the chain decides the message of every check: it is the last one that was given after
this check and before the next one, and the check's own message if none was. Rules that read no
chain have their messages once and for all.

* `Chain.Turn`: a call, or something else that happens. `Chain.effects`: what the calls did.
* `Chain.Effect.Says`: what a call that does not fail does, with its message.
* `Chain.given`: the messages that are given for a check before the next one.
* `Chain.messages_of_turns`: the messages that the checks of a chain have in the end.
-/

namespace Rulebook

variable {ω : Type}

namespace Chain

open Rulebook.Action

/-! ## Turns -/

/-- Something that happens while a chain is declared. -/
inductive Turn (ω : Type) where
  | call (method : String) (args : List Value)
  /-- Anything else, such as other settings. -/
  | other (change : Store ω → Store ω)

/-- What leaves a chain alone, and at most adds rules to validators. -/
structure LeavesAlone (c : Nat) (change : Store ω → Store ω) : Prop where
  chain : ∀ s, (change s).chains[c]? = s.chains[c]?
  rules : ∀ s w, s.rulesOf w <+: (change s).rulesOf w

/-- A turn with a chain. -/
def Turn.run (c : Nat) : Turn ω → Store ω → Store ω
  | .call method args, s => ((Chain.call c method args).exec s).2
  | .other change, s => change s

/-- What a turn does to a chain; a call that fails does nothing. -/
def Turn.effect (c : Nat) (s : Store ω) : Turn ω → Option Effect
  | .call method args =>
    match ((Chain.call c method args).exec s).1 with
    | .error _ => none
    | .ok _ => do
      let chain ← s.chains[c]?
      let d ← (Declaration.ofCall method args).toOption
      (plan s chain d).toOption
  | .other _ => none

/-- The store after turns in order. -/
def playTurns (c : Nat) (turns : List (Turn ω)) (s : Store ω) : Store ω :=
  turns.foldl (fun s turn => turn.run c s) s

/-- What turns do to a chain, in order. -/
def effects (c : Nat) : List (Turn ω) → Store ω → List Effect
  | [], _ => []
  | turn :: turns, s => (turn.effect c s).toList ++ effects c turns (turn.run c s)

theorem playTurns_append (c : Nat) (before after : List (Turn ω)) (s : Store ω) :
    playTurns c (before ++ after) s = playTurns c after (playTurns c before s) :=
  List.foldl_append

theorem effects_append (c : Nat) (before after : List (Turn ω)) (s : Store ω) :
    effects c (before ++ after) s =
      effects c before s ++ effects c after (playTurns c before s) := by
  induction before generalizing s with
  | nil => rfl
  | cons turn before ih =>
    rw [List.cons_append, effects, effects, ih, List.append_assoc]
    rfl

variable {c : Nat} {s t : Store ω} {chain : Chain}

theorem Turn.effect_ok {method : String} {args : List Value} {d : Declaration} {e : Effect}
    (hcall : (Chain.call c method args).exec s = (.ok (), t)) (hc : s.chains[c]? = some chain)
    (hd : Declaration.ofCall method args = .ok d) (he : plan s chain d = .ok e) :
    (Turn.call method args).effect c s = some e := by
  simp [Turn.effect, hcall, hc, hd, he, Except.toOption]

theorem Turn.effect_error {method : String} {args : List Value} {f : Fault}
    (hcall : (Chain.call c method args).exec s = (.error f, t)) :
    (Turn.call method args).effect c s = none := by
  simp only [Turn.effect, hcall]

/-- The effect of a turn is what becomes of the chain. -/
theorem Turn.chain_run (turn : Turn ω) (hc : s.chains[c]? = some chain)
    (hother : ∀ change, turn = .other change → LeavesAlone c change) :
    (turn.run c s).chains[c]? = some ((turn.effect c s).toList.foldl Effect.after chain) := by
  cases turn with
  | other change => exact ((hother change rfl).chain s).trans hc
  | call method args =>
    rcases hcall : (Chain.call c method args).exec s with ⟨r, t⟩
    cases r with
    | ok =>
      obtain ⟨chain', d, e, hc', hd, he, rfl⟩ := call_ok hcall
      obtain rfl := Option.some.inj (hc.symm.trans hc')
      obtain ⟨drained, hplanned⟩ := planned_eq s d
      have hafter : (e.apply c chain { s with drained }).chains[c]? = some (e.after chain) :=
        (chains_apply (by exact hc) e c).trans (if_pos rfl)
      rw [Turn.run, Turn.effect_ok hcall hc hd he, hcall, hplanned]
      exact hafter
    | error f =>
      rw [Turn.run, Turn.effect_error hcall, hcall]
      -- A rule that is left is one of its own, and no chain is changed.
      rcases call_leftBehind hc hcall with ⟨drained, rfl⟩ | ⟨added, text, -, rfl⟩ <;> exact hc

/-- The effects of turns are what becomes of the chain. -/
theorem chain_playTurns {turns : List (Turn ω)} (hc : s.chains[c]? = some chain)
    (hothers : ∀ change, .other change ∈ turns → LeavesAlone c change) :
    (playTurns c turns s).chains[c]? = some ((effects c turns s).foldl Effect.after chain) := by
  induction turns generalizing s chain with
  | nil => exact hc
  | cons turn turns ih =>
    have hturn := turn.chain_run hc fun change h => hothers change (h ▸ List.mem_cons_self)
    rw [effects, List.foldl_append]
    exact ih hturn fun change h => hothers change (List.mem_cons_of_mem _ h)

/-- A turn only adds rules behind those of a validator. -/
theorem Turn.rulesOf_run (turn : Turn ω)
    (hother : ∀ change, turn = .other change → LeavesAlone c change) (s : Store ω) (w : Nat) :
    s.rulesOf w <+: (turn.run c s).rulesOf w := by
  cases turn with
  | other change => exact (hother change rfl).rules s w
  | call method args =>
    have hcall : s.rulesOf w <+:
        (((History.Event.call c method args).run w 0).exec s).2.rulesOf w :=
      History.rulesOf_run s _
    rw [History.Event.run, Nat.zero_add] at hcall
    exact hcall

/-- Turns only add rules behind those of a validator. -/
theorem rulesOf_playTurns {turns : List (Turn ω)}
    (hothers : ∀ change, .other change ∈ turns → LeavesAlone c change) (s : Store ω) (w : Nat) :
    s.rulesOf w <+: (playTurns c turns s).rulesOf w := by
  induction turns generalizing s with
  | nil => exact List.prefix_rfl
  | cons turn turns ih =>
    have hturn := turn.rulesOf_run (fun change h => hothers change (h ▸ List.mem_cons_self)) s w
    exact hturn.trans (ih (fun change h => hothers change (List.mem_cons_of_mem _ h)) _)

/-- Calls of another chain leave a chain alone. -/
theorem leavesAlone_call {other : Nat} (h : other ≠ c) (method : String) (args : List Value) :
    LeavesAlone c fun s : Store ω => ((call other method args).exec s).2 := by
  refine ⟨fun s => ?_, (Turn.call method args).rulesOf_run fun _ h => nomatch h⟩
  rcases hcall : (call other method args).exec s with ⟨r, t⟩
  rcases call_cases hcall with ⟨chain, d, e, hchain, -, -, -, rfl⟩ | ⟨f, drained, -, rfl⟩
  · obtain ⟨drained, hplanned⟩ := planned_eq s d
    rw [hplanned]
    exact (chains_apply (by exact hchain) e c).trans (if_neg (Ne.symm h))
  · rfl

/-- Other settings leave every chain alone. -/
theorem leavesAlone_settings (f : List Settings → List Settings) :
    LeavesAlone c fun s : Store ω => { s with settings := f s.settings } :=
  ⟨fun _ => rfl, fun _ _ => List.prefix_rfl⟩

/-! ## The messages of a chain -/

namespace Effect

/-- Whether a check is put into the chain. -/
def isCheck : Effect → Bool
  | .check _ _ => true
  | _ => false

/-- The message that is given. -/
def message? : Effect → Option Value
  | .message text => some text
  | _ => none

end Effect

/-- The messages that are given before the next check. -/
def given (es : List Effect) : List Value :=
  (es.takeWhile (!·.isCheck)).filterMap Effect.message?

theorem replaceLast_concat (front : List Entry) (e : Entry) (message : Value) :
    replaceLast (front ++ [e]) message = front ++ [{ e with message }] := by
  induction front with
  | nil => rfl
  | cons e' front ih =>
    cases front with
    | nil => rfl
    | cons e'' front => exact congrArg (e' :: ·) ih

theorem length_after (chain : Chain) (e : Effect) :
    (e.after chain).entries.length = chain.entries.length + e.checks.length := by
  simpa using congrArg List.length (checks_after chain e)

/-- As many checks are in a chain as were put into it. -/
theorem length_foldl_after (chain : Chain) (es : List Effect) :
    (es.foldl Effect.after chain).entries.length =
      chain.entries.length + es.countP Effect.isCheck := by
  induction es generalizing chain with
  | nil => rfl
  | cons e es ih =>
    rw [List.foldl_cons, ih, length_after, List.countP_cons]
    cases e with
    | check added text =>
      simp only [Effect.checks, Effect.isCheck, List.length_singleton, if_true]
      omega
    | _ => rfl

theorem length_entries (h : chain.entries = []) (es : List Effect) :
    (es.foldl Effect.after chain).entries.length = es.countP Effect.isCheck := by
  rw [length_foldl_after, h, List.length_nil, Nat.zero_add]

/-- An effect changes no check but the last one. -/
theorem getElem?_after {i : Nat} (hi : i + 1 < chain.entries.length) (e : Effect) :
    (e.after chain).entries[i]? = chain.entries[i]? := by
  cases e with
  | check added text =>
    exact List.getElem?_append_left (by omega)
  | message text =>
    obtain hnil | ⟨front, last, hconcat⟩ := List.eq_nil_or_concat chain.entries
    · rw [hnil] at hi
      cases hi
    · rw [List.concat_eq_append] at hconcat
      have hfront : i < front.length := by simpa [hconcat] using hi
      rw [Effect.after, hconcat, replaceLast_concat, List.getElem?_append_left hfront,
        List.getElem?_append_left hfront]
  | _ => rfl

/-- A check that is not the last one keeps its message. -/
theorem getElem?_foldl_after {i : Nat} (es : List Effect) (hi : i + 1 < chain.entries.length) :
    (es.foldl Effect.after chain).entries[i]? = chain.entries[i]? := by
  induction es generalizing chain with
  | nil => rfl
  | cons e es ih =>
    have hlength := length_after chain e
    rw [List.foldl_cons, ih (by omega), getElem?_after hi e]

/-- The last check of a chain has the last message that is given before the next check. -/
theorem getElem?_foldl_given {front : List Entry} {added : Check} {own : Value}
    (es : List Effect) (h : chain.entries = front ++ [⟨added, own⟩]) :
    (es.foldl Effect.after chain).entries[front.length]? =
      some ⟨added, (given es).getLast?.getD own⟩ := by
  induction es generalizing chain own with
  | nil =>
    rw [List.foldl_nil, h, List.getElem?_concat_length]
    rfl
  | cons e es ih =>
    cases e with
    | check next text =>
      have hentries : (Effect.after chain (.check next text)).entries =
          front ++ [⟨added, own⟩] ++ [⟨next, .str text⟩] := congrArg (· ++ _) h
      rw [List.foldl_cons, getElem?_foldl_after es (by simp [hentries]), hentries]
      simp [given, Effect.isCheck]
    | message text =>
      have hentries : (Effect.after chain (.message text)).entries = front ++ [⟨added, text⟩] := by
        rw [Effect.after, h, replaceLast_concat]
      rw [List.foldl_cons, ih hentries]
      simp [given, Effect.isCheck, Effect.message?, List.getLast?_cons]
    | rule added' text => exact ih h
    | nothing => exact ih h

/-- The message of a check: the last one that is given before the next check, and its own message
if there is none. -/
theorem getElem?_entries (h : chain.entries = []) (earlier : List Effect) (added : Check)
    (text : String) (later : List Effect) :
    ((earlier ++ .check added text :: later).foldl Effect.after chain).entries[
      earlier.countP Effect.isCheck]? = some ⟨added, (given later).getLast?.getD (.str text)⟩ := by
  rw [List.foldl_append, List.foldl_cons, ← length_entries h]
  exact getElem?_foldl_given later rfl

/-! ## What a call says -/

/-- What a call that does not fail does to a chain on a property, after other effects. A check has
its own message. Another message is what is given, or the default message of the settings; it does
nothing before the first check. -/
def Effect.Says (settings : Settings) (p : Property) (before : List Effect) (e : Effect) :
    Declaration → Prop
  | .withMessage given =>
    if before.countP Effect.isCheck = 0 then e = .nothing
    else ∃ text, e = .message text ∧ (given = .none → defaultMessage settings p = .ok text) ∧
      (given ≠ .none → text = given)
  | .mustAsync _ _ | .dependent _ _ _ => ∃ check text, e = .rule check text
  | .check added => ∃ text, e = .check added text ∧ checkMessage p added = .ok text
  | .isIn _ | .must _ => ∃ added text, e = .check added text ∧ checkMessage p added = .ok text

theorem messageOr_ok {settings : Settings} {p : Property} {given text : Value}
    (h : messageOr settings p given = .ok text) :
    (given = .none → defaultMessage settings p = .ok text) ∧ (given ≠ .none → text = given) := by
  cases given with
  | none => exact ⟨fun _ => h, fun hne => absurd rfl hne⟩
  | _ => exact ⟨fun heq => (nomatch heq), fun _ => (Except.ok.inj h).symm⟩

/-- What is planned says so. -/
theorem plan_says {d : Declaration} {e : Effect} {before : List Effect}
    (hbefore : chain.entries.length = before.countP Effect.isCheck) (h : plan s chain d = .ok e) :
    e.Says (s.settingsOf chain.validator) chain.property before d := by
  cases d with
  | check added => exact planCheck_message h
  | isIn values =>
    obtain ⟨_, -, h⟩ := ok_of_bind h
    exact ⟨_, planCheck_message h⟩
  | must f =>
    cases f with
    | none => exact ⟨_, planCheck_message h⟩
    | _ =>
      simp only [plan] at h
      split at h
      · exact ⟨_, planCheck_message h⟩
      · obtain ⟨_, -, h⟩ := ok_of_bind h
        obtain ⟨_, -, h⟩ := ok_of_bind h
        cases h
  | mustAsync f given =>
    obtain ⟨text, htext⟩ := plan_fitsTo h
    exact ⟨_, text, htext⟩
  | dependent other f given =>
    obtain ⟨p, text, -, htext⟩ := plan_fitsTo h
    exact ⟨_, text, htext⟩
  | withMessage given =>
    simp only [plan, List.isEmpty_iff, ← List.length_eq_zero_iff, hbefore] at h
    by_cases hzero : before.countP Effect.isCheck = 0
    · rw [if_pos hzero] at h
      simp only [Effect.Says, if_pos hzero]
      exact (Except.ok.inj h).symm
    · rw [if_neg hzero] at h
      simp only [Effect.Says, if_neg hzero]
      cases hm : messageOr (s.settingsOf chain.validator) chain.property given with
      | error f => rw [hm] at h; cases h
      | ok text => rw [hm] at h; exact ⟨text, (Except.ok.inj h).symm, messageOr_ok hm⟩

/-- A chain has its validator and its property throughout. -/
theorem foldl_after_eq (chain : Chain) (es : List Effect) :
    (es.foldl Effect.after chain).validator = chain.validator ∧
      (es.foldl Effect.after chain).property = chain.property := by
  induction es generalizing chain with
  | nil => exact ⟨rfl, rfl⟩
  | cons e es ih =>
    rw [List.foldl_cons, (ih _).1, (ih _).2]
    exact ⟨e.validator_after chain, e.property_after chain⟩

/-- Another message changes no validator, and nothing at all on a chain without checks. -/
theorem withMessage_exec {method : String} {args : List Value} {message : Value}
    {r : Except Fault Unit} (hd : Declaration.ofCall method args = .ok (.withMessage message))
    (hc : s.chains[c]? = some chain) (hcall : (call c method args).exec s = (r, t)) :
    t.validators = s.validators ∧ (chain.entries = [] → r = .ok () ∧ t = s) := by
  rw [call_exec, hd] at hcall
  simp only [declare_exec, hc, plan, planned] at hcall
  by_cases hempty : chain.entries.isEmpty
  · rw [if_pos hempty] at hcall
    obtain ⟨rfl, rfl⟩ := Prod.mk.inj hcall
    exact ⟨rfl, fun _ => ⟨rfl, rfl⟩⟩
  · rw [if_neg hempty] at hcall
    refine ⟨?_, fun h => absurd (List.isEmpty_iff.mpr h) hempty⟩
    cases hm : messageOr (s.settingsOf chain.validator) chain.property message with
    | error f => rw [hm] at hcall; obtain ⟨-, rfl⟩ := Prod.mk.inj hcall; rfl
    | ok text => rw [hm] at hcall; obtain ⟨-, rfl⟩ := Prod.mk.inj hcall; rfl

/-- What turns do to a chain, around a call. -/
theorem effects_call {before after : List (Turn ω)} {method : String} {args : List Value}
    {r : Except Fault Unit} (hcall : (call c method args).exec (playTurns c before s) = (r, t)) :
    effects c (before ++ .call method args :: after) s = effects c before s ++
      (((Turn.call method args).effect c (playTurns c before s)).toList ++ effects c after t) := by
  rw [effects_append, effects, Turn.run, hcall]

/-- What a call after other turns does, if it does not fail. -/
theorem call_says {before : List (Turn ω)} {method : String} {args : List Value}
    (hc : s.chains[c]? = some chain) (hstart : chain.entries = [])
    (hothers : ∀ change, .other change ∈ before → LeavesAlone c change)
    (hcall : (call c method args).exec (playTurns c before s) = (.ok (), t)) :
    ∃ d e, Declaration.ofCall method args = .ok d ∧
      (Turn.call method args).effect c (playTurns c before s) = some e ∧
      e.Says ((playTurns c before s).settingsOf chain.validator) chain.property
        (effects c before s) d := by
  have hbefore := chain_playTurns hc hothers
  obtain ⟨chain', d, e, hc', hd, he, -⟩ := call_ok hcall
  obtain rfl := Option.some.inj (hbefore.symm.trans hc')
  obtain ⟨hvalidator, hproperty⟩ := foldl_after_eq chain (effects c before s)
  have hsays := plan_says (length_entries hstart _) he
  rw [hvalidator, hproperty] at hsays
  exact ⟨d, e, hd, Turn.effect_ok hcall hc' hd he, hsays⟩

/-- The checks of a chain after any turns. Each has the last message that was given after it and
before the next check, and its own message if there was none. A call that fails has given nothing;
one that does not says what it has done, and its message. A message that is given before the first
check changes nothing at all; none ever changes a rule of a validator, and rules keep their places
whatever comes. -/
theorem messages_of_turns {turns : List (Turn ω)} (hc : s.chains[c]? = some chain)
    (hstart : chain.entries = [])
    (hothers : ∀ change, .other change ∈ turns → LeavesAlone c change) :
    ((playTurns c turns s).entriesOf c).length = (effects c turns s).countP Effect.isCheck ∧
    (∀ earlier added text later, effects c turns s = earlier ++ .check added text :: later →
      ((playTurns c turns s).entriesOf c)[earlier.countP Effect.isCheck]? =
        some ⟨added, (given later).getLast?.getD (.str text)⟩) ∧
    (∀ before method args after r t, turns = before ++ .call method args :: after →
      (call c method args).exec (playTurns c before s) = (r, t) →
      (∀ f, r = .error f → effects c turns s = effects c before s ++ effects c after t ∧
        chain.LeftBehind f (playTurns c before s) t) ∧
      (r = .ok () → ∃ d e, Declaration.ofCall method args = .ok d ∧
        effects c turns s = effects c before s ++ e :: effects c after t ∧
        e.Says ((playTurns c before s).settingsOf chain.validator) chain.property
          (effects c before s) d) ∧
      ∀ message, Declaration.ofCall method args = .ok (.withMessage message) →
        t.validators = (playTurns c before s).validators ∧
        ((effects c before s).countP Effect.isCheck = 0 →
          r = .ok () ∧ t = playTurns c before s)) ∧
    ∀ before after, turns = before ++ after → ∀ w,
      (playTurns c before s).rulesOf w <+: (playTurns c turns s).rulesOf w := by
  have hchain := chain_playTurns hc hothers
  have hentries : (playTurns c turns s).entriesOf c =
      ((effects c turns s).foldl Effect.after chain).entries := by
    rw [Store.entriesOf, hchain]
  refine ⟨?_, ?_, ?_, ?_⟩
  · rw [hentries, length_entries hstart]
  · intro earlier added text later hsplit
    rw [hentries, hsplit]
    exact getElem?_entries hstart earlier added text later
  · rintro before method args after r t rfl hcall
    have hothers' : ∀ change, .other change ∈ before → LeavesAlone c change :=
      fun change h => hothers change (List.mem_append_left _ h)
    refine ⟨?_, ?_, fun message hmessage => ?_⟩
    · rintro f rfl
      rw [effects_call hcall, Turn.effect_error hcall]
      obtain ⟨hvalidator, hproperty⟩ := foldl_after_eq chain (effects c before s)
      have hleft := call_leftBehind (chain_playTurns hc hothers') hcall
      rw [LeftBehind, hvalidator, hproperty] at hleft
      exact ⟨rfl, hleft⟩
    · rintro rfl
      obtain ⟨d, e, hd, heffect, hsays⟩ := call_says hc hstart hothers' hcall
      rw [effects_call hcall, heffect]
      exact ⟨d, e, hd, rfl, hsays⟩
    · obtain ⟨hvalidators, hnothing⟩ :=
        withMessage_exec hmessage (chain_playTurns hc hothers') hcall
      refine ⟨hvalidators, fun hzero => hnothing ?_⟩
      rw [← List.length_eq_zero_iff, length_entries hstart, hzero]
  · rintro before after rfl w
    rw [playTurns_append]
    exact rulesOf_playTurns (fun change h => hothers change (List.mem_append_right _ h)) _ w

/-! ## A small history -/

/-- A validator with two chains that have no checks. -/
def twoChains : Store Unit :=
  { History.fresh with
    chains := [start 0 ⟨.str "name", .call History.reader, .any⟩,
      start 0 ⟨.str "age", .call History.reader, .any⟩] }

/-- The settings get another default message while the first chain is declared, and the other
chain is called; one call fails. -/
def sampleTurns : List (Turn Unit) := [
  .call "with_message" [.str "early"],
  .call "not_null" [],
  .call "must_async" [History.waiter, .str "late"],
  .call "with_message" [.str "given"],
  .call "positive" [.none],
  .other fun s => ((call 1 "with_message" [.none]).exec s).2,
  .call "not_empty" [],
  .call "with_message" [.str "replaced"],
  .other fun s => { s with settings := s.settings.map fun settings =>
    { settings with defaultMessage := .str "Bad \x7bfield\x7d." } },
  .call "with_message" [.none]]

set_option maxRecDepth 4000 in
theorem messages_of_sample :
    ((playTurns 0 sampleTurns twoChains).entriesOf 0)[0]? = some ⟨.notNull, .str "given"⟩ ∧
    ((playTurns 0 sampleTurns twoChains).entriesOf 0)[1]? =
      some ⟨.notEmpty, .str "Bad name."⟩ := by
  have hothers : ∀ change, .other change ∈ sampleTurns → LeavesAlone 0 change := by
    intro change h
    simp only [sampleTurns, List.mem_cons, Turn.other.injEq, reduceCtorEq, false_or,
      List.not_mem_nil, or_false] at h
    rcases h with rfl | rfl
    · exact leavesAlone_call (by decide) _ _
    · exact leavesAlone_settings _
  have heffects : effects 0 sampleTurns twoChains =
      [.nothing, .check .notNull "The name field cannot be null.",
        .rule (.own History.waiter) (.str "late"), .message (.str "given"),
        .check .notEmpty "The name field cannot be empty.", .message (.str "replaced"),
        .message (.str "Bad name.")] := by
    cbv
  obtain ⟨-, hentry, -⟩ := messages_of_turns (s := twoChains) rfl rfl hothers
  exact ⟨hentry [_] _ _ _ heffects, hentry [_, _, _, _] _ _ _ heffects⟩

end Chain

end Rulebook
