import Rulebook.Declare
import Rulebook.Proofs.Action
import Rulebook.Proofs.Template

/-!
# What a declaration does

A declaration first plans what to do, which can fail but changes nothing except that an iterator
among its operands is used up, and then does it. What it notes in the end can fail as well, but only
for a rule of its own: the message of a check has the name of the property in it already.

* `Chain.Effect`: what a declaration can do. `Chain.Effect.apply` does it.
* `Chain.plan`: what a declaration on a chain is going to do, if anything.
* `Chain.Effect.noted`: whether what was done can be noted.
* `Chain.declare_exec`: a declaration does what is planned and notes it.
* `Chain.call_ok`, `Chain.call_error`: a call has that effect and notes it, or fails: either nothing
  is planned or noting fails.
-/

namespace Rulebook

variable {ω : Type}

/-- Whether the rule is the one of a chain. -/
def Rule.reads (c : Nat) : Rule → Bool
  | .batched _ c' => c' == c
  | .standalone _ _ _ => false

/-! ## Operands that are used up -/

namespace Store

/-- The items that a value gives now. -/
def itemsOf (s : Store ω) : Value → Except Fault (List Value)
  | .iterator id items => .ok (items.drop ((s.drained.lookup id).getD 0))
  | v => v.elements

/-- The store after a value has given its items. -/
def usedUp (s : Store ω) : Value → Store ω
  | .iterator id items => { s with drained := (id, items.length) :: s.drained }
  | _ => s

end Store

theorem Action.elements_exec (v : Value) (s : Store ω) :
    (elements v).exec s = (s.itemsOf v, s.usedUp v) := by
  cases v <;> rfl

namespace Chain

open Rulebook.Action

/-- What a declaration does to its chain, and to the validator. -/
inductive Effect where
  /-- Puts a check with its message behind the others. -/
  | check (check : Check) (message : String)
  /-- Registers a rule of its own. -/
  | rule (check : StandaloneCheck) (message : Value)
  /-- Gives the last check another message. -/
  | message (message : Value)
  | nothing

/-- The chain is marked as one that a rule reads. -/
def register (chain : Chain) : Chain := { chain with registered := true }

/-- The chain with one more check. -/
def extend (chain : Chain) (check : Check) (message : Value) : Chain :=
  { chain with entries := chain.entries ++ [⟨check, message⟩] }

/-- The names in the note of a rule of its own. -/
def namesOf (p : Property) : StandaloneCheck → List Value
  | .own _ => [p.name]
  | .dependent other _ => [p.name, other.name]

namespace Effect

/-- Has an effect on a chain, which is given as it was before. -/
def apply (c : Nat) (chain : Chain) : Effect → Store ω → Store ω
  | .check added text, s =>
    let s := s.modifyChain c fun ch => ch.extend added (.str text)
    if chain.registered then s
    else (s.addRule chain.validator (.batched chain.property c)).modifyChain c register
  | .rule added text, s => s.addRule chain.validator (.standalone chain.property added text)
  | .message text, s =>
    s.modifyChain c fun ch => { ch with entries := replaceLast ch.entries text }
  | .nothing, s => s

/-- What is noted once an effect on a chain has happened. -/
def noted (chain : Chain) : Effect → Except Fault Unit
  | .rule added _ => note (namesOf chain.property added)
  | _ => .ok ()

end Effect

/-- The plan for a check on a property. -/
def planCheck (p : Property) (check : Check) : Except Fault Effect := do
  requireNumeric p check
  let text ← checkMessage p check
  pure (.check check text)

/-- The plan for a check on a property that may have to be waited for. -/
def planAsync (p : Property) (predicate given : Value) : Except Fault Effect := do
  requireCallable p "must_async" predicate
  let text ← givenOr given fun _ => message p asyncTemplate []
  pure (.rule (.own predicate) text)

/-- The plan for a check on a property and another one that a selector stands for. -/
def planOther (p : Property) (model : Option Model) (other predicate given : Value) :
    Except Fault Effect := do
  requireCallable p "dependent_rule_async" predicate
  let otherProperty ← Property.resolve other model
  let text ← givenOr given fun _ =>
    message p dependentTemplate [("dependent", otherProperty.name)]
  pure (.rule (.dependent otherProperty predicate) text)

/-- The plan for a check on a property and another one. -/
def planDependent (p : Property) (model : Option Model) (other predicate given : Value) :
    Except Fault Effect :=
  match other with
  | .none => do
    let name ← p.name.text
    .error (.dependentMissing p.name name)
  | other => planOther p model other predicate given

/-- What a declaration on a chain is going to do. -/
def plan (s : Store ω) (chain : Chain) : Declaration → Except Fault Effect
  | .check check => planCheck chain.property check
  | .isIn values => do
    let allowed ← s.itemsOf values
    planCheck chain.property (.isIn allowed)
  | .must .none => planCheck chain.property .always
  | .must f =>
    if f.isCallable then planCheck chain.property (.must f)
    else do
      let name ← chain.property.name.text
      let shown ← f.shown
      .error (.predicateNotCallable chain.property.name name shown)
  | .mustAsync predicate given => planAsync chain.property predicate given
  | .dependent other predicate given =>
    planDependent chain.property (s.modelOf chain.validator) other predicate given
  | .withMessage given =>
    if chain.entries.isEmpty then pure .nothing
    else (messageOr (s.settingsOf chain.validator) chain.property given).map .message

/-- The store once a declaration has been planned. -/
def planned (s : Store ω) : Declaration → Store ω
  | .isIn values => s.usedUp values
  | _ => s

/-! ## Messages name the property -/

theorem note_one {name : Value} {text : String} (h : name.text = .ok text) : note [name] = .ok () := by
  rw [note, h]
  rfl

/-- A note fails at a name that cannot be written. -/
theorem note_error {names : List Value} {f : Fault} (h : note names = .error f) :
    ∃ name ∈ names, name.text = .error f := by
  induction names with
  | nil => cases h
  | cons name names ih =>
    rw [note] at h
    cases hname : name.text with
    | error e =>
      rw [hname] at h
      obtain rfl := Except.error.inj h
      exact ⟨name, List.mem_cons_self, hname⟩
    | ok text =>
      rw [hname] at h
      obtain ⟨name', hmem, hname'⟩ := ih h
      exact ⟨name', List.mem_cons_of_mem _ hmem, hname'⟩

/-- The message of a check has the name of the property in it. -/
theorem plain_mem_template (c : Check) :
    Template.Field.plain ∈ Template.fields (Template.read c.template.toList) := by
  cases c <;> rw [Check.template] <;> decide +kernel

/-- A check that has a message can be noted. -/
theorem note_of_checkMessage {p : Property} {c : Check} {text : String}
    (h : checkMessage p c = .ok text) : note [p.name] = .ok () := by
  obtain ⟨t, ht⟩ := Template.text_of_fill (plain_mem_template c) h
  exact note_one ht

/-! ## Following a plan -/

/-- Follows a plan, if there is one, and notes what has been done. -/
def follow (c : Nat) (chain : Chain) (p : Except Fault Effect) : Action ω Unit := do
  let e ← p
  modify (e.apply c chain)
  e.noted chain

theorem follow_exec (c : Nat) (chain : Chain) (p : Except Fault Effect) (s : Store ω) :
    (follow c chain p).exec s = match p with
      | .ok e => (e.noted chain, e.apply c chain s)
      | .error f => (.error f, s) := by
  cases p <;> rfl

theorem append_eq {c : Nat} {chain : Chain} {check : Check} {message : String}
    (h : checkMessage chain.property check = .ok message) :
    (append c chain check message : Action ω Unit) =
      modify ((Effect.check check message).apply c chain) := by
  unfold append Effect.apply
  rw [note_of_checkMessage h]
  cases chain.registered <;> rfl

theorem declareCheck_eq (c : Nat) (chain : Chain) (check : Check) :
    (declareCheck c chain check : Action ω Unit) =
      follow c chain (planCheck chain.property check) := by
  unfold declareCheck planCheck follow
  cases requireNumeric chain.property check with
  | error e => rfl
  | ok _ =>
    cases hmessage : checkMessage chain.property check with
    | error e => rfl
    | ok text =>
      show append c chain check text = _
      rw [append_eq hmessage]
      rfl

theorem declareMust_eq (c : Nat) (chain : Chain) (s : Store ω) (predicate : Value) :
    (declareMust c chain predicate : Action ω Unit) =
      follow c chain (plan s chain (.must predicate)) := by
  cases predicate with
  | none => exact declareCheck_eq c chain .always
  | _ =>
    simp only [declareMust, plan, declareCheck_eq]
    split
    · rfl
    · cases chain.property.name.text with
      | error e => rfl
      | ok name => cases Value.shown _ <;> rfl

theorem declareAsync_eq (c : Nat) (chain : Chain) (predicate given : Value) :
    (declareAsync chain predicate given : Action ω Unit) =
      follow c chain (planAsync chain.property predicate given) := by
  unfold declareAsync planAsync follow
  cases requireCallable chain.property "must_async" predicate with
  | error e => rfl
  | ok _ =>
    cases givenOr given fun _ => message chain.property asyncTemplate [] <;> rfl

theorem declareDependent_exec (c : Nat) (chain : Chain) (other predicate given : Value)
    (s : Store ω) :
    (declareDependent chain other predicate given).exec s =
      (follow c chain (planDependent chain.property (s.modelOf chain.validator) other predicate
        given)).exec s := by
  rw [follow_exec]
  unfold declareDependent planDependent
  -- The model is looked at between two steps that can fail, so the store is opened there.
  have rest : ∀ other : Value, (do
      requireCallable chain.property "dependent_rule_async" predicate
      let otherProperty ← Property.resolve other ((← get).modelOf chain.validator)
      let text ← givenOr given fun _ =>
        message chain.property dependentTemplate [("dependent", otherProperty.name)]
      modify fun s => s.addRule chain.validator
        (.standalone chain.property (.dependent otherProperty predicate) text)
      note [chain.property.name, otherProperty.name] : Action ω Unit).exec s =
        match planOther chain.property (s.modelOf chain.validator) other predicate given with
        | .ok e => (e.noted chain, e.apply c chain s)
        | .error f => (.error f, s) := by
    intro other
    unfold planOther
    cases requireCallable chain.property "dependent_rule_async" predicate with
    | error e => rfl
    | ok _ =>
      rw [exec_bind_ok (exec_lift _ _), exec_bind_ok (exec_get s)]
      cases Property.resolve other (s.modelOf chain.validator) with
      | error e => rfl
      | ok p =>
        rw [exec_bind_ok (exec_lift _ _), ok_then, ok_then]
        cases givenOr given fun _ =>
          message chain.property dependentTemplate [("dependent", p.name)] <;> rfl
  cases other with
  | none => cases chain.property.name.text <;> rfl
  | _ => exact rest _

theorem declareMessage_exec (c : Nat) (chain : Chain) (given : Value) (s : Store ω) :
    (declareMessage c chain given).exec s =
      (follow c chain (plan s chain (.withMessage given))).exec s := by
  unfold declareMessage
  rw [follow_exec, plan]
  split
  · rfl
  · rw [exec_bind_ok (exec_get s)]
    dsimp only
    cases messageOr (s.settingsOf chain.validator) chain.property given <;> rfl

theorem find_exec (c : Nat) (s : Store ω) :
    (find c).exec s = match s.chains[c]? with
      | some chain => (.ok chain, s)
      | none => (.error .unbounded, s) := by
  unfold find
  rw [exec_bind_ok (exec_get s)]
  cases s.chains[c]? <;> rfl

/-- A declaration does what is planned, and notes it. -/
theorem declare_exec (c : Nat) (d : Declaration) (s : Store ω) :
    (declare c d).exec s = match s.chains[c]? with
      | none => (.error .unbounded, s)
      | some chain => match plan s chain d with
        | .ok e => (e.noted chain, e.apply c chain (planned s d))
        | .error f => (.error f, planned s d) := by
  have hfind := find_exec c s
  unfold declare
  cases hc : s.chains[c]? with
  | none =>
    rw [hc] at hfind
    exact exec_bind_error hfind
  | some chain =>
    rw [hc] at hfind
    rw [exec_bind_ok hfind]
    cases d with
    | check added =>
      show (declareCheck c chain added).exec s = _
      rw [declareCheck_eq, follow_exec]
      rfl
    | isIn values =>
      have hitems := Action.elements_exec values s
      simp only [plan, planned]
      cases hi : s.itemsOf values with
      | error e =>
        rw [hi] at hitems
        exact exec_bind_error hitems
      | ok allowed =>
        rw [hi] at hitems
        rw [exec_bind_ok hitems, declareCheck_eq, follow_exec]
        rfl
    | must predicate =>
      show (declareMust c chain predicate).exec s = _
      rw [declareMust_eq c chain s, follow_exec]
      rfl
    | mustAsync predicate given =>
      show (declareAsync chain predicate given).exec s = _
      rw [declareAsync_eq c, follow_exec]
      rfl
    | dependent other predicate given =>
      show (declareDependent chain other predicate given).exec s = _
      rw [declareDependent_exec c, follow_exec]
      rfl
    | withMessage given =>
      show (declareMessage c chain given).exec s = _
      rw [declareMessage_exec, follow_exec]
      rfl

/-- A call does what is planned for the declaration that it makes. -/
theorem call_exec (c : Nat) (method : String) (args : List Value) (s : Store ω) :
    (call c method args).exec s = match Declaration.ofCall method args with
      | .error f => (.error f, s)
      | .ok d => (declare c d).exec s := by
  unfold call
  cases Declaration.ofCall method args <;> rfl

/-- Planning at most uses up an iterator. -/
theorem planned_eq (s : Store ω) (d : Declaration) :
    ∃ drained, planned s d = { s with drained := drained } := by
  cases d with
  | isIn values => cases values <;> exact ⟨_, rfl⟩
  | _ => exact ⟨_, rfl⟩

/-- What comes of a call on a chain that is there. -/
theorem call_outcome {c : Nat} {method : String} {args : List Value} {s t : Store ω}
    {r : Except Fault Unit} (h : (call c method args).exec s = (r, t)) :
    (∃ f, r = .error f ∧ t = s) ∨ ∃ chain d, s.chains[c]? = some chain ∧
      Declaration.ofCall method args = .ok d ∧
        ((∃ f, plan s chain d = .error f ∧ r = .error f ∧ t = planned s d) ∨
          ∃ e, plan s chain d = .ok e ∧ r = e.noted chain ∧
            t = e.apply c chain (planned s d)) := by
  rw [call_exec] at h
  cases hd : Declaration.ofCall method args with
  | error f =>
    rw [hd] at h
    obtain ⟨rfl, rfl⟩ := Prod.mk.inj h
    exact .inl ⟨f, rfl, rfl⟩
  | ok d =>
    simp only [hd, declare_exec] at h
    cases hc : s.chains[c]? with
    | none =>
      rw [hc] at h
      obtain ⟨rfl, rfl⟩ := Prod.mk.inj h
      exact .inl ⟨_, rfl, rfl⟩
    | some chain =>
      simp only [hc] at h
      refine .inr ⟨chain, d, rfl, rfl, ?_⟩
      cases he : plan s chain d with
      | error f =>
        rw [he] at h
        obtain ⟨rfl, rfl⟩ := Prod.mk.inj h
        exact .inl ⟨f, rfl, rfl, rfl⟩
      | ok e =>
        rw [he] at h
        obtain ⟨rfl, rfl⟩ := Prod.mk.inj h
        exact .inr ⟨e, rfl, rfl, rfl⟩

/-- A call that does not fail has the effect that is planned for its declaration. -/
theorem call_ok {c : Nat} {method : String} {args : List Value} {s t : Store ω}
    (h : (call c method args).exec s = (.ok (), t)) :
    ∃ chain d e, s.chains[c]? = some chain ∧ Declaration.ofCall method args = .ok d ∧
      plan s chain d = .ok e ∧ t = e.apply c chain (planned s d) := by
  rcases call_outcome h with ⟨f, hf, -⟩ | ⟨chain, d, hc, hd, ⟨f, -, hf, -⟩ | ⟨e, he, -, ht⟩⟩
  · cases hf
  · cases hf
  · exact ⟨chain, d, e, hc, hd, he, ht⟩

/-- An effect that cannot be noted has registered a rule of its own. -/
theorem noted_error {chain : Chain} {e : Effect} {f : Fault} (h : e.noted chain = .error f) :
    ∃ added text, e = .rule added text ∧ ∃ name ∈ namesOf chain.property added,
      name.text = .error f := by
  cases e with
  | rule added text => exact ⟨added, text, rfl, note_error h⟩
  | _ => cases h

/-- What registers a rule of its own uses nothing up. -/
theorem planned_rule {s : Store ω} {chain : Chain} {d : Declaration} {added : StandaloneCheck}
    {text : Value} (h : plan s chain d = .ok (.rule added text)) : planned s d = s := by
  cases d with
  | isIn values =>
    obtain ⟨allowed, -, h⟩ := ok_of_bind h
    obtain ⟨_, -, h⟩ := ok_of_bind h
    obtain ⟨_, -, h⟩ := ok_of_bind h
    cases h
  | _ => rfl

/-- What a call that fails for this fault leaves: nothing has happened but that operands have been
used up, or a rule of its own has been registered whose note has a name that cannot be written. -/
def LeftBehind (chain : Chain) (f : Fault) (s t : Store ω) : Prop :=
  (∃ drained, t = { s with drained := drained }) ∨ ∃ added text,
    (∃ name ∈ namesOf chain.property added, name.text = .error f) ∧
      t = s.addRule chain.validator (.standalone chain.property added text)

/-- A call that fails stops before anything is planned, or where the plan fails, or it has registered
a rule of its own whose note has a name that cannot be written. -/
theorem call_error {c : Nat} {method : String} {args : List Value} {s t : Store ω} {f : Fault}
    (h : (call c method args).exec s = (.error f, t)) :
    t = s ∨ ∃ chain d, s.chains[c]? = some chain ∧ Declaration.ofCall method args = .ok d ∧
      (plan s chain d = .error f ∧ t = planned s d ∨
        ∃ added text, plan s chain d = .ok (.rule added text) ∧
          (∃ name ∈ namesOf chain.property added, name.text = .error f) ∧
          t = s.addRule chain.validator (.standalone chain.property added text)) := by
  rcases call_outcome h with ⟨f', -, ht⟩ | ⟨chain, d, hc, hd, ⟨f', he, hf, ht⟩ | ⟨e, he, hf, ht⟩⟩
  · exact .inl ht
  · obtain rfl := Except.error.inj hf
    exact .inr ⟨chain, d, hc, hd, .inl ⟨he, ht⟩⟩
  · obtain ⟨added, text, rfl, hname⟩ := noted_error hf.symm
    rw [planned_rule he] at ht
    exact .inr ⟨chain, d, hc, hd, .inr ⟨added, text, he, hname, ht⟩⟩

/-- A call that fails on a chain leaves at most a rule that cannot be noted. -/
theorem call_leftBehind {c : Nat} {method : String} {args : List Value} {s t : Store ω}
    {chain : Chain} {f : Fault} (hc : s.chains[c]? = some chain)
    (h : (call c method args).exec s = (.error f, t)) : chain.LeftBehind f s t := by
  rcases call_error h with rfl | ⟨chain', d, hc', -, ⟨-, rfl⟩ | ⟨added, text, -, hname, rfl⟩⟩
  · exact .inl ⟨_, rfl⟩
  · exact .inl (planned_eq s d)
  · obtain rfl := Option.some.inj (hc.symm.trans hc')
    exact .inr ⟨added, text, hname, rfl⟩

/-- A call either has the effect that is planned for its declaration, and gives what comes of
noting it, or fails and changes nothing but what its operands have given. -/
theorem call_cases {c : Nat} {method : String} {args : List Value} {s t : Store ω}
    {r : Except Fault Unit} (h : (call c method args).exec s = (r, t)) :
    (∃ chain d e, s.chains[c]? = some chain ∧ Declaration.ofCall method args = .ok d ∧
        plan s chain d = .ok e ∧ r = e.noted chain ∧ t = e.apply c chain (planned s d)) ∨
      ∃ f drained, r = .error f ∧ t = { s with drained := drained } := by
  rcases call_outcome h with ⟨f, hf, ht⟩ | ⟨chain, d, hc, hd, ⟨f, -, hf, ht⟩ | ⟨e, he, hr, ht⟩⟩
  · exact .inr ⟨f, s.drained, hf, ht⟩
  · obtain ⟨drained, hplanned⟩ := planned_eq s d
    exact .inr ⟨f, drained, hf, ht.trans hplanned⟩
  · exact .inl ⟨chain, d, e, hc, hd, he, hr, ht⟩

/-- Starting a chain fails only if there is no such property. -/
theorem ruleFor_exec (v : Nat) (selector : Value) (s : Store ω) :
    (Validator.ruleFor v selector).exec s = match Property.resolve selector (s.modelOf v) with
      | .ok p => (.ok s.chains.length, { s with chains := s.chains ++ [start v p] })
      | .error f => (.error f, s) := by
  unfold Validator.ruleFor
  rw [exec_bind_ok (exec_get s)]
  cases Property.resolve selector (s.modelOf v) <;> rfl

/-! ## What is planned -/

/-- What a declaration does if it does not fail. -/
def Effect.FitsTo (s : Store ω) (chain : Chain) (e : Effect) : Declaration → Prop
  | .check added => ∃ text, e = .check added text
  | .isIn values => ∃ allowed text, s.itemsOf values = .ok allowed ∧ e = .check (.isIn allowed) text
  | .must .none => ∃ text, e = .check .always text
  | .must f => ∃ text, e = .check (.must f) text
  | .mustAsync f _ => ∃ text, e = .rule (.own f) text
  | .dependent other f _ => ∃ p text, Property.resolve other (s.modelOf chain.validator) = .ok p ∧
      e = .rule (.dependent p f) text
  | .withMessage _ => e = .nothing ∨ ∃ text, e = .message text

/-- A check that is planned has its own message. -/
theorem planCheck_message {p : Property} {added : Check} {e : Effect}
    (h : planCheck p added = .ok e) :
    ∃ text, e = .check added text ∧ checkMessage p added = .ok text := by
  obtain ⟨_, -, h⟩ := ok_of_bind h
  obtain ⟨text, htext, h⟩ := ok_of_bind h
  cases h
  exact ⟨text, rfl, htext⟩

theorem planCheck_ok {p : Property} {added : Check} {e : Effect}
    (h : planCheck p added = .ok e) : ∃ text, e = .check added text := by
  obtain ⟨text, he, -⟩ := planCheck_message h
  exact ⟨text, he⟩

theorem plan_fitsTo {s : Store ω} {chain : Chain} {d : Declaration} {e : Effect}
    (h : plan s chain d = .ok e) : e.FitsTo s chain d := by
  cases d with
  | check added => exact planCheck_ok h
  | isIn values =>
    obtain ⟨allowed, hi, h⟩ := ok_of_bind h
    obtain ⟨text, rfl⟩ := planCheck_ok h
    exact ⟨allowed, text, hi, rfl⟩
  | must f =>
    cases f with
    | none => exact planCheck_ok h
    | _ =>
      simp only [plan] at h
      split at h
      · exact planCheck_ok h
      · obtain ⟨_, -, h⟩ := ok_of_bind h
        obtain ⟨_, -, h⟩ := ok_of_bind h
        cases h
  | mustAsync f given =>
    obtain ⟨_, -, h⟩ := ok_of_bind h
    obtain ⟨text, -, h⟩ := ok_of_bind h
    cases h
    exact ⟨text, rfl⟩
  | dependent other f given =>
    have hother : planOther chain.property (s.modelOf chain.validator) other f given = .ok e := by
      cases other with
      | none => obtain ⟨_, -, h⟩ := ok_of_bind h; cases h
      | _ => exact h
    obtain ⟨_, -, hother⟩ := ok_of_bind hother
    obtain ⟨q, hq, hother⟩ := ok_of_bind hother
    obtain ⟨text, -, hother⟩ := ok_of_bind hother
    cases hother
    exact ⟨q, text, hq, rfl⟩
  | withMessage given =>
    simp only [plan] at h
    split at h
    · cases h
      exact .inl rfl
    · cases hm : messageOr (s.settingsOf chain.validator) chain.property given with
      | error f => rw [hm] at h; cases h
      | ok text => rw [hm] at h; cases h; exact .inr ⟨text, rfl⟩

/-! ## Stores after an effect -/

theorem map_check_replaceLast (entries : List Entry) (message : Value) :
    (replaceLast entries message).map (·.check) = entries.map (·.check) := by
  induction entries with
  | nil => rfl
  | cons e es ih =>
    cases es with
    | nil => rfl
    | cons e' es => exact congrArg (e.check :: ·) ih

/-- A chain after an effect on it. -/
def Effect.after (chain : Chain) : Effect → Chain
  | .check added text => (chain.extend added (.str text)).register
  | .message text => { chain with entries := replaceLast chain.entries text }
  | _ => chain

theorem Effect.validator_after (chain : Chain) (e : Effect) :
    (e.after chain).validator = chain.validator := by
  cases e <;> rfl

theorem Effect.property_after (chain : Chain) (e : Effect) :
    (e.after chain).property = chain.property := by
  cases e <;> rfl

/-- The checks that an effect puts into its chain. -/
def Effect.checks : Effect → List Check
  | .check added _ => [added]
  | _ => []

theorem checks_after (chain : Chain) (e : Effect) :
    (e.after chain).entries.map (·.check) = chain.entries.map (·.check) ++ e.checks := by
  cases e with
  | check added text => simp [Effect.after, Effect.checks, extend, register]
  | message text =>
    exact (map_check_replaceLast chain.entries text).trans (List.append_nil _).symm
  | _ => exact (List.append_nil _).symm

/-- A chain that is registered iff it has a check stays like this. -/
theorem registered_after {chain : Chain} (h : chain.registered = !chain.entries.isEmpty)
    (e : Effect) : (e.after chain).registered = !(e.after chain).entries.isEmpty := by
  cases e with
  | check added text => simp [Effect.after, extend, register]
  | message text =>
    have hempty := congrArg List.isEmpty (map_check_replaceLast chain.entries text)
    rw [List.isEmpty_map, List.isEmpty_map] at hempty
    simp only [Effect.after, h, hempty]
  | _ => exact h

/-- The rules that an effect registers. -/
def Effect.registers (c : Nat) (chain : Chain) : Effect → List Rule
  | .check _ _ => if chain.registered then [] else [.batched chain.property c]
  | .rule added text => [.standalone chain.property added text]
  | _ => []

/-- The first check of a chain registers one rule that reads the chain; nothing else does. -/
theorem countP_registers (c : Nat) (chain : Chain) (e : Effect) (c' : Nat) :
    (e.registers c chain).countP (Rule.reads c') =
      if c = c' ∧ chain.registered = false ∧ e.checks ≠ [] then 1 else 0 := by
  cases e with
  | check added text =>
    simp only [Effect.registers, Effect.checks]
    cases chain.registered with
    | true => simp
    | false => by_cases hc : c = c' <;> simp [Rule.reads, hc]
  | rule added text => simp [Effect.registers, Effect.checks, Rule.reads]
  | _ => simp [Effect.registers, Effect.checks]

theorem mem_registers_batched {c : Nat} {chain : Chain} {e : Effect} {p : Property} {c' : Nat}
    (h : .batched p c' ∈ e.registers c chain) : p = chain.property ∧ c' = c := by
  cases e with
  | check added text =>
    simp only [Effect.registers] at h
    split at h
    · cases h
    · obtain ⟨rfl, rfl⟩ := Rule.batched.inj (List.mem_singleton.mp h)
      exact ⟨rfl, rfl⟩
  | rule added text => cases List.mem_singleton.mp h
  | _ => cases h

theorem register_eq (chain : Chain) (h : chain.registered = true) : chain.register = chain := by
  rw [register, ← h]

private theorem getElem?_modifyChain {s : Store ω} {c : Nat} {chain : Chain}
    (h : s.chains[c]? = some chain) (f : Chain → Chain) (i : Nat) :
    (s.modifyChain c f).chains[i]? = if i = c then some (f chain) else s.chains[i]? := by
  rw [Store.modifyChain]
  split
  · rename_i hi
    rw [hi, List.getElem?_modify_eq, h]
    rfl
  · rename_i hi
    exact List.getElem?_modify_ne f s.chains (Ne.symm hi)

/-- An effect changes no chain but its own. -/
theorem chains_apply {s : Store ω} {c : Nat} {chain : Chain} (h : s.chains[c]? = some chain)
    (e : Effect) (i : Nat) :
    (e.apply c chain s).chains[i]? = if i = c then some (e.after chain) else s.chains[i]? := by
  have same : s.chains[i]? = if i = c then some chain else s.chains[i]? := by
    split
    · rename_i hi
      rw [hi, h]
    · rfl
  cases e with
  | check added text =>
    have hone := getElem?_modifyChain h fun ch => ch.extend added (.str text)
    simp only [Effect.apply]
    split
    · rename_i hr
      rw [hone, Effect.after, register_eq (chain.extend added (.str text)) hr]
    · have hc : (s.modifyChain c fun ch => ch.extend added (.str text)).chains[c]? =
          some (chain.extend added (.str text)) := by
        rw [hone, if_pos rfl]
      rw [getElem?_modifyChain (by exact hc)]
      show (if i = c then _ else (s.modifyChain c _).chains[i]?) = _
      rw [hone]
      split <;> rfl
  | rule added text => exact same
  | message text => exact getElem?_modifyChain h _ i
  | nothing => exact same

theorem length_apply (e : Effect) (c : Nat) (chain : Chain) (s : Store ω) :
    (e.apply c chain s).chains.length = s.chains.length ∧
      (e.apply c chain s).validators.length = s.validators.length := by
  cases e with
  | check added text =>
    simp only [Effect.apply]
    split <;> simp [Store.modifyChain, Store.addRule, Store.modifyValidator]
  | _ => simp [Effect.apply, Store.modifyChain, Store.addRule, Store.modifyValidator]

theorem rulesOf_addRule {s : Store ω} {v : Nat} (h : v < s.validators.length) (r : Rule) :
    (s.addRule v r).rulesOf v = s.rulesOf v ++ [r] := by
  simp [Store.addRule, Store.modifyValidator, Store.rulesOf, h]

/-- What an effect adds to the rules of the validator of its chain. -/
theorem rulesOf_apply {s : Store ω} {chain : Chain} (h : chain.validator < s.validators.length)
    (e : Effect) (c : Nat) :
    (e.apply c chain s).rulesOf chain.validator =
      s.rulesOf chain.validator ++ e.registers c chain := by
  cases e with
  | check added text =>
    simp only [Effect.apply, Effect.registers]
    split
    · exact (List.append_nil _).symm
    · exact rulesOf_addRule (s := s.modifyChain c fun ch => ch.extend added (.str text)) h _
  | rule added text => exact rulesOf_addRule h _
  | _ => exact (List.append_nil _).symm

end Chain

end Rulebook
