import Mathlib.Data.List.Induction
import Rulebook.Proofs.Session.Terms
import Rulebook.Session.Validation

/-!
# The types that classes of validators validate

Classes of validators are made one after the other, each on a base that was made before it. A class
may name the type that its objects validate, by an attribute or by the argument of its base; one
that does not has the type that the nearest of its bases names. A class that was made stays as it
is, whatever is made after it.

* `ClassDeclaration.Names`: the type that a class names itself.
* `NamedLast`: the type that is named last along a line of classes.
* `Session.addClass_exec`: what making a class does.
* `Session.classes_of_line`: the types of classes of which each is the base of the next one.
-/

namespace Rulebook

/-! ## Declarations -/

/-- What a class names itself: its attribute, or the class that its base has as argument if there is
no attribute. A variable or a text in its place names nothing. -/
inductive ClassDeclaration.Names : ClassDeclaration → Value → Prop where
  | attribute {v : Value} {argument : Option BaseArgument} : Names ⟨some v, argument⟩ v
  | argument {v : Value} : v.isClass = true → Names ⟨none, some (.value v)⟩ v

theorem ClassDeclaration.own?_eq_some_iff {d : ClassDeclaration} {v : Value} :
    d.own? = some v ↔ d.Names v := by
  obtain ⟨explicit, argument⟩ := d
  constructor
  · intro h
    cases explicit with
    | some w => cases h; exact .attribute
    | none =>
      match argument with
      | some (.value w) =>
        have hvalue : (if w.isClass then some w else none) = some v := h
        split at hvalue
        · cases hvalue
          exact .argument ‹_›
        · cases hvalue
  · rintro (_ | hclass)
    · rfl
    · exact if_pos hclass

/-- The value that the last one of the declarations that name something names, and nothing if none
does. -/
inductive NamedLast : List ClassDeclaration → Value → Prop where
  | nowhere {ds : List ClassDeclaration} : (∀ d ∈ ds, ∀ v, ¬d.Names v) → NamedLast ds .none
  | named {front back : List ClassDeclaration} {d : ClassDeclaration} {v : Value} :
      d.Names v → (∀ e ∈ back, ∀ w, ¬e.Names w) → NamedLast (front ++ d :: back) v

theorem namedLast_declaredModel (ds : List ClassDeclaration) :
    NamedLast ds (declaredModel (ds.reverse ++ ValidatorClass.root.chain)) := by
  induction ds using List.reverseRecOn with
  | nil => exact .nowhere nofun
  | append_singleton ds d ih =>
    rw [List.reverse_concat, List.cons_append, declaredModel]
    cases hown : d.own? with
    | some v => exact .named (ClassDeclaration.own?_eq_some_iff.mp hown) nofun
    | none =>
      have hnot : ∀ e ∈ [d], ∀ w, ¬e.Names w := by
        intro e he w hw
        rw [List.mem_singleton.mp he, ← ClassDeclaration.own?_eq_some_iff, hown] at hw
        cases hw
      rw [Option.getD_none]
      generalize declaredModel (ds.reverse ++ ValidatorClass.root.chain) = v at ih ⊢
      cases ih with
      | nowhere hall => exact .nowhere (List.forall_mem_append.mpr ⟨hall, hnot⟩)
      | @named front back _ _ hnames hback =>
        rw [List.append_assoc, List.cons_append]
        exact .named hnames (List.forall_mem_append.mpr ⟨hback, hnot⟩)

namespace Session

open Rulebook.Action

/-! ## Making a class -/

/-- The class on which another one is made. -/
def baseOf (s : State) (base : Option String) : KnownClass :=
  (base.bind s.class?).getD ⟨.root, []⟩

/-- What a class declares, with the attribute that its term has come to. -/
def declarationOf (s : State) (c : ClassTerm) (model : Option Value) : ClassDeclaration :=
  ⟨model, c.argument.map (argumentOf s)⟩

/-- The class that is made. -/
def knownOf (s : State) (c : ClassTerm) (model : Option Value) : KnownClass :=
  let base := baseOf s c.base
  let isAbstract := c.isAbstract || base.class_.isAbstract
  ⟨⟨⟨firstClassId + s.classes.length, c.name, c.name, c.module, .other, isAbstract, none, []⟩,
    declarationOf s c model :: base.class_.chain, isAbstract⟩, rulesOf base.rules c⟩

/-- Making a class evaluates its attribute and adds the class behind the others. -/
theorem addClass_exec (c : ClassTerm) (s : Store State) : (addClass c).exec s =
    match (evalOption c.model).exec s with
    | (.error e, u) => (.error e, u)
    | (.ok model, u) => (.ok (), { u with
        extra := { u.extra with classes := u.extra.classes ++ [knownOf u.extra c model] } }) := by
  unfold addClass
  rcases hmodel : (evalOption c.model).exec s with ⟨e | model, u⟩
  · rw [exec_bind_error hmodel]
  · rw [exec_bind_ok hmodel]
    rfl

/-- Classes are found alike where they are the same. -/
theorem baseOf_congr {s t : State} (h : s.classes = t.classes) (base : Option String) :
    baseOf s base = baseOf t base := by
  have hfind : s.class? = t.class? := funext fun name => by rw [State.class?, State.class?, h]
  rw [baseOf, baseOf, hfind]

/-- A class that was made comes last, under its name, with what it declares before what its base
and the bases of that declare. -/
theorem addClass_ok {c : ClassTerm} {s t : Store State} (h : (addClass c).exec s = (.ok (), t)) :
    ∃ model u k, (evalOption c.model).exec s = (.ok model, u) ∧
      t.extra.classes = s.extra.classes ++ [k] ∧ k.class_.info.name = c.name ∧
      k.class_.chain = declarationOf u.extra c model :: (baseOf s.extra c.base).class_.chain := by
  rw [addClass_exec] at h
  rcases hmodel : (evalOption c.model).exec s with ⟨e | model, u⟩
  · rw [hmodel] at h
    cases h
  rw [hmodel] at h
  cases h
  have hclasses : u.extra.classes = s.extra.classes :=
    evalOption_keeps (I := fun v => v.extra.classes = s.extra.classes) (fun _ _ _ h => h) c.model
      s _ u rfl hmodel
  refine ⟨model, u, knownOf u.extra c model, rfl, congrArg (· ++ _) hclasses, rfl, ?_⟩
  rw [← baseOf_congr hclasses]
  rfl

/-- The classes of the session start with these. -/
def HasClasses (classes : List KnownClass) (s : Store State) : Prop := classes <+: s.extra.classes

theorem addClass_keeps_classes (classes : List KnownClass) (c : ClassTerm) :
    Keeps (HasClasses classes) (addClass c) := by
  have hindifferent : Indifferent (HasClasses classes) := fun _ _ _ h => h
  refine (evalOption_keeps hindifferent c.model).bind fun _ => state_keeps.bind fun _ => ?_
  rintro s r t hs ⟨⟩
  exact List.IsPrefix.trans hs (List.prefix_append _ _)

theorem addClasses_keep (classes : List KnownClass) (cs : List ClassTerm) :
    Keeps (HasClasses classes) (cs.forM addClass) :=
  .forM fun c _ => addClass_keeps_classes classes c

/-- A class is found under its name also when there are more. -/
theorem class?_grows {s t : State} (h : s.classes <+: t.classes) {name : String}
    {k : KnownClass} (hk : s.class? name = some k) : t.class? name = some k :=
  List.IsPrefix.find?_eq_some h hk

theorem class?_concat {s t : State} {k : KnownClass} (h : t.classes = s.classes ++ [k])
    {name : String} (hnew : s.class? name = none) :
    t.class? name = if k.class_.info.name == name then some k else none := by
  unfold State.class? at hnew ⊢
  rw [h, List.find?_append, hnew, Option.none_or, List.find?_singleton]

/-! ## Lines of classes -/

/-- Each class is the base of the next one. -/
def IsLine : Option String → List ClassTerm → Prop
  | _, [] => True
  | base, c :: cs => c.base = base ∧ IsLine (some c.name) cs

/-- Classes are made one after the other, and this is what they declare. -/
inductive Declared : Store State → List ClassTerm → List ClassDeclaration → Store State → Prop where
  | nil {s : Store State} : Declared s [] [] s
  | cons {s u s' t : Store State} {c : ClassTerm} {model : Option Value} {cs : List ClassTerm}
      {ds : List ClassDeclaration} :
      (evalOption c.model).exec s = (.ok model, u) → (addClass c).exec s = (.ok (), s') →
      Declared s' cs ds t → Declared s (c :: cs) (declarationOf u.extra c model :: ds) t

theorem Declared.length_eq {s t : Store State} {cs : List ClassTerm}
    {ds : List ClassDeclaration} (h : Declared s cs ds t) : ds.length = cs.length := by
  induction h with
  | nil => rfl
  | cons _ _ _ ih => rw [List.length_cons, List.length_cons, ih]

/-- The classes of a line come with all that is declared along it before them. -/
theorem chains_of_line {s t : Store State} {cs : List ClassTerm} {base : Option String}
    (hrun : (cs.forM addClass).exec s = (.ok (), t)) (hline : IsLine base cs)
    (hnew : ∀ c ∈ cs, s.extra.class? c.name = none) (hdistinct : (cs.map (·.name)).Nodup) :
    ∃ ds, Declared s cs ds t ∧ ∀ i c, cs[i]? = some c → ∃ k,
      t.extra.class? c.name = some k ∧
      k.class_.chain = (ds.take (i + 1)).reverse ++ (baseOf s.extra base).class_.chain := by
  -- Each class is the base of the next one, so the induction is for every base.
  induction cs generalizing s base with
  | nil =>
    cases hrun
    exact ⟨[], .nil, nofun⟩
  | cons c cs ih =>
    obtain ⟨_, s', hhead, htail⟩ := bind_ok hrun
    obtain ⟨rfl, hline⟩ := hline
    obtain ⟨hname, hdistinct⟩ := List.nodup_cons.mp hdistinct
    obtain ⟨hnewHead, hnew⟩ := List.forall_mem_cons.mp hnew
    obtain ⟨model, u, k, hmodel, hclasses, hk, hchain⟩ := addClass_ok hhead
    have hfound : s'.extra.class? c.name = some k := by
      rw [class?_concat hclasses hnewHead, hk, beq_self_eq_true, if_pos rfl]
    have hnew' : ∀ c' ∈ cs, s'.extra.class? c'.name = none := by
      intro c' hc'
      have hne : c.name ≠ c'.name := fun h => hname (List.mem_map.mpr ⟨c', hc', h.symm⟩)
      rw [class?_concat hclasses (hnew c' hc'), hk, beq_false_of_ne hne]
      rfl
    have hbase : baseOf s'.extra (some c.name) = k := by
      rw [baseOf, Option.bind_some, hfound, Option.getD_some]
    obtain ⟨ds, hdeclared, hchains⟩ := ih htail hline hnew' hdistinct
    refine ⟨_, .cons hmodel hhead hdeclared, fun i c' hc' => ?_⟩
    cases i with
    -- The class that was just made, which the later ones leave.
    | zero =>
      cases hc'
      have hkept : s'.extra.classes <+: t.extra.classes :=
        addClasses_keep s'.extra.classes cs s' _ t (List.prefix_refl _) htail
      exact ⟨k, class?_grows hkept hfound, by simp [hchain]⟩
    | succ i =>
      obtain ⟨k', hk', hchain'⟩ := hchains i c' hc'
      refine ⟨k', hk', ?_⟩
      rw [hchain', hbase, hchain]
      simp

theorem classModel_exec {s : Store State} {name : String} {k : KnownClass}
    (h : s.extra.class? name = some k) :
    (classModel name).exec s = (.ok (.value k.class_.model), s) := by
  have hnamed : (classNamed name).exec s = (.ok k, s) := by
    rw [classNamed, exec_bind_ok (state_exec s), h]
    rfl
  rw [classModel, exec_bind_ok hnamed]
  rfl

/-- Along a line of new classes that starts at the class that all come from, the type of each class
is the one that is named last by it and the classes before it, and nothing if none of them names
one. A class has the attribute itself iff it names a type. Classes that are made later, on whatever
base, leave the types of all of these and of all other classes. -/
theorem models_of_line {s t : Store State} {cs : List ClassTerm}
    (hrun : (cs.forM addClass).exec s = (.ok (), t)) (hline : IsLine none cs)
    (hnew : ∀ c ∈ cs, s.extra.class? c.name = none) (hdistinct : (cs.map (·.name)).Nodup) :
    ∃ ds, Declared s cs ds t ∧
      (∀ i c, cs[i]? = some c → ∃ d k, ds[i]? = some d ∧ t.extra.class? c.name = some k ∧
        NamedLast (ds.take (i + 1)) k.class_.model ∧
        (k.class_.namesModel = true ↔ ∃ v, d.Names v) ∧
        (classModel c.name).exec t = (.ok (.value k.class_.model), t)) ∧
      (∀ name k, s.extra.class? name = some k → t.extra.class? name = some k) ∧
      ∀ (more : List ClassTerm) (r : Except Fault Unit) (u : Store State),
        (more.forM addClass).exec t = (r, u) →
        ∀ name k, t.extra.class? name = some k →
          (classModel name).exec u = (.ok (.value k.class_.model), u) := by
  obtain ⟨ds, hdeclared, hchains⟩ := chains_of_line hrun hline hnew hdistinct
  refine ⟨ds, hdeclared, fun i c hc => ?_, fun name k hk => ?_, fun more r u hmore name k hk => ?_⟩
  · obtain ⟨k, hk, hchain⟩ := hchains i c hc
    have hi : i < ds.length := by
      rw [hdeclared.length_eq]
      exact (List.getElem?_eq_some_iff.mp hc).1
    have hd : ds[i]? = some ds[i] := List.getElem?_eq_getElem hi
    refine ⟨ds[i], k, hd, hk, ?_, ?_, classModel_exec hk⟩
    · have hmodel : k.class_.model =
          declaredModel ((ds.take (i + 1)).reverse ++ ValidatorClass.root.chain) :=
        congrArg declaredModel hchain
      rw [hmodel]
      exact namedLast_declaredModel _
    · have hhead : k.class_.chain.head? = some ds[i] := by
        rw [hchain, List.take_succ_eq_append_getElem hi, List.reverse_concat]
        rfl
      simp [ValidatorClass.namesModel, hhead, Option.isSome_iff_exists,
        ClassDeclaration.own?_eq_some_iff]
  · exact class?_grows (addClasses_keep _ cs s _ t (List.prefix_refl _) hrun) hk
  · exact classModel_exec
      (class?_grows (addClasses_keep _ more t r u (List.prefix_refl _) hmore) hk)

/-- A line of classes: one with a variable, one with a class in its place, one that says nothing,
and one whose attribute is nothing. -/
def fourClasses : List ClassTerm :=
  [⟨"Open", none, some (.variable "T"), none, "validators", false, none, false⟩,
    ⟨"Closed", some "Open", some (.class "int"), none, "validators", false, none, false⟩,
    ⟨"Silent", some "Closed", none, none, "validators", false, none, false⟩,
    ⟨"Cleared", some "Silent", none, some (.value .none), "validators", false, none, false⟩]

/-- The third class has the type that the second one names. -/
theorem models_of_line_four : ∃ t ds,
    (fourClasses.forM addClass).exec (.empty (.start 0)) = (.ok (), t) ∧
      Declared (.empty (.start 0)) fourClasses ds t ∧
      NamedLast (ds.take 3) (.class .ofInt []) ∧
      (classModel "Silent").exec t = (.ok (.value (.class .ofInt [])), t) := by
  have hrun : (fourClasses.forM addClass).exec (.empty (.start 0)) = (.ok (), _) := rfl
  obtain ⟨ds, hdeclared, hclasses, -⟩ :=
    models_of_line hrun ⟨rfl, rfl, rfl, rfl, trivial⟩ (by decide +kernel) (by decide)
  obtain ⟨d, k, -, hk, hnamed, -, hmodel⟩ := hclasses 2 _ rfl
  have hint : k.class_.model = .class .ofInt [] := by
    cases hk
    rfl
  rw [hint] at hnamed hmodel
  exact ⟨_, ds, hrun, hdeclared, hnamed, hmodel⟩

end Session

end Rulebook
