import ClassScript.Proofs.Class.Lookup
import ClassScript.Proofs.Class.Subtyping
import ClassScript.Proofs.Registration.Origin
import ClassScript.Proofs.Typing.Unknown

/-!
# Hidden methods behind a class name

`Typing.FindsByClass cx e s b k`: `e` is a call `B.m(..)` or a `new B(..)` in which the name leads to
the class `b`, and checking selects the method or constructor `k` of it. Where `k` is private or
protected, such a place is reported unless `b` counts as the enclosing class, and that is decided by
the simple names of the two classes (`Checks.namesake`).

So code without an error reaches hidden methods by a class name (`Typing.ReachesHidden`) only in a
namesake of its own class.
A namesake that lies in the same place, at the top or in the same outer class, is the class itself
(`ClassTable.Has.eq_of_namesake`). One that lies elsewhere is another class.

Main statement: `hidden_methods_of_namesakes`.
-/

namespace ClassScript

/-! ## Namesakes in one place -/

/-- Two classes of the same simple name inside the same classes are the same. -/
theorem ClassTable.Has.eq_of_namesake {decls : List ClassDecl} {c d : ClassInfo}
    (hc : (Registration.registerAll .initial decls).table.Has c)
    (hd : (Registration.registerAll .initial decls).table.Has d)
    (name : sameName c.name d.name = true) (outer : c.outer = d.outer) : c = d := by
  have foundC := hc.found
  have foundD := hd.found
  rw [ClassInfo.path] at foundC foundD
  rw [outer] at foundC
  by_cases h : d.outer = []
  · rw [h] at foundC foundD
    rw [List.nil_append, at?, get?_congr _ name] at foundC
    rw [List.nil_append, at?] at foundD
    exact Option.some.inj (foundC.symm.trans foundD)
  · rw [at?_snoc _ h] at foundC foundD
    obtain ⟨o, ho, hin⟩ := Option.bind_eq_some_iff.1 foundC
    obtain ⟨o', ho', hin'⟩ := Option.bind_eq_some_iff.1 foundD
    cases ho.symm.trans ho'
    rw [ClassInfo.inner?_congr o name] at hin
    exact Option.some.inj (hin.symm.trans hin')

namespace Typing

open Check (Clean Quiet)

variable {t : ClassTable} {cx : CheckContext} {s s' : CheckState} {role : Role} {e : Expr}
  {b : ClassInfo} {k : MethodInfo}

/-! ## Calls and instances by the name of a class -/

/-- The class whose name stands before a call or after `new`. -/
def namedClass? (cx : CheckContext) : Expr → CheckState → Option ClassInfo
  | .callOn receiver _ _ _, s =>
    match (denote cx .receiver receiver s).1 with
    | .cls b => some b
    | _ => none
  | .create type _ _, s =>
    (cx.resolveType type.dataType type.span s).1.bind fun d => cx.lookupClass? d.name
  | _, _ => none

/-- The call or the `new` names the class `b` and selects its method `k` (module doc). -/
def FindsByClass (cx : CheckContext) (e : Expr) (s : CheckState) (b : ClassInfo)
    (k : MethodInfo) : Prop :=
  namedClass? cx e s = some b ∧ ∃ sel, selection? cx e s = some sel ∧ sel.method? cx.classes = some k

theorem namedClass?_callOn {receiver : Expr} {method : Ident} {args : List Expr} {span : Span}
    (h : namedClass? cx (.callOn receiver method args span) s = some b) :
    (denote cx .receiver receiver s).1 = .cls b := by
  rw [namedClass?] at h
  split at h
  · rename_i heq
    cases h
    exact heq
  · cases h

/-- What is named is a class of the table. -/
theorem has_of_namedClass? (hc : cx.classes.Has cx.cls) (h : namedClass? cx e s = some b) :
    cx.classes.Has b := by
  match e with
  | .callOn receiver method args span => exact has_of_denote_cls hc (namedClass?_callOn h)
  | .create type args span =>
    obtain ⟨d, -, hb⟩ := Option.bind_eq_some_iff.1 h
    exact has_of_lookupClass? hc hb

/-! ## Hidden methods are reported -/

/-- A call from outside that is not reported selects a method that may be called from there. -/
theorem callType_external {g : List MethodInfo} {bs : TypeBindings} {method : Ident}
    {types : List (Option DataType)} {span : Span}
    (hk : Overload.chosen cx.classes bs g types = some k)
    (h : Clean (callType cx (some ⟨some g, bs, true⟩) method types span) s) :
    k.visibility.isExternallyCallable = true := by
  rw [callType_eq] at h
  obtain ⟨hs, hr⟩ := h.seq (select_quiet cx _ _ _ _ _) (reachable_quiet bs true span)
  obtain ⟨-, hfound⟩ := select_clean hk hs
  rw [hfound] at hr
  cases hv : k.visibility.isExternallyCallable with
  | true => rfl
  | false =>
    unfold reachable at hr
    simp only [hv, Bool.not_false, Bool.and_true, ↓reduceIte] at hr
    exact (hr.report_bind fun _ => Quiet.pure _).elim

/-- A `new` that is not reported selects a constructor that may be called from outside, or it makes
an instance of what counts as the enclosing class. -/
theorem createType_external {d : DataType} {types : List (Option DataType)} {span : Span}
    (hb : cx.lookupClass? d.name = some b) (hne : b.constructors.isEmpty = false)
    (hk : Overload.chosen cx.classes ⟨b.typeParams, d.args⟩ b.constructors types = some k)
    (h : Clean (createType cx (some d) types span) s) :
    k.visibility.isExternallyCallable = true ∨ cx.isCurrent b = true := by
  rw [createType_eq hb hne] at h
  obtain ⟨hs, hr⟩ := h.seq (select_quiet cx _ _ _ _ _) (creatable_quiet cx d b span)
  obtain ⟨-, hfound⟩ := select_clean hk hs
  rw [hfound] at hr
  cases hv : k.visibility.isExternallyCallable with
  | true => exact .inl rfl
  | false =>
    cases hcur : cx.isCurrent b with
    | true => exact .inr rfl
    | false =>
      unfold creatable at hr
      simp only [hv, hcur, Bool.not_false, Bool.and_self, ↓reduceIte] at hr
      exact (hr.report_bind fun _ => Quiet.pure _).elim

/-- Checked code finds hidden methods by a class name only in a namesake of its own class. -/
theorem Checks.namesake (h : Checks t cx (.expr role e) s) (hf : FindsByClass cx e s b k)
    (hidden : k.visibility.isExternallyCallable = false) :
    sameName b.name cx.cls.name = true := by
  have hclean : Clean (denote cx role e) s := h.clean
  obtain ⟨hb, sel, hsel, hk⟩ := hf
  match e with
  | .callOn receiver method args span =>
    have hb := namedClass?_callOn hb
    obtain ⟨-, -, hcall⟩ := callOn_clean hclean
    simp only [selection?, hb, explicitTarget, callSelection, Option.bind_some] at hsel
    obtain ⟨g, hg, rfl⟩ := Option.map_eq_some_iff.1 hsel
    rw [hb, explicitTarget, hg] at hcall
    -- outside of its own class, the method would have been reported
    cases hcur : cx.isCurrent b with
    | true => exact hcur
    | false =>
      rw [hcur] at hcall
      have visible := callType_external hk hcall
      rw [hidden] at visible
      cases visible
  | .create type args span =>
    obtain ⟨d, c, hd, hcls, hne, rfl⟩ := selection?_create hsel
    have hb : c = b := by
      rw [namedClass?, hd, Option.bind_some, hcls] at hb
      exact Option.some.inj hb
    subst hb
    obtain ⟨-, -, hnew⟩ := create_clean hclean
    rw [hd] at hnew
    rcases createType_external hcls hne hk hnew with visible | hcur
    · rw [hidden] at visible
      cases visible
    · exact hcur

/-! ## Bodies of methods -/

/-- The state that the check of a method starts in does not matter. -/
theorem clean_method_anywhere {c : ClassInfo} {stmts : List Stmt} (hb : k.body = .script stmts)
    (h : Clean (checkMethod t c k) s) (s' : CheckState) : Clean (checkMethod t c k) s' := by
  unfold checkMethod at h ⊢
  rw [hb] at h ⊢
  have h : Clean (checkBody t c k stmts) (memberStart s) := h
  have start : (memberStart s).Like (memberStart s') := ⟨rfl, rfl⟩
  obtain ⟨new, hn, hn'⟩ := (checkBody_blind t c k stmts).adds start
  have none : new = [] := by
    unfold Clean at h
    rw [hn] at h
    simpa using h
  rw [none, List.append_nil] at hn'
  exact hn'

/-- Checked code is left for checked code only. -/
theorem Checks.visits {x y : Code} (h : Checks t cx x s) (hv : Visits cx x s y s') :
    Checks t cx y s' := by
  induction hv with
  | here => exact h
  | @part y z s' s'' _ hz ih =>
    have parts : y.checkedParts cx s' = y.parts cx s' := by
      cases y with
      | expr role e => exact checkedParts_clean ih.clean
      | vars _ _ | stmt _ | stmts _ => rfl
    rw [parts] at hz
    exact .part ih hz

/-- A method of the class `a` has a call or a `new` in its body that names the class `b` and selects a
private or protected method of it. -/
inductive ReachesHidden (t : ClassTable) (a : ClassInfo) (e : Expr) (b : ClassInfo)
    (m : MethodInfo) : Prop
  | intro {k : MethodInfo} {stmts : List Stmt} {role : Role} (s₀ : CheckState) {s : CheckState} :
    k ∈ a.ownMethods → k.body = .script stmts →
    Visits (bodyContext t a k s₀) (.stmts stmts) (bodyStart t a k s₀) (.expr role e) s →
    FindsByClass (bodyContext t a k s₀) e s b m →
    m.visibility = .priv ∨ m.visibility = .prot → ReachesHidden t a e b m

/-- In a table without errors the class is a class of the table with the same simple name. -/
theorem ReachesHidden.namesake {a : ClassInfo} {m : MethodInfo} (h : ReachesHidden t a e b m)
    (hcheck : (checkTable t).1 = []) (ha : t.Has a) : t.Has b ∧ sameName b.name a.name = true := by
  obtain @⟨k, stmts, role, s₀, s, hk, hbody, hvisit, hfind, hidden⟩ := h
  obtain ⟨s', hs'⟩ := exists_clean_method hcheck ha hk
  have hclean := clean_method_anywhere hbody hs' s₀
  have hplace := (Checks.body ha hk hbody hclean).visits hvisit
  have uncallable : m.visibility.isExternallyCallable = false := by
    rcases hidden with h | h <;> rw [h] <;> rfl
  have context : t.Has (bodyContext t a k s₀).cls := ha
  exact ⟨has_of_namedClass? context hfind.1, hplace.namesake hfind uncallable⟩

end Typing

open Typing (ReachesHidden)

/-- **Hidden methods are reached by name from namesakes only.** Take classes that are registered and
checked without an error. If a method of a class of theirs, inner or not, calls a private or
protected method of some class by the name of that class, or makes an instance with such a
constructor, then the named class has the same simple name. If it also lies inside the same classes,
it is the class itself. -/
theorem hidden_methods_of_namesakes {decls : List ClassDecl} {a b : ClassInfo} {e : Expr}
    {m : MethodInfo}
    (hcheck : (Typing.checkTable (Registration.registerAll .initial decls).table).1 = [])
    (ha : (Registration.registerAll .initial decls).table.Has a)
    (h : ReachesHidden (Registration.registerAll .initial decls).table a e b m) :
    (Registration.registerAll .initial decls).table.Has b ∧ sameName b.name a.name = true ∧
      (b.outer = a.outer → b = a) := by
  obtain ⟨hb, name⟩ := h.namesake hcheck ha
  exact ⟨hb, name, fun outer => hb.eq_of_namesake ha name outer⟩

/-! ### A class of the same name -/

/-- `A.hidden()` -/
def hiddenCall : Expr :=
  .callOn (.name ⟨"A", .unknown⟩) ⟨"hidden", .unknown⟩ [] .unknown

/-- `new A()` -/
def hiddenNew : Expr := .create ⟨⟨"A", .unknown⟩, [], .unknown⟩ [] .unknown

/-- A private static method, and a private constructor of the class `A`. -/
def hiddenMembers : List (Member ClassDecl) :=
  let hidden (modifiers : Modifiers) (name : String) : MethodDecl :=
    ⟨modifiers, none, ⟨name, .unknown⟩, [], some [], .unknown⟩
  [.method (hidden (.union .priv .static) "hidden"), .constructor (hidden .priv "A")]

/-- A method whose body is `A.hidden(); new A();` -/
def hiddenUser : Member ClassDecl :=
  .method ⟨.union .pub .static, none, ⟨"run", .unknown⟩, [],
    some [.expr hiddenCall .unknown, .expr hiddenNew .unknown], .unknown⟩

/-- A class that uses its own hidden methods. -/
def ownHidden : ClassTable :=
  (Registration.registerAll .initial [bareClass "A" none [] (hiddenUser :: hiddenMembers)]).table

/-- A class may name itself to call a hidden method. -/
theorem hidden_methods_of_namesakes_own : ∃ a b m, ownHidden.get? "A" = some a ∧
    ReachesHidden ownHidden a hiddenCall b m ∧ m.visibility = .priv ∧ b = a := by
  obtain ⟨a, b, m, ha, hcall, hm, outer⟩ : ∃ a b m, ownHidden.get? "A" = some a ∧
      ReachesHidden ownHidden a hiddenCall b m ∧ m.visibility = .priv ∧ b.outer = a.outer :=
    ⟨_, _, _, rfl, .intro {} (List.mem_cons_of_mem _ List.mem_cons_self) rfl
      (.part (.part .here List.mem_cons_self) List.mem_cons_self) ⟨rfl, _, rfl, rfl⟩ (.inl rfl),
      rfl, rfl⟩
  have hcheck : (Typing.checkTable ownHidden).1 = [] := List.isEmpty_iff.1 (by decide +kernel)
  have self := hidden_methods_of_namesakes hcheck (.of_get? ha) hcall
  exact ⟨a, b, m, ha, hcall, hm, self.2.2 outer⟩

/-- A class with hidden methods, and an inner class of the same name that uses them. -/
def namesakeHidden : ClassTable :=
  (Registration.registerAll .initial [bareClass "A" none [] hiddenMembers,
    bareClass "Outer" none [] [.inner (bareClass "A" none [] [hiddenUser])]]).table

/-- **A hidden method is reached by name from another class.** The inner class names the class at the
top to call its private method and its private constructor, and no error is reported. -/
theorem hidden_method_of_other_class : (Typing.checkTable namesakeHidden).1 = [] ∧
    ∃ a b m n, namesakeHidden.resolve? "Outer.A" = some a ∧ namesakeHidden.get? "A" = some b ∧
      b ≠ a ∧ ReachesHidden namesakeHidden a hiddenCall b m ∧
      ReachesHidden namesakeHidden a hiddenNew b n := by
  refine ⟨List.isEmpty_iff.1 (by decide +kernel), ?_⟩
  obtain ⟨a, b, m, n, ha, hb, outer, hcall, hnew⟩ : ∃ a b m n,
      namesakeHidden.resolve? "Outer.A" = some a ∧ namesakeHidden.get? "A" = some b ∧
      b.outer.length ≠ a.outer.length ∧ ReachesHidden namesakeHidden a hiddenCall b m ∧
      ReachesHidden namesakeHidden a hiddenNew b n := by
    exact ⟨_, _, _, _, rfl, rfl, by decide, .intro {} List.mem_cons_self rfl
      (.part (.part .here List.mem_cons_self) List.mem_cons_self) ⟨rfl, _, rfl, rfl⟩ (.inl rfl),
      .intro {} List.mem_cons_self rfl
        (.part (.part (.part .here (List.mem_cons_of_mem _ List.mem_cons_self))
          List.mem_cons_self) List.mem_cons_self) ⟨rfl, _, rfl, rfl⟩ (.inl rfl)⟩
  refine ⟨a, b, m, n, ha, hb, fun heq => ?_, hcall, hnew⟩
  rw [heq] at outer
  exact outer rfl

end ClassScript
