import ClassScript.Proofs.Spelling.Classes
import ClassScript.Proofs.Typing.CheckRun

/-!
# Checks that report alike

`Check.Like σ Q x y`: from states that agree up to the spelling of names, the computations `x` and
`y` end with results in `Q`, and in states that agree again. So they report errors of the same
kinds, at the same places, in the same order. In exact spelling the two are the same computation
(`Check.Like.eq`).
-/

namespace ClassScript

variable (σ : Spelling)

/-! ## What is reported -/

/-- A violation that names types and members in two spellings. -/
inductive Violation.Spelled : Violation → Violation → Prop
  | conditionNotBoolean {t u : DataType} : t.Spelled σ u →
      Violation.Spelled (.conditionNotBoolean t) (.conditionNotBoolean u)
  | returnMismatch {a a' d d' : DataType} : a.Spelled σ a' → d.Spelled σ d' →
      Violation.Spelled (.returnMismatch a d) (.returnMismatch a' d')
  | typeMismatch {a a' d d' : DataType} : a.Spelled σ a' → d.Spelled σ d' →
      Violation.Spelled (.typeMismatch a d) (.typeMismatch a' d')
  | mustBeInteger {t u : DataType} : t.Spelled σ u →
      Violation.Spelled (.mustBeInteger t) (.mustBeInteger u)
  | mustBeNumeric {t u : DataType} : t.Spelled σ u →
      Violation.Spelled (.mustBeNumeric t) (.mustBeNumeric u)
  | mustBeAddable {t u : DataType} : t.Spelled σ u →
      Violation.Spelled (.mustBeAddable t) (.mustBeAddable u)
  | mustBeBoolean {t u : DataType} : t.Spelled σ u →
      Violation.Spelled (.mustBeBoolean t) (.mustBeBoolean u)
  | listKey {t u : DataType} : t.Spelled σ u → Violation.Spelled (.listKey t) (.listKey u)
  | mapKey {t u : DataType} : t.Spelled σ u → Violation.Spelled (.mapKey t) (.mapKey u)
  | notIndexable {t u : DataType} : t.Spelled σ u →
      Violation.Spelled (.notIndexable t) (.notIndexable u)
  | notIterable {t u : DataType} : t.Spelled σ u →
      Violation.Spelled (.notIterable t) (.notIterable u)
  | breakOutsideLoop : Violation.Spelled .breakOutsideLoop .breakOutsideLoop
  | continueOutsideLoop : Violation.Spelled .continueOutsideLoop .continueOutsideLoop
  | methodNotPublic (v : Visibility) : Violation.Spelled (.methodNotPublic v) (.methodNotPublic v)
  | undefined (role : NameRole) {n m : String} : σ.rel n m →
      Violation.Spelled (.undefined role n) (.undefined role m)
  | wrongArity {n m : String} (expected got : Nat) : σ.rel n m →
      Violation.Spelled (.wrongArity n expected got) (.wrongArity m expected got)
  | staticContext {n m : String} : σ.rel n m →
      Violation.Spelled (.staticContext n) (.staticContext m)
  | redeclared (n : String) : Violation.Spelled (.redeclared n) (.redeclared n)
  | notAssignable : Violation.Spelled .notAssignable .notAssignable

structure CheckError.Spelled (e e' : CheckError) : Prop where
  violation : e.violation.Spelled σ e'.violation
  span : e.span = e'.span

/-- An event that names methods in two spellings. -/
inductive LogEvent.Spelled : LogEvent → LogEvent → Prop
  | refl (e : LogEvent) : LogEvent.Spelled e e
  | overloadFallback {n m : String} (span : Span) : σ.rel n m →
      LogEvent.Spelled (.overloadFallback n span) (.overloadFallback m span)
  | running (cls : String) {n m : String} : σ.rel n m →
      LogEvent.Spelled (.running cls n) (.running cls m)

/-- Logs whose events differ in the spelling of names. -/
def Log.Spelled (log log' : Log) : Prop :=
  List.Forall₂ (LogEvent.Spelled σ) log.toList log'.toList

/-! ## States of checking -/

structure LocalVar.Spelled (v w : LocalVar) : Prop where
  name : v.name = w.name
  type : Option.Rel (DataType.Spelled σ) v.type w.type
  depth : v.depth = w.depth
  span : v.span = w.span

structure Hidden.Spelled (h h' : Hidden) : Prop where
  block : h.block = h'.block
  var : h.var.Spelled σ h'.var

structure LocalScope.Spelled (s s' : LocalScope) : Prop where
  visible : s.visible.Paired σ (LocalVar.Spelled σ) s'.visible
  depth : s.depth = s'.depth
  hidden : List.Forall₂ (Hidden.Spelled σ) s.hidden s'.hidden

structure CheckState.Spelled (s s' : CheckState) : Prop where
  scope : s.scope.Spelled σ s'.scope
  loopDepth : s.loopDepth = s'.loopDepth
  errors : List.Forall₂ (CheckError.Spelled σ) s.errors s'.errors
  log : s.log.Spelled σ s'.log

/-- The computations report alike (module doc). -/
def Check.Like {α β : Type} (Q : α → β → Prop) (x : Check α) (y : Check β) : Prop :=
  ∀ s s', s.Spelled σ s' → Q (x s).1 (y s').1 ∧ (x s).2.Spelled σ (y s').2

variable {σ}

theorem Violation.Spelled.kind {v w : Violation} (h : v.Spelled σ w) : v.kind = w.kind := by
  cases h <;> rfl

theorem Log.Spelled.push {log log' : Log} (h : log.Spelled σ log') {e e' : LogEvent}
    (he : e.Spelled σ e') : Log.Spelled σ (log.push e) (log'.push e') := by
  unfold Log.Spelled at *
  rw [Array.toList_push, Array.toList_push]
  exact List.rel_append h (.cons he .nil)

/-! ## Scopes -/

namespace LocalScope.Spelled

variable {s s' : LocalScope}

theorem push (h : s.Spelled σ s') : s.push.Spelled σ s'.push :=
  ⟨h.visible, congrArg (· + 1) h.depth, h.hidden⟩

theorem restore (depth : Nat) {visible visible' : NameTable LocalVar}
    (hv : visible.Paired σ (LocalVar.Spelled σ) visible') {hs hs' : List Hidden}
    (hh : List.Forall₂ (Hidden.Spelled σ) hs hs') :
    (LocalScope.restore depth visible hs).Spelled σ (LocalScope.restore depth visible' hs') := by
  induction hh generalizing visible visible' with
  | nil => exact ⟨hv, rfl, .nil⟩
  | @cons a a' as as' ha has ih =>
    unfold LocalScope.restore
    rw [ha.block]
    split
    · exact ih (hv.insert (ha.var.name ▸ σ.refl _) ha.var)
    · exact ⟨hv, rfl, .cons ha has⟩

theorem pop (h : s.Spelled σ s') : s.pop.Spelled σ s'.pop := by
  unfold LocalScope.pop
  rw [h.depth]
  exact restore _ (h.visible.filter (p := fun v => v.depth < s'.depth)
    (q := fun v => v.depth < s'.depth) fun hv => by rw [hv.depth]) h.hidden

theorem lookup? (h : s.Spelled σ s') {n n' : String} (hn : sameName n n' = true) :
    Option.Rel (LocalVar.Spelled σ) (s.lookup? n) (s'.lookup? n') :=
  h.visible.get? hn

end LocalScope.Spelled

/-! ## Computations -/

namespace Check.Like

variable {α β γ δ : Type} {Q : α → β → Prop} {S : γ → δ → Prop}

theorem pure {a : α} {b : β} (h : Q a b) : Like σ Q (Pure.pure a) (Pure.pure b) :=
  fun _ _ hs => ⟨h, hs⟩

theorem bind {x : Check α} {y : Check β} {f : α → Check γ} {g : β → Check δ} (h : Like σ Q x y)
    (next : ∀ a b, Q a b → Like σ S (f a) (g b)) : Like σ S (x >>= f) (y >>= g) := by
  intro s s' hs
  have hxy := h s s' hs
  exact next _ _ hxy.1 _ _ hxy.2

/-- One computation after the other. -/
theorem seq {x : Check Unit} {y : Check Unit} {f : Check γ} {g : Check δ}
    (h : Like σ (fun _ _ => True) x y) (next : Like σ S f g) :
    Like σ S (do x; f) (do y; g) :=
  h.bind fun _ _ _ => next

theorem get : Like σ (CheckState.Spelled σ) MonadState.get MonadState.get := fun _ _ hs => ⟨hs, hs⟩

theorem report {v w : Violation} (h : v.Spelled σ w) (span : Span) :
    Like σ (fun _ _ => True) (Check.report v span) (Check.report w span) :=
  fun _ _ hs => ⟨trivial, hs.scope, hs.loopDepth,
    List.rel_append hs.errors (.cons ⟨h, rfl⟩ .nil), hs.log⟩

theorem log {e e' : LogEvent} (h : e.Spelled σ e') :
    Like σ (fun _ _ => True) (Check.log e) (Check.log e') :=
  fun _ _ hs => ⟨trivial, hs.scope, hs.loopDepth, hs.errors, hs.log.push h⟩

theorem declare (name : String) {type type' : Option DataType}
    (ht : Option.Rel (DataType.Spelled σ) type type') (span : Span) :
    Like σ (fun _ _ => True) (Check.declare name type span) (Check.declare name type' span) := by
  intro s s' hs
  refine ⟨trivial, ?_⟩
  obtain ⟨hscope, hloop, herrors, hlog⟩ := hs
  have visible : (s.scope.visible.insert name ⟨name, type, s.scope.depth, span⟩).Paired σ
      (LocalVar.Spelled σ) (s'.scope.visible.insert name ⟨name, type', s'.scope.depth, span⟩) :=
    hscope.visible.insert (σ.refl _) ⟨rfl, ht, hscope.depth, rfl⟩
  have hl := hscope.lookup? (sameName_self name)
  rw [Check.declare_run, Check.declare_run]
  unfold LocalScope.declare
  dsimp only
  generalize s.scope.lookup? name = x, s'.scope.lookup? name = y at hl
  cases hl with
  | none => exact ⟨⟨visible, hscope.depth, hscope.hidden⟩, hloop, herrors, hlog⟩
  | @some v w hv =>
    dsimp only
    rw [hscope.depth] at visible ⊢
    rw [hv.depth]
    by_cases hd : w.depth = s'.scope.depth
    · rw [if_pos hd, if_pos hd]
      exact ⟨hscope, hloop, List.rel_append herrors (.cons ⟨.redeclared name, rfl⟩ .nil), hlog⟩
    · rw [if_neg hd, if_neg hd]
      exact ⟨⟨visible, rfl, .cons ⟨rfl, hv⟩ hscope.hidden⟩, hloop, herrors, hlog⟩

theorem inBlock {x y : Check Unit} (h : Like σ (fun _ _ => True) x y) :
    Like σ (fun _ _ => True) (Check.inBlock x) (Check.inBlock y) := by
  have scope : ∀ f : LocalScope → LocalScope, (∀ s s', s.Spelled σ s' → (f s).Spelled σ (f s')) →
      Like σ (fun _ _ => True) (Check.modifyScope f) (Check.modifyScope f) :=
    fun f hf s s' hs => ⟨trivial, hf _ _ hs.scope, hs.loopDepth, hs.errors, hs.log⟩
  exact (scope _ fun _ _ => LocalScope.Spelled.push).seq
    (h.seq (scope _ fun _ _ => LocalScope.Spelled.pop))

theorem inLoop {x y : Check Unit} (h : Like σ (fun _ _ => True) x y) :
    Like σ (fun _ _ => True) (Check.inLoop x) (Check.inLoop y) := by
  have depth : ∀ f : Nat → Nat, Like σ (fun _ _ => True)
      (modifyThe CheckState fun s => { s with loopDepth := f s.loopDepth })
      (modifyThe CheckState fun s => { s with loopDepth := f s.loopDepth }) :=
    fun f s s' hs => ⟨trivial, hs.scope, congrArg f hs.loopDepth, hs.errors, hs.log⟩
  exact (depth (· + 1)).seq (h.seq (depth (· - 1)))

theorem inMethod {x y : Check Unit} (h : Like σ (fun _ _ => True) x y) :
    Like σ (fun _ _ => True) (Check.inMethod x) (Check.inMethod y) :=
  fun _ _ hs => h _ _ ⟨⟨.empty, rfl, .nil⟩, rfl, hs.errors, hs.log⟩

theorem forM {f : α → Check Unit} {g : β → Check Unit} {as : List α} {bs : List β}
    (h : List.Forall₂ Q as bs) (hfg : ∀ {a b}, Q a b → Like σ (fun _ _ => True) (f a) (g b)) :
    Like σ (fun _ _ => True) (as.forM f) (bs.forM g) := by
  induction h with
  | nil => exact .pure trivial
  | cons hab _ ih => exact (hfg hab).seq ih

end Check.Like

/-! ## Exact spelling -/

theorem Violation.Spelled.refl : ∀ v : Violation, v.Spelled σ v
  | .conditionNotBoolean _ => .conditionNotBoolean (.refl _)
  | .returnMismatch _ _ => .returnMismatch (.refl _) (.refl _)
  | .typeMismatch _ _ => .typeMismatch (.refl _) (.refl _)
  | .mustBeInteger _ => .mustBeInteger (.refl _)
  | .mustBeNumeric _ => .mustBeNumeric (.refl _)
  | .mustBeAddable _ => .mustBeAddable (.refl _)
  | .mustBeBoolean _ => .mustBeBoolean (.refl _)
  | .listKey _ => .listKey (.refl _)
  | .mapKey _ => .mapKey (.refl _)
  | .notIndexable _ => .notIndexable (.refl _)
  | .notIterable _ => .notIterable (.refl _)
  | .breakOutsideLoop => .breakOutsideLoop
  | .continueOutsideLoop => .continueOutsideLoop
  | .methodNotPublic v => .methodNotPublic v
  | .undefined role _ => .undefined role (σ.refl _)
  | .wrongArity _ expected got => .wrongArity expected got (σ.refl _)
  | .staticContext _ => .staticContext (σ.refl _)
  | .redeclared n => .redeclared n
  | .notAssignable => .notAssignable

theorem Violation.Spelled.eq {v w : Violation} (h : v.Spelled .exact w) : v = w := by
  cases h with
  | conditionNotBoolean h | mustBeInteger h | mustBeNumeric h | mustBeAddable h | mustBeBoolean h
  | listKey h | mapKey h | notIndexable h | notIterable h => rw [h.eq]
  | returnMismatch h k | typeMismatch h k => rw [h.eq, k.eq]
  | undefined _ h | wrongArity _ _ h | staticContext h =>
    cases h
    rfl
  | breakOutsideLoop | continueOutsideLoop | methodNotPublic _ | redeclared _ | notAssignable => rfl

theorem LogEvent.Spelled.eq {e e' : LogEvent} (h : e.Spelled .exact e') : e = e' := by
  cases h with
  | refl => rfl
  | overloadFallback _ h | running _ h =>
    cases h
    rfl

theorem LocalVar.Spelled.refl (v : LocalVar) : v.Spelled σ v :=
  ⟨rfl, rel_refl DataType.Spelled.refl _, rfl, rfl⟩

theorem LocalVar.Spelled.eq {v w : LocalVar} (h : v.Spelled .exact w) : v = w := by
  obtain ⟨name, type, depth, span⟩ := v
  obtain ⟨name', type', depth', span'⟩ := w
  obtain ⟨rfl, ht, rfl, rfl⟩ := h
  rw [show type = type' from rel_eq ht DataType.Spelled.eq]

namespace CheckState.Spelled

theorem refl (s : CheckState) : s.Spelled σ s :=
  ⟨⟨.refl LocalVar.Spelled.refl _, rfl, List.forall₂_same.2 fun _ _ => ⟨rfl, .refl _⟩⟩, rfl,
    List.forall₂_same.2 fun _ _ => ⟨.refl _, rfl⟩, List.forall₂_same.2 fun _ _ => .refl _⟩

theorem eq {s s' : CheckState} (h : s.Spelled .exact s') : s = s' := by
  obtain ⟨⟨visible, depth, hidden⟩, loopDepth, errors, log⟩ := s
  obtain ⟨⟨visible', depth', hidden'⟩, loopDepth', errors', log'⟩ := s'
  obtain ⟨⟨hv, rfl, hh⟩, rfl, he, hl⟩ := h
  have visible : visible = visible' := hv.eq LocalVar.Spelled.eq
  have hidden : hidden = hidden' := forall₂_eq hh fun {a b} h => by
    obtain ⟨block, var⟩ := a
    obtain ⟨block', var'⟩ := b
    obtain ⟨rfl, hvar⟩ := h
    rw [show var = var' from hvar.eq]
  have errors : errors = errors' := forall₂_eq he fun {a b} h => by
    obtain ⟨v, span⟩ := a
    obtain ⟨w, span'⟩ := b
    obtain ⟨hv, rfl⟩ := h
    rw [show v = w from hv.eq]
  have log : log = log' := Array.toList_inj.1 (forall₂_eq hl LogEvent.Spelled.eq)
  rw [visible, hidden, errors, log]

end CheckState.Spelled

/-- Computations that report exactly alike are the same. -/
theorem Check.Like.eq {α : Type} {Q : α → α → Prop} {x y : Check α} (h : Like .exact Q x y)
    (hQ : ∀ {a b}, Q a b → a = b) : x = y := by
  funext s
  obtain ⟨hresult, hstate⟩ := h s s (.refl s)
  exact Prod.ext (hQ hresult) hstate.eq

end ClassScript
