import ClassScript.Proofs.Engine.History
import ClassScript.Proofs.Spelling.Runs

/-!
# Programs that spell their references differently

Two engines are used in the same way, with declarations and entry points in which references differ
in the case of ASCII letters (`Engine.Command.Respelled`). They stay alike (`Engine.Twin`): they
reject the same declarations, report the same kinds of errors at the same places, and runs write the
same and end with the same text or the same kind of failure.

This needs a query service that returns complete rows (`QueryService.Regular`). The record of a row
that lacks a declared column lacks the field; an assignment then makes the field, in the spelling of
the assignment, and the record shows it. The fields of an instance of any other class are made when
it is, as they are declared.

Main statements: `Engine.references_ignore_case` and `Engine.missing_column_shows_case`.
-/

namespace ClassScript

/-! ## Entry points -/

namespace EntryPoint

/-- A letter in upper case, or a character that stands for itself. -/
theorem toLower_cases (c : Char) :
    c.toLower = c ∨ 65 ≤ c.toNat ∧ c.toNat ≤ 90 ∧ c.toLower.toNat = c.toNat + 32 := by
  unfold Char.toLower
  split
  · rename_i hc
    obtain ⟨h1, h2⟩ := hc
    simp only [ge_iff_le, UInt32.le_iff_toNat_le] at h1 h2
    refine .inr ⟨h1, h2, ?_⟩
    simp only [Char.toNat, UInt32.toNat_add]
    simp at h1 h2 ⊢
    omega
  · exact .inl rfl

/-- What lower case keeps of characters that are no letters it keeps of all. -/
theorem toLower_keeps {p : Nat → Bool} (hp : ∀ n, 65 ≤ n → n ≤ 122 → p n = false) (c : Char) :
    p c.toLower.toNat = p c.toNat := by
  rcases toLower_cases c with h | ⟨h1, h2, h⟩
  · rw [h]
  · rw [h, hp _ (by omega) (by omega), hp _ h1 (by omega)]

/-- Characters that differ in case at most. -/
def SameLetter (a b : Char) : Prop := a.toLower = b.toLower

theorem SameLetter.keeps {p : Nat → Bool} (hp : ∀ n, 65 ≤ n → n ≤ 122 → p n = false) {a b : Char}
    (h : SameLetter a b) : p a.toNat = p b.toNat := by
  rw [← toLower_keeps hp a, ← toLower_keeps hp b, h]

theorem SameLetter.isBlank {a b : Char} (h : SameLetter a b) : Text.isBlank a = Text.isBlank b := by
  refine h.keeps (p := Text.inRanges Text.blankRanges) fun n h1 h2 => ?_
  rw [Bool.eq_false_iff]
  intro hb
  obtain ⟨r, hr, h3, h4⟩ := Text.inRanges_eq_true_iff.1 hb
  simp only [Text.blankRanges, List.mem_cons, List.not_mem_nil, or_false] at hr
  rcases hr with rfl | rfl | rfl | rfl | rfl | rfl | rfl | rfl | rfl | rfl <;>
    simp at h3 h4 <;> omega

theorem SameLetter.isMark {a b : Char} (h : SameLetter a b) : (a == '#') = (b == '#') := by
  have hmark : ∀ c : Char, (c == '#') = (c.toNat == 35) := by
    intro c
    rw [Bool.eq_iff_iff, beq_iff_eq, beq_iff_eq]
    exact ⟨fun hc => hc ▸ rfl, fun hc => Char.toNat_inj.1 hc⟩
  rw [hmark, hmark]
  exact h.keeps (p := (· == 35)) fun n h1 _ => by simp; omega

/-- Spellings of one text. -/
abbrev SameLetters : List Char → List Char → Prop := List.Forall₂ SameLetter

theorem sameLetters_iff {cs ds : List Char} :
    SameLetters cs ds ↔ cs.map Char.toLower = ds.map Char.toLower := by
  rw [← List.forall₂_eq_eq_eq, List.forall₂_map_left_iff, List.forall₂_map_right_iff]
  rfl

theorem sameName_ofList {cs ds : List Char} (h : SameLetters cs ds) :
    sameName (String.ofList cs) (String.ofList ds) = true := by
  rw [sameName_iff, foldName, foldName, String.toList_ofList, String.toList_ofList]
  exact sameLetters_iff.1 h

theorem dropBlanks_same {cs ds : List Char} (h : SameLetters cs ds) :
    SameLetters (cs.dropWhile Text.isBlank) (ds.dropWhile Text.isBlank) := by
  induction h with
  | nil => exact .nil
  | cons hc hs ih =>
    rw [List.dropWhile_cons, List.dropWhile_cons, hc.isBlank]
    split
    · exact ih
    · exact .cons hc hs

theorem trimChars_same {cs ds : List Char} (h : SameLetters cs ds) :
    SameLetters (Text.trimChars cs) (Text.trimChars ds) :=
  List.rel_reverse (dropBlanks_same (List.rel_reverse (dropBlanks_same h)))

theorem splitMark_same {cs ds : List Char} (h : SameLetters cs ds) :
    SameLetters (splitMark cs).1 (splitMark ds).1 ∧
      Option.Rel SameLetters (splitMark cs).2 (splitMark ds).2 := by
  induction h with
  | nil => exact ⟨.nil, .none⟩
  | @cons c d _ _ hc hs ih =>
    have hm : c = '#' ↔ d = '#' := by
      rw [← beq_iff_eq (a := c), ← beq_iff_eq (a := d), hc.isMark]
    unfold splitMark
    by_cases hd : d = '#'
    · rw [if_pos (hm.2 hd), if_pos hd]
      exact ⟨.nil, .some hs⟩
    · rw [if_neg (mt hm.1 hd), if_neg hd]
      exact ⟨.cons hc ih.1, ih.2⟩

/-- Spellings of one entry point. -/
structure Same (p q : EntryPoint) : Prop where
  cls : sameName p.cls q.cls = true
  method : sameName p.method q.method = true

/-- Spellings of one text are read as one entry point, or both are refused. -/
theorem parse_same {entry entry' : String} (h : sameName entry entry' = true) (method : String) :
    match parse entry method, parse entry' method with
    | .ok p, .ok q => p.Same q
    | .error e, .error e' => e.kind = e'.kind
    | _, _ => False := by
  have hsplit := splitMark_same (sameLetters_iff.2 (sameName_iff.1 h))
  unfold parse
  generalize splitMark entry.toList = parts, splitMark entry'.toList = parts' at hsplit
  obtain ⟨before, after⟩ := parts
  obtain ⟨before', after'⟩ := parts'
  obtain ⟨hbefore, hafter⟩ := hsplit
  have hrest : SameLetters (after.getD []) (after'.getD []) := by
    cases hafter with
    | none => exact .nil
    | some h => exact h
  have hcls := trimChars_same hbefore
  have hmethod := trimChars_same hrest
  have hmarks : (after.getD []).contains '#' = (after'.getD []).contains '#' := by
    rw [List.contains_eq_any_beq, List.contains_eq_any_beq]
    exact any_paired hrest fun hc => by rw [Bool.beq_comm, hc.isMark, Bool.beq_comm]
  dsimp only
  rw [hmarks, isEmpty_paired hcls, isEmpty_paired hmethod]
  generalize ((after'.getD []).contains '#' || (Text.trimChars before').isEmpty) = refused
  cases refused with
  | true => rfl
  | false =>
    refine ⟨sameName_ofList hcls, ?_⟩
    dsimp only
    split
    · exact sameName_self _
    · exact sameName_ofList hmethod

end EntryPoint

/-! ## What runs are given -/

/-- A built-in class without fields is its own counterpart. -/
theorem ClassInfo.BareTwin.builtin {τ : Tie} {c : ClassInfo} (hc : c ∈ ClassTable.initial.classes)
    (hs : c.superclass = none) (hf : c.instanceFields = .empty) : c.BareTwin τ c :=
  ⟨⟨.spelled_refl c, ClassTable.initial_named c hc⟩, bare_of_own hs hf⟩

/-- Runs over twin tables that have the built-in classes are tied. -/
theorem Env.make_tied {σ : Spelling} {t t' : ClassTable} (ht : t.Twins σ t')
    (hi : ClassTable.initial.Extends t) (hi' : ClassTable.initial.Extends t')
    {query : Option QueryService} (hquery : ∀ s, query = some s → s.Regular)
    (credentials : Credentials) (today : Date) (maxDepth : Nat) :
    ∃ env env', Env.make t query credentials today maxDepth = .ok env ∧
      Env.make t' query credentials today maxDepth = .ok env' ∧ env.Tied ⟨σ, t, []⟩ env' := by
  unfold Env.make
  rw [Primitives.ofTable_extends hi Primitives.ofTable_initial,
    Primitives.ofTable_extends hi' Primitives.ofTable_initial]
  have hdate : ClassTable.initial.resolve? "Date" = some Builtin.dateClass := rfl
  have hrecord : ClassTable.initial.get? Builtin.recordName = some Builtin.recordClass := rfl
  refine ⟨_, _, rfl, rfl, ?_, rfl⟩
  exact {
    first := rfl
    classes := ht
    integer := .builtin (by simp [ClassTable.initial, Builtin.primitives]) rfl rfl
    double := .builtin (by simp [ClassTable.initial, Builtin.primitives]) rfl rfl
    string := .builtin (by simp [ClassTable.initial, Builtin.primitives]) rfl rfl
    boolean := .builtin (by simp [ClassTable.initial, Builtin.primitives]) rfl rfl
    list := .builtin (by simp [ClassTable.initial, Builtin.primitives]) rfl rfl
    date := fun c hc => by
      obtain rfl := Option.some.inj ((hi.resolve? hdate).symm.trans hc)
      exact ClassInfo.bare_of_own rfl rfl
    record := fun c hc => Option.some.inj (hc.symm.trans (hi.get? hrecord))
    query := rfl
    service := hquery
    credentials := rfl
    today := rfl }

/-! ## Engines -/

/-- The kind of failure, if it is one of the program. -/
def Halt.kind? : Halt → Option String
  | .fault error => some error.kind
  | .outOfFuel => none

/-- What a run ends with, as a user sees it: the text of its value, or the kind of its failure. -/
def Outcome.verdict (out : Outcome) : Except (Option String) (Option String) :=
  match out.result with
  | .ok value => .ok (value.map out.world.heap.display)
  | .error halt => .error halt.kind?

theorem Halt.Alike.kind? {r r' : Halt} (h : r.Alike r') : r.kind? = r'.kind? := by
  cases h with
  | fault h => exact congrArg some h
  | outOfFuel => rfl

namespace Engine

/-- Two calls that differ in the case of references at most. Only regular query services are set. -/
inductive Command.Respelled : Command → Command → Prop
  | register {decls decls' : List ClassDecl} :
      List.Forall₂ (ClassDecl.Spelled .anyCase) decls decls' →
      Command.Respelled (.register decls) (.register decls')
  | check : Command.Respelled .check .check
  | run {entry entry' : String} (today : Date) (fuel : Nat) (sink : Sink) :
      sameName entry entry' = true →
      Command.Respelled (.run today fuel entry sink) (.run today fuel entry' sink)
  | execute {decls decls' : List ClassDecl} {entry entry' : String} (today : Date) (fuel : Nat)
      (sink : Sink) : List.Forall₂ (ClassDecl.Spelled .anyCase) decls decls' →
      sameName entry entry' = true →
      Command.Respelled (.execute decls today fuel entry sink)
        (.execute decls' today fuel entry' sink)
  | setQueryService {service : QueryService} : service.Regular →
      Command.Respelled (.setQueryService service) (.setQueryService service)

/-- Engines that were used alike (module doc). -/
structure Twin (e e' : Engine) : Prop where
  config : e.config = e'.config
  classes : e.classes.Twins .anyCase e'.classes
  first : ClassTable.initial.Extends e.classes
  second : ClassTable.initial.Extends e'.classes
  query : e.query = e'.query
  service : ∀ s, e.query = some s → s.Regular
  checked : e.checked = e'.checked

namespace Twin

theorem make (config : EngineConfig) : (Engine.make config).Twin (Engine.make config) where
  config := rfl
  classes := .refl ClassTable.initial_named
  first := List.prefix_rfl
  second := List.prefix_rfl
  query := rfl
  service := nofun
  checked := rfl

variable {e e' : Engine} (h : e.Twin e')
include h

/-! ### Registration -/

section

variable {decls decls' : List ClassDecl}
  (hd : List.Forall₂ (ClassDecl.Spelled .anyCase) decls decls')
include hd

theorem registration : Registration.Outcome.Like (σ := .anyCase) (e.register decls).1
    (e'.register decls').1 :=
  Registration.registerAll_like hd h.classes.classes

theorem register : (e.register decls).2.Twin (e'.register decls').2 where
  config := h.config
  classes := Registration.registerAll_twins hd h.classes
  first := h.first.trans (Registration.registerAll_extends e.classes decls)
  second := h.second.trans (Registration.registerAll_extends e'.classes decls')
  query := h.query
  service := h.service
  checked := rfl

end

/-! ### Checking -/

theorem check_errors : List.Forall₂ (CheckError.Spelled .anyCase) e.check.1 e'.check.1 :=
  Typing.checkTable_like h.classes.classes

theorem check : e.check.2.Twin e'.check.2 where
  config := h.config
  classes := h.classes
  first := h.first
  second := h.second
  query := h.query
  service := h.service
  checked := isEmpty_paired h.check_errors

/-! ### Running -/

theorem run (today : Date) (fuel : Nat) (entry entry' : String) (sink : Sink) :
    (e.run today fuel entry sink).2.Twin (e'.run today fuel entry' sink).2 :=
  ⟨h.config, h.classes, h.first, h.second, h.query, h.service, h.checked⟩

omit h in
/-- Flushing shows the same where the sinks are the same. -/
theorem flushed_shows {w w' : World} {x y : Except Halt (Option Value)} (hs : w.sink = w'.sink)
    (hv : (Outcome.mk x w).verdict = (Outcome.mk y w').verdict) :
    (flushed w x).world.sink = (flushed w' y).world.sink ∧
      (flushed w x).verdict = (flushed w' y).verdict := by
  obtain ⟨heap, sink, log⟩ := w
  obtain ⟨heap', sink', log'⟩ := w'
  obtain rfl : sink = sink' := hs
  unfold flushed
  dsimp only
  cases sink.flush with
  | mk message sink =>
    cases message with
    | none => exact ⟨rfl, hv⟩
    | some message => exact ⟨rfl, rfl⟩

omit h in
/-- A run of tied environments shows the same. -/
theorem runMethod_shows {τ : Tie} {env env' : Env} (henv : env.Tied τ env') (ht : τ.held = [])
    (fuel : Nat) {p q : EntryPoint} (hp : p.Same q) (sink : Sink) :
    (runMethod env fuel p sink).world.sink = (runMethod env' fuel q sink).world.sink ∧
      (runMethod env fuel p sink).verdict = (runMethod env' fuel q sink).verdict := by
  obtain ⟨σ, t, held⟩ := τ
  obtain rfl : held = [] := ht
  have hr := Machine.runEntry_tied henv fuel hp.cls hp.method _ _ (Machine.start_tied σ t sink)
  unfold runMethod
  generalize Machine.runEntry env fuel p.cls p.method (.start sink) = r,
    Machine.runEntry env' fuel q.cls q.method (.start sink) = r' at hr
  cases r <;> cases r'
  · obtain ⟨rfl, hm⟩ := hr
    refine flushed_shows hm.world.sink (congrArg Except.ok ?_)
    exact Option.map_congr fun v _ => hm.world.heap.display v
  · exact hr.elim
  · exact hr.elim
  · obtain ⟨halike, hm⟩ := hr
    exact flushed_shows hm.world.sink (congrArg Except.error halike.kind?)

theorem env_tied (today : Date) : ∃ env env', e.env today = .ok env ∧ e'.env today = .ok env' ∧
    env.Tied ⟨.anyCase, e.classes, []⟩ env' := by
  unfold Engine.env
  rw [← h.query, ← h.config]
  exact Env.make_tied h.classes h.first h.second h.service _ today _

theorem run_shows (today : Date) (fuel : Nat) {entry entry' : String}
    (hentry : sameName entry entry' = true) (sink : Sink) :
    (e.run today fuel entry sink).1.world.sink = (e'.run today fuel entry' sink).1.world.sink ∧
      (e.run today fuel entry sink).1.verdict = (e'.run today fuel entry' sink).1.verdict := by
  have hpoint := EntryPoint.parse_same hentry e'.config.entryMethod
  obtain ⟨env, env', henv, henv', htied⟩ := h.env_tied today
  rw [run_of_env henv, run_of_env henv', h.checked, h.config]
  by_cases hc : e'.checked
  · rw [if_pos hc, if_pos hc]
    generalize EntryPoint.parse entry e'.config.entryMethod = x,
      EntryPoint.parse entry' e'.config.entryMethod = y at hpoint
    cases x <;> cases y
    · exact ⟨rfl, congrArg (fun kind => Except.error (some kind)) hpoint⟩
    · exact hpoint.elim
    · exact hpoint.elim
    · exact runMethod_shows htied rfl fuel hpoint sink
  · rw [if_neg hc, if_neg hc]
    exact ⟨rfl, rfl⟩

/-! ### Histories -/

theorem execute {decls decls' : List ClassDecl}
    (hd : List.Forall₂ (ClassDecl.Spelled .anyCase) decls decls') (today : Date) (fuel : Nat)
    (entry entry' : String) (sink : Sink) :
    (e.execute decls today fuel entry sink).2.Twin (e'.execute decls' today fuel entry' sink).2 := by
  have registered := h.register hd
  have errors := (h.registration hd).errors
  have checked := registered.check
  have same := isEmpty_paired registered.check_errors
  unfold Engine.execute
  dsimp only
  rw [errors, same]
  split
  · exact registered
  · split
    · exact checked.run today fuel entry entry' sink
    · exact checked

theorem perform {command command' : Command} (hc : command.Respelled command') :
    (e.perform command).Twin (e'.perform command') := by
  cases hc with
  | register hd => exact h.register hd
  | check => exact h.check
  | run today fuel sink _ => exact h.run today fuel _ _ sink
  | execute today fuel sink hd _ => exact h.execute hd today fuel _ _ sink
  | setQueryService hs =>
    exact { h with query := rfl, service := fun s he => Option.some.inj he ▸ hs }

end Twin

/-- Histories that differ in the case of references leave engines that are alike. -/
theorem after_twin (config : EngineConfig) {commands commands' : List Command}
    (h : List.Forall₂ Command.Respelled commands commands') :
    (after config commands).Twin (after config commands') :=
  List.rel_foldl (R := Command.Respelled) (P := Engine.Twin) (fun _ _ he _ _ hc => he.perform hc)
    (.make config) h

/-- **References ignore case.** After any calls, and after the same calls with other ASCII case in
the references: a batch that is registered next is rejected for the same reasons, declaration by
declaration, and leaves classes of the same names; a check reports errors of the same kinds at the
same places in the same order; and a run writes the same output and ends with the same text or the
same kind of failure. -/
theorem references_ignore_case (config : EngineConfig) {commands commands' : List Command}
    (h : List.Forall₂ Command.Respelled commands commands') :
    let e := after config commands
    let e' := after config commands'
    (∀ decls decls', List.Forall₂ (ClassDecl.Spelled .anyCase) decls decls' →
      (e.register decls).1.errors = (e'.register decls').1.errors ∧
      (e.register decls).1.accepted = (e'.register decls').1.accepted ∧
      (e.register decls).1.table.classes.map ClassInfo.name =
        (e'.register decls').1.table.classes.map ClassInfo.name) ∧
    e.check.1.map (fun error => (error.kind, error.span)) =
      e'.check.1.map (fun error => (error.kind, error.span)) ∧
    ∀ (today : Date) (fuel : Nat) (entry entry' : String) (sink : Sink),
      sameName entry entry' = true →
      (e.run today fuel entry sink).1.world.sink = (e'.run today fuel entry' sink).1.world.sink ∧
      (e.run today fuel entry sink).1.verdict = (e'.run today fuel entry' sink).1.verdict := by
  intro e e'
  have twin : e.Twin e' := after_twin config h
  refine ⟨fun decls decls' hd => ?_, ?_, fun today fuel entry entry' sink hentry =>
    twin.run_shows today fuel hentry sink⟩
  · have hout := twin.registration hd
    refine ⟨hout.errors, hout.accepted, List.forall₂_eq_eq_eq ▸ ?_⟩
    exact List.rel_map (fun _ _ hc => ClassInfo.Like.name hc) hout.classes
  · refine List.forall₂_eq_eq_eq ▸ List.rel_map (fun _ _ he => ?_) twin.check_errors
    exact Prod.ext he.violation.kind he.span

/-! ### A field that a query did not return -/

/-- `Account acc = [...].get(0); acc.name = 'x'; return acc;` with the class, the field and the
local as they are spelled where they are used. -/
def setsNameBody (type field record : String) : List Stmt :=
  let ref (name : String) : Ident := ⟨name, .unknown⟩
  [.declare ⟨⟨ref type, [], .unknown⟩, [⟨ref "acc", some (.callOn
      (.query "SELECT Id FROM Account" .unknown) (ref "get") [.literal (.integer 0) .unknown]
      .unknown), .unknown⟩], .unknown⟩,
    .expr (.assign .set (.member (.name (ref "acc")) (ref field) .unknown)
      (.literal (.string "x") .unknown) .unknown) .unknown,
    .ret (some (.name (ref record))) .unknown]

/-- `class Main { static Account action() { ... } }` -/
def setsName (type field record : String) : ClassDecl :=
  ⟨.pub, [], ⟨"Main", .unknown⟩, none, [], [.method ⟨.union .pub .static,
    some ⟨⟨"Account", .unknown⟩, [], .unknown⟩, ⟨"action", .unknown⟩, [],
    some (setsNameBody type field record), .unknown⟩], .unknown⟩

theorem setsName_spelled {type type' field field' record record' : String}
    (ht : sameName type type' = true) (hf : sameName field field' = true)
    (hv : sameName record record' = true) :
    (setsName type field record).Spelled .anyCase (setsName type' field' record') := by
  have body : List.Forall₂ (Stmt.Spelled .anyCase) (setsNameBody type field record)
      (setsNameBody type' field' record') :=
    .cons (.declare ⟨.intro ⟨ht, rfl⟩ .nil, List.forall₂_same.2 fun v _ => .refl v, rfl⟩)
      (.cons (.expr (.assign (.member (.refl _) ⟨hf, rfl⟩) (.refl _)))
        (.cons (.ret (.some (.name ⟨hv, rfl⟩))) .nil))
  exact .intro .none .nil
    (.cons (.method ⟨rfl, rel_refl TypeRef.Spelled.refl _, rfl, .nil, .some body, rfl⟩) .nil)

/-- Settings with credentials for the query service. -/
def withCredentials : EngineConfig := { credentials := ⟨some "user", some "password", some "here"⟩ }

/-- A query service is set, the class is registered, and everything is checked. -/
def setsNameOver (rows : List QueryRow) (type field record : String) : List Command :=
  [.setQueryService (.inMemory rows), .register [setsName type field record], .check]

end Engine

theorem QueryService.inMemory_regular {rows : List QueryRow}
    (h : ∀ row ∈ rows, row.isComplete = true) : (inMemory rows).Regular := by
  have answered : ∀ credentials query log, (inMemory rows).answer credentials query log =
      credentials.require.map fun _ => rows := by
    intro credentials query log
    unfold answer inMemory
    dsimp only
    generalize credentials.require = parts
    cases parts <;> rfl
  refine ⟨fun _ _ _ _ => ?_, fun credentials query log answer ha => ?_⟩
  · rw [answered, answered]
  · rw [answered] at ha
    cases hc : credentials.require with
    | error e =>
      rw [hc] at ha
      cases ha
    | ok _ =>
      rw [hc] at ha
      cases ha
      exact h

namespace Engine

/-- With a name in the row, the spellings of the class, of its field and of the entry point do not
show. -/
theorem references_ignore_case_record :
    ((after withCredentials (setsNameOver [⟨"1", [("Name", "a")]⟩] "ACCOUNT" "NAME" "Acc")).run
      ⟨2024, 1, 1⟩ 10 "MAIN#Action" .unlimited).1.verdict =
      .ok (some "Account:\x7bId=1, Name=x\x7d") := by
  have rows : ∀ row ∈ [(⟨"1", [("Name", "a")]⟩ : QueryRow)], row.isComplete = true := by
    decide +kernel
  have respelled : List.Forall₂ Command.Respelled
      (setsNameOver [⟨"1", [("Name", "a")]⟩] "Account" "Name" "acc")
      (setsNameOver [⟨"1", [("Name", "a")]⟩] "ACCOUNT" "NAME" "Acc") :=
    .cons (.setQueryService (QueryService.inMemory_regular rows)) (.cons (.register (.cons
      (setsName_spelled (by decide +kernel) (by decide +kernel) (by decide +kernel)) .nil))
      (.cons .check .nil))
  refine ((references_ignore_case withCredentials respelled).2.2 ⟨2024, 1, 1⟩ 10 "Main#action"
    "MAIN#Action" .unlimited (by decide +kernel)).2.symm.trans ?_
  decide +kernel

/-- Without the column, the record gets its field from the assignment, and shows how the assignment
spells it. -/
theorem missing_column_shows_case :
    ¬ ∀ (config : EngineConfig) (service : QueryService) (decls decls' : List ClassDecl)
        (today : Date) (fuel : Nat) (entry entry' : String) (sink : Sink),
      List.Forall₂ (ClassDecl.Spelled .anyCase) decls decls' → sameName entry entry' = true →
      ((after config [.setQueryService service, .register decls, .check]).run today fuel entry
        sink).1.verdict =
      ((after config [.setQueryService service, .register decls', .check]).run today fuel entry'
        sink).1.verdict := by
  intro h
  have hsame := h withCredentials (.inMemory [⟨"1", []⟩]) [setsName "Account" "Name" "acc"]
    [setsName "Account" "NAME" "acc"] ⟨2024, 1, 1⟩ 10 "Main#action" "Main#action" .unlimited
    (.cons (setsName_spelled (sameName_self _) (by decide +kernel) (sameName_self _)) .nil)
    (sameName_self _)
  have hname : ((after withCredentials (setsNameOver [⟨"1", []⟩] "Account" "Name" "acc")).run
      ⟨2024, 1, 1⟩ 10 "Main#action" .unlimited).1.verdict =
      .ok (some "Account:\x7bId=1, Name=x\x7d") := by
    decide +kernel
  have hupper : ((after withCredentials (setsNameOver [⟨"1", []⟩] "Account" "NAME" "acc")).run
      ⟨2024, 1, 1⟩ 10 "Main#action" .unlimited).1.verdict =
      .ok (some "Account:\x7bId=1, NAME=x\x7d") := by
    decide +kernel
  have hshown := hname.symm.trans (hsame.trans hupper)
  exact absurd hshown (by decide)

end Engine

end ClassScript
