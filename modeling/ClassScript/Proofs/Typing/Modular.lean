import ClassScript.Proofs.Order.Checking
import ClassScript.Proofs.Typing.Signature

/-!
# Checking is modular

`ClassTable.outline`: the table without the statements of method bodies and without the expressions
of initializers. What stays is which methods have a body of which kind, which fields have an
initializer, and all names, types, modifiers and signatures. Two tables with one outline have
classes that look alike (`ClassInfo.like_of_outline`), so a class is checked in the same way in
both: what other classes do inside does not matter.

Main statement: `checking_is_modular`.
-/

namespace ClassScript

/-! ## Outlines -/

/-- A body without its statements. -/
def MethodBody.outline : MethodBody → MethodBody
  | .script _ => .script []
  | .native method => .native method
  | .abstract => .abstract

/-- A method without the statements of its body. -/
def MethodInfo.outline (m : MethodInfo) : MethodInfo := { m with body := m.body.outline }

/-- A field whose initializer, if it has one, is a constant. -/
def FieldInfo.outline (f : FieldInfo) : FieldInfo :=
  { f with init := f.init.map fun _ => .literal .null .unknown }

namespace ClassInfo

mutual

/-- A class and its inner classes, without what is inside bodies and initializers. -/
def outline : ClassInfo → ClassInfo
  | ⟨name, outer, modifiers, annotations, superclass, interfaces, typeParams, instanceFields,
      staticFields, instanceMethods, staticMethods, constructors, inner, span⟩ =>
    ⟨name, outer, modifiers, annotations, superclass, interfaces, typeParams,
      instanceFields.map FieldInfo.outline, staticFields.map FieldInfo.outline,
      instanceMethods.map (List.map MethodInfo.outline),
      staticMethods.map (List.map MethodInfo.outline), constructors.map MethodInfo.outline,
      outlines inner, span⟩

/-- Classes without what is inside bodies and initializers. -/
def outlines : List ClassInfo → List ClassInfo
  | [] => []
  | c :: cs => outline c :: outlines cs

end

theorem outlines_append : ∀ (cs ds : List ClassInfo),
    outlines (cs ++ ds) = outlines cs ++ outlines ds
  | [], _ => rfl
  | c :: cs, ds => congrArg (outline c :: ·) (outlines_append cs ds)

end ClassInfo

/-- A table without what is inside bodies and initializers. -/
def ClassTable.outline (t : ClassTable) : ClassTable := ⟨ClassInfo.outlines t.classes⟩

/-! ## Classes of one outline -/

theorem MethodInfo.likeAll_of_outline {ms ns : List MethodInfo}
    (h : ms.map outline = ns.map outline) : MethodInfo.LikeAll .outlined ms ns := by
  refine forall₂_of_map_eq (fun {m n} hm => ?_) h
  have signatures : m.outline.signature = n.outline.signature := congrArg signature hm
  exact like_of_signature signatures

theorem FieldInfo.like_of_outline {f g : FieldInfo} (h : f.outline = g.outline) :
    f.Like .outlined g := by
  obtain ⟨name, type, modifiers, init, span⟩ := f
  obtain ⟨name', type', modifiers', init', span'⟩ := g
  simp only [outline, FieldInfo.mk.injEq] at h
  obtain ⟨rfl, rfl, rfl, -, rfl⟩ := h
  exact ⟨rfl, .refl _, rfl, trivial, rfl⟩

namespace ClassInfo

mutual

/-- Classes of one outline look alike. -/
theorem like_of_outline : ∀ {c d : ClassInfo}, c.outline = d.outline → c.Like .outlined d
  | ⟨_, _, _, _, _, _, _, _, _, _, _, _, _, _⟩, ⟨_, _, _, _, _, _, _, _, _, _, _, _, _, _⟩, h => by
    simp only [outline, ClassInfo.mk.injEq] at h
    obtain ⟨rfl, rfl, rfl, rfl, rfl, rfl, rfl, hif, hsf, him, hsm, hk, hinner, rfl⟩ := h
    exact .intro {
      ClassInfo.LikeOwn.refl (fun _ => trivial) (fun _ => trivial) _ with
      instanceFields := NameTable.paired_of_map_eq FieldInfo.like_of_outline hif
      staticFields := NameTable.paired_of_map_eq FieldInfo.like_of_outline hsf
      instanceMethods := NameTable.paired_of_map_eq MethodInfo.likeAll_of_outline him
      staticMethods := NameTable.paired_of_map_eq MethodInfo.likeAll_of_outline hsm
      constructors := MethodInfo.likeAll_of_outline hk } (likeAll_of_outlines hinner)

theorem likeAll_of_outlines : ∀ {cs ds : List ClassInfo}, outlines cs = outlines ds →
    List.Forall₂ (ClassInfo.Like .outlined) cs ds
  | [], [], _ => .nil
  | c :: cs, d :: ds, h => by
    simp only [outlines, List.cons.injEq] at h
    exact .cons (like_of_outline h.1) (likeAll_of_outlines h.2)

end

end ClassInfo

namespace Typing

/-- **Checking is modular.** In tables that differ only inside method bodies and initializers, every
class reports the same errors: it is checked by the same computation. So a class depends on others
only through their declared names, types, modifiers and signatures. -/
theorem checking_is_modular {t t' : ClassTable} (h : t.outline = t'.outline) (c : ClassInfo) :
    classErrors t c = classErrors t' c ∧ checkClass t c = checkClass t' c := by
  have alike : t.Like .outlined t' :=
    .of_classes (ClassInfo.likeAll_of_outlines (congrArg ClassTable.classes h))
  have same := checkClass_outlined alike c
  exact ⟨congrArg (fun x : Check Unit => (x {}).2.errors) same, same⟩

/-- A class with a field that is initialized and a method. -/
def ledger (opening : Expr) (body : List Stmt) : ClassInfo :=
  { ClassInfo.blank "Ledger" .none with
    staticFields := .insert .empty "total" ⟨"total", .integer, .static, some opening, .unknown⟩
    staticMethods := .insert .empty "tally"
      [⟨"tally", .static, some .integer, [], .script body, .unknown⟩] }

/-- A class that uses `Ledger`: `String s = Ledger.tally(); Ledger.total = 'x'; Ledger.close();` -/
def auditor : ClassInfo :=
  { ClassInfo.blank "Auditor" .none with
    staticMethods := .insert .empty "audit"
      [⟨"audit", .static, none, [], .script body, .unknown⟩] }
where
  ledgerName : Expr := .name ⟨"Ledger", .unknown⟩
  body : List Stmt := [
    .declare ⟨⟨⟨"String", .unknown⟩, [], .unknown⟩, [⟨⟨"s", .unknown⟩,
      some (.callOn ledgerName ⟨"tally", .unknown⟩ [] .unknown), .unknown⟩], .unknown⟩,
    .expr (.assign .set (.member ledgerName ⟨"total", .unknown⟩ .unknown)
      (.literal (.string "x") .unknown) .unknown) .unknown,
    .expr (.callOn ledgerName ⟨"close", .unknown⟩ [] .unknown) .unknown]

def auditedTable (opening : Expr) (body : List Stmt) : ClassTable :=
  (ClassTable.initial.add (ledger opening body)).add auditor

/-- Two versions of `Ledger`, the second with errors of its own. -/
def soundBooks : ClassTable :=
  auditedTable (.literal (.integer 0) .unknown)
    [.ret (some (.name ⟨"total", .unknown⟩)) .unknown]

def cookedBooks : ClassTable :=
  auditedTable (.name ⟨"nowhere", .unknown⟩) [.brk .unknown]

/-- The errors of `Auditor`, three of them, do not change with what `Ledger` does inside. -/
theorem auditor_checked_alike :
    soundBooks.outline = cookedBooks.outline ∧ (classErrors soundBooks auditor).length = 3 ∧
      classErrors cookedBooks auditor = classErrors soundBooks auditor := by
  have h : soundBooks.outline = cookedBooks.outline := by
    simp only [soundBooks, cookedBooks, auditedTable, ClassTable.outline, ClassTable.add,
      ClassInfo.outlines_append]
    rfl
  exact ⟨h, by decide +kernel, (checking_is_modular h auditor).1.symm⟩

end Typing

end ClassScript
