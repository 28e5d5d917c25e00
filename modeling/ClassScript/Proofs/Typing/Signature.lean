import ClassScript.Proofs.Spelling.CheckedClasses

/-!
# Signatures

The signature of a class is the class without the bodies of its methods. Classes of one signature
have the same names and types (`ClassTable.like_of_signature`), and checking a member asks nothing
else of the classes around it (`Typing.checkField_outlined`, `Typing.checkMethod_outlined`).
-/

namespace ClassScript

/-- A method without its body. -/
def MethodInfo.signature (m : MethodInfo) : MethodInfo := { m with body := .abstract }

/-- Methods without their bodies. -/
def MethodTable.signature (t : MethodTable) : MethodTable :=
  NameTable.map (List.map MethodInfo.signature) t

namespace ClassInfo

mutual

/-- A class without the bodies of its methods and those of its inner classes. -/
def signature : ClassInfo → ClassInfo
  | ⟨name, outer, modifiers, annotations, superclass, interfaces, typeParams, instanceFields,
      staticFields, instanceMethods, staticMethods, constructors, inner, span⟩ =>
    ⟨name, outer, modifiers, annotations, superclass, interfaces, typeParams, instanceFields,
      staticFields, instanceMethods.signature, staticMethods.signature,
      constructors.map MethodInfo.signature, signatures inner, span⟩

/-- Classes without the bodies of their methods. -/
def signatures : List ClassInfo → List ClassInfo
  | [] => []
  | c :: cs => signature c :: signatures cs

end

variable (c : ClassInfo)

@[simp] theorem signature_instanceFields : c.signature.instanceFields = c.instanceFields := by
  cases c
  rfl

@[simp] theorem signature_staticFields : c.signature.staticFields = c.staticFields := by
  cases c
  rfl

end ClassInfo

/-- A table without the bodies of methods. -/
def ClassTable.signature (t : ClassTable) : ClassTable := ⟨t.classes.map ClassInfo.signature⟩

/-! ## Classes of one signature -/

/-- Entries that are made equal are related, if values that are made equal are. -/
theorem NameTable.paired_of_map_eq {α β : Type} {σ : Spelling} {f : α → β} {R : α → α → Prop}
    (h : ∀ {a b}, f a = f b → R a b) {t t' : NameTable α} (heq : t.map f = t'.map f) :
    t.Paired σ R t' := by
  have he : t.entries.map (fun e => (e.1, f e.2)) = t'.entries.map (fun e => (e.1, f e.2)) :=
    congrArg (·.entries) heq
  refine forall₂_of_map_eq (fun {a b} hab => ?_) he
  rw [Prod.mk.injEq] at hab
  exact ⟨hab.1 ▸ σ.refl _, h hab.2⟩

theorem MethodInfo.like_of_signature {m n : MethodInfo} (h : m.signature = n.signature) :
    m.Like .outlined n := by
  obtain ⟨name, modifiers, returnType, params, body, span⟩ := m
  obtain ⟨name', modifiers', returnType', params', body', span'⟩ := n
  simp only [signature, MethodInfo.mk.injEq] at h
  obtain ⟨rfl, rfl, rfl, rfl, -, rfl⟩ := h
  exact ⟨rfl, rfl, rel_refl DataType.Spelled.refl _,
    List.forall₂_same.2 fun _ _ => ⟨rfl, .refl _⟩, trivial, rfl⟩

theorem MethodInfo.likeAll_of_signature {ms ns : List MethodInfo}
    (h : ms.map signature = ns.map signature) : MethodInfo.LikeAll .outlined ms ns :=
  forall₂_of_map_eq like_of_signature h

namespace ClassInfo

mutual

theorem like_of_signature : ∀ {c d : ClassInfo}, c.signature = d.signature → c.Like .outlined d
  | ⟨_, _, _, _, _, _, _, _, _, _, _, _, _, _⟩, ⟨_, _, _, _, _, _, _, _, _, _, _, _, _, _⟩, h => by
    simp only [signature, ClassInfo.mk.injEq] at h
    obtain ⟨rfl, rfl, rfl, rfl, rfl, rfl, rfl, rfl, rfl, him, hsm, hk, hinner, rfl⟩ := h
    exact .intro {
      ClassInfo.LikeOwn.refl (fun _ => trivial) (fun _ => trivial) _ with
      instanceMethods := NameTable.paired_of_map_eq MethodInfo.likeAll_of_signature him
      staticMethods := NameTable.paired_of_map_eq MethodInfo.likeAll_of_signature hsm
      constructors := MethodInfo.likeAll_of_signature hk } (likeAll_of_signatures hinner)

theorem likeAll_of_signatures : ∀ {cs ds : List ClassInfo}, signatures cs = signatures ds →
    List.Forall₂ (ClassInfo.Like .outlined) cs ds
  | [], [], _ => .nil
  | c :: cs, d :: ds, h => by
    simp only [signatures, List.cons.injEq] at h
    exact .cons (like_of_signature h.1) (likeAll_of_signatures h.2)

end

end ClassInfo

/-- Tables of one signature have the same names and types. -/
theorem ClassTable.like_of_signature {t t' : ClassTable} (h : t.signature = t'.signature) :
    t.Like .outlined t' :=
  .of_classes (forall₂_of_map_eq ClassInfo.like_of_signature (congrArg ClassTable.classes h))

end ClassScript
