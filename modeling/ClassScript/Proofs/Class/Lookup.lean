import ClassScript.Class.Builtin
import ClassScript.Proofs.NameTable
import ClassScript.Registration
import Mathlib.Data.List.Forall2

/-!
# Looking up classes

Look-up does not see the spelling of a name (`ClassTable.resolve?_congr`), and a class that is found
is found again in every table that has more classes (`ClassTable.Extends.resolve?`). Registration
only adds classes, so the built-in ones keep their names (`Registration.registerAll_extends`).
-/

namespace ClassScript

namespace ClassTable

/-! ## Spelling -/

theorem toLower_eq_dot {c : Char} (h : c.toLower = '.') : c = '.' := by
  unfold Char.toLower at h
  split at h
  · rename_i hc
    have hv := congrArg Char.toNat h
    simp only [Char.toNat, UInt32.toNat_add] at hv
    obtain ⟨h1, h2⟩ := hc
    simp only [ge_iff_le, UInt32.le_iff_toNat_le] at h1 h2
    simp at h1 h2 hv
    omega
  · exact h

/-- Two spellings of a name have the same parts, up to their spelling. -/
theorem splitDots_same : ∀ {p q xs ys : List Char}, p.map Char.toLower = q.map Char.toLower →
    xs.map Char.toLower = ys.map Char.toLower →
    List.Forall₂ (fun a b => sameName a b = true) (splitDots p xs) (splitDots q ys)
  | p, q, [], [], hp, _ => by
    refine .cons (sameName_iff.2 ?_) .nil
    simp only [foldName, String.toList_ofList, List.map_reverse, hp]
  | p, q, x :: xs, y :: ys, hp, hs => by
    simp only [List.map_cons, List.cons.injEq] at hs
    obtain ⟨hxy, hs⟩ := hs
    by_cases hx : x = '.'
    · have hy : y = '.' := toLower_eq_dot (by rw [← hxy, hx]; rfl)
      rw [splitDots, splitDots, if_pos hx, if_pos hy]
      refine .cons (sameName_iff.2 ?_) (splitDots_same rfl hs)
      simp only [foldName, String.toList_ofList, List.map_reverse, hp]
    · have hy : y ≠ '.' := fun hy => hx (toLower_eq_dot (by rw [hxy, hy]; rfl))
      rw [splitDots, splitDots, if_neg hx, if_neg hy]
      exact splitDots_same (by simp only [List.map_cons, hxy, hp]) hs

theorem get?_congr (t : ClassTable) {n n' : String} (h : sameName n n' = true) :
    t.get? n = t.get? n' := by
  unfold get?
  congr 1
  funext c
  exact sameName_congr_right h c.name

end ClassTable

theorem ClassInfo.inner?_congr (c : ClassInfo) {n n' : String} (h : sameName n n' = true) :
    c.inner? n = c.inner? n' := by
  unfold inner?
  congr 1
  funext d
  exact sameName_congr_right h d.name

namespace ClassTable

theorem descend_congr {ns ns' : List String}
    (h : List.Forall₂ (fun a b => sameName a b = true) ns ns') :
    ∀ c : ClassInfo, descend c ns = descend c ns' := by
  induction h with
  | nil => intro c; rfl
  | cons hn _ ih =>
    intro c
    rw [descend, descend, c.inner?_congr hn]
    cases c.inner? _ with
    | none => rfl
    | some d => exact ih d

/-- Look-up does not see the spelling of a name. -/
theorem resolve?_congr (t : ClassTable) {n n' : String} (h : sameName n n' = true) :
    t.resolve? n = t.resolve? n' := by
  have hs := splitDots_same (p := []) (q := []) rfl (sameName_iff.1 h)
  unfold resolve?
  generalize splitDots [] n.toList = parts, splitDots [] n'.toList = parts' at hs
  cases hs with
  | nil => rfl
  | cons hf hr =>
    dsimp only
    rw [t.get?_congr hf]
    cases t.get? _ with
    | none => rfl
    | some c => exact descend_congr hr c

/-! ## Larger tables -/

/-- `t'` has the classes of `t` and others after them. -/
def Extends (t t' : ClassTable) : Prop := t.classes <+: t'.classes

theorem Extends.get? {t t' : ClassTable} (h : t.Extends t') {name : String} {c : ClassInfo}
    (hc : t.get? name = some c) : t'.get? name = some c := by
  obtain ⟨new, hn⟩ := h
  unfold ClassTable.get? at *
  rw [← hn, List.find?_append, hc]
  rfl

theorem Extends.resolve? {t t' : ClassTable} (h : t.Extends t') {name : String} {c : ClassInfo}
    (hc : t.resolve? name = some c) : t'.resolve? name = some c := by
  unfold ClassTable.resolve? at *
  split at hc
  · cases hc
  · split at hc
    · rename_i hd
      rw [h.get? hd]
      exact hc
    · cases hc

end ClassTable

namespace Registration

theorem registerInto_extends {t t' : ClassTable} {decl : ClassDecl} {log log' : Log}
    (h : (registerInto t decl).run log = .ok t' log') : t.Extends t' := by
  unfold registerInto at h
  split at h
  · cases h
  · simp only [EStateM.run, bind, EStateM.bind] at h
    split at h
    · cases h
      exact List.prefix_append _ _
    · cases h

/-- Registration of one more declaration. -/
def step (out : Outcome) (decl : ClassDecl) : Outcome :=
  match (registerInto out.table decl).run out.log with
  | .ok table log => { out with table, accepted := out.accepted + 1, log }
  | .error e log => { out with errors := out.errors ++ [e], log }

theorem registerAll_eq (t : ClassTable) (decls : List ClassDecl) :
    registerAll t decls = decls.foldl step ⟨t, 0, [], #[]⟩ := rfl

theorem step_extends (out : Outcome) (decl : ClassDecl) :
    out.table.Extends (step out decl).table := by
  unfold step
  split
  · rename_i hr
    exact registerInto_extends hr
  · exact List.prefix_rfl

/-- Registration only adds classes. -/
theorem registerAll_extends (t : ClassTable) (decls : List ClassDecl) :
    t.Extends (registerAll t decls).table := by
  rw [registerAll_eq]
  exact List.foldlRecOn decls step (motive := fun out : Outcome => t.Extends out.table)
    List.prefix_rfl fun out h decl _ => h.trans (step_extends out decl)

end Registration

end ClassScript
