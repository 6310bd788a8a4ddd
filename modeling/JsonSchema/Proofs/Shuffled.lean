import JsonSchema.Proofs.Basic
import Mathlib.Data.List.Perm.Basic

/-!
# Lists side by side, in any order

Two lists are shuffled if each element of the one has its counterpart in the other, one for one,
wherever that stands.
-/

namespace JsonSchema

variable {α β γ δ : Type} {R : α → β → Prop} {S : γ → δ → Prop} {as : List α} {bs : List β}

/-- The elements on the left are, in some order, the counterparts of those on the right. -/
def Shuffled (R : α → β → Prop) (as : List α) (bs : List β) : Prop :=
  ∃ own, as.Perm own ∧ List.Forall₂ R own bs

namespace Shuffled

theorem of_forall₂ (h : List.Forall₂ R as bs) : Shuffled R as bs := ⟨as, List.Perm.refl as, h⟩

theorem nil : Shuffled R [] [] := of_forall₂ .nil

theorem singleton {a : α} {b : β} (h : R a b) : Shuffled R [a] [b] := of_forall₂ (.cons h .nil)

theorem imp {R' : α → β → Prop} (h : Shuffled R as bs) (himp : ∀ a b, R a b → R' a b) :
    Shuffled R' as bs := by
  obtain ⟨own, hperm, hrel⟩ := h
  exact ⟨own, hperm, hrel.imp himp⟩

/-- The two sides can change places. -/
theorem symm (h : Shuffled R as bs) : Shuffled (fun b a => R a b) bs as := by
  obtain ⟨own, hperm, hrel⟩ := h
  obtain ⟨own', hrel', hperm'⟩ := List.perm_comp_forall₂ hperm hrel
  exact ⟨own', hperm'.symm, hrel'.flip⟩

theorem length_eq (h : Shuffled R as bs) : as.length = bs.length := by
  obtain ⟨own, hperm, hrel⟩ := h
  exact hperm.length_eq.trans hrel.length_eq

theorem isEmpty_eq (h : Shuffled R as bs) : as.isEmpty = bs.isEmpty := by
  rw [Bool.eq_iff_iff, List.isEmpty_iff_length_eq_zero, List.isEmpty_iff_length_eq_zero,
    h.length_eq]

theorem append {as' : List α} {bs' : List β} (h : Shuffled R as bs) (h' : Shuffled R as' bs') :
    Shuffled R (as ++ as') (bs ++ bs') := by
  obtain ⟨own, hperm, hrel⟩ := h
  obtain ⟨own', hperm', hrel'⟩ := h'
  exact ⟨own ++ own', hperm.append hperm', List.rel_append hrel hrel'⟩

theorem flatMap {f : α → List γ} {g : β → List δ} (h : Shuffled R as bs)
    (hf : ∀ a b, R a b → Shuffled S (f a) (g b)) : Shuffled S (as.flatMap f) (bs.flatMap g) := by
  obtain ⟨own, hperm, hrel⟩ := h
  have hown : Shuffled S (own.flatMap f) (bs.flatMap g) := by
    clear hperm
    induction hrel with
    | nil => exact nil
    | cons hab _ ih =>
        rw [List.flatMap_cons, List.flatMap_cons]
        exact (hf _ _ hab).append ih
  obtain ⟨own', hperm', hrel'⟩ := hown
  exact ⟨own', (hperm.flatMap_right f).trans hperm', hrel'⟩

theorem map {f : α → γ} {g : β → δ} (h : Shuffled R as bs) (hf : ∀ a b, R a b → S (f a) (g b)) :
    Shuffled S (as.map f) (bs.map g) := by
  rw [List.map_eq_flatMap, List.map_eq_flatMap]
  exact h.flatMap fun a b hab => singleton (hf a b hab)

theorem filter {p : α → Bool} {q : β → Bool} (h : Shuffled R as bs)
    (hp : ∀ a b, R a b → p a = q b) : Shuffled R (as.filter p) (bs.filter q) := by
  obtain ⟨own, hperm, hrel⟩ := h
  refine ⟨own.filter p, hperm.filter p, List.rel_filter (fun a b hab => ?_) hrel⟩
  show p a = true ↔ q b = true
  rw [hp a b hab]

/-- Each element on the right has its counterpart. -/
theorem exists_left (h : Shuffled R as bs) {b : β} (hb : b ∈ bs) : ∃ a ∈ as, R a b := by
  obtain ⟨own, hperm, hrel⟩ := h
  obtain ⟨i, hi, rfl⟩ := List.getElem_of_mem hb
  have hi' : i < own.length := hrel.length_eq ▸ hi
  exact ⟨own[i], hperm.mem_iff.mpr (List.getElem_mem hi'), hrel.get hi' hi⟩

/-- And so has each element on the left. -/
theorem exists_right (h : Shuffled R as bs) {a : α} (ha : a ∈ as) : ∃ b ∈ bs, R a b :=
  h.symm.exists_left ha

theorem all_eq {f : α → Bool} {g : β → Bool} (h : Shuffled R as bs)
    (hf : ∀ a b, R a b → f a = g b) : as.all f = bs.all g := by
  rw [Bool.eq_iff_iff, List.all_eq_true, List.all_eq_true]
  refine ⟨fun hall b hb => ?_, fun hall a ha => ?_⟩
  · obtain ⟨a, ha, hab⟩ := h.exists_left hb
    rw [← hf a b hab]
    exact hall a ha
  · obtain ⟨b, hb, hab⟩ := h.exists_right ha
    rw [hf a b hab]
    exact hall b hb

theorem any_eq {f : α → Bool} {g : β → Bool} (h : Shuffled R as bs)
    (hf : ∀ a b, R a b → f a = g b) : as.any f = bs.any g := by
  rw [List.any_eq_not_all_not, List.any_eq_not_all_not]
  exact congrArg not (h.all_eq fun a b hab => congrArg not (hf a b hab))

end Shuffled

end JsonSchema
