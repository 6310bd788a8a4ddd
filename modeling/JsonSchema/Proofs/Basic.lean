import Mathlib.Data.List.Forall2

/-!
# Lists and answers

Facts that have nothing to do with schemas in particular.
-/

namespace JsonSchema

/-! ## Answers -/

theorem bind_eq_ok {ε α β : Type} {m : Except ε α} {f : α → Except ε β} {b : β}
    (h : (m >>= f) = .ok b) : ∃ a, m = .ok a ∧ f a = .ok b := by
  cases m with
  | error e => exact nomatch h
  | ok a => exact ⟨a, rfl, h⟩

theorem bind_eq_error {ε α β : Type} {m : Except ε α} {f : α → Except ε β} {e : ε}
    (h : (m >>= f) = .error e) : m = .error e ∨ ∃ a, m = .ok a ∧ f a = .error e := by
  cases m with
  | error e' => cases h; exact Or.inl rfl
  | ok a => exact Or.inr ⟨a, rfl, h⟩

theorem map_eq_ok {ε α β : Type} {m : Except ε α} {f : α → β} {b : β} (h : m.map f = .ok b) :
    ∃ a, m = .ok a ∧ f a = b := by
  cases m with
  | error e => exact nomatch h
  | ok a => exact ⟨a, rfl, Except.ok.inj h⟩

theorem exists_of_isOk {ε α : Type} {m : Except ε α} (h : m.isOk = true) : ∃ a, m = .ok a := by
  cases m with
  | error e => cases h
  | ok a => exact ⟨a, rfl⟩

theorem exists_error_of_isOk {ε α : Type} {m : Except ε α} (h : m.isOk = false) :
    ∃ e, m = .error e := by
  cases m with
  | error e => exact ⟨e, rfl⟩
  | ok a => cases h

/-- There is an answer if something is known of it. -/
theorem exists_of_toOption_map {ε α β : Type} {m : Except ε α} {f : α → β} {b : β}
    (h : m.toOption.map f = some b) : ∃ a, m = .ok a ∧ f a = b := by
  cases m with
  | error e => cases h
  | ok a => exact ⟨a, rfl, Option.some.inj h⟩

theorem eq_ok_of_toOption {ε α : Type} {m : Except ε α} {a : α} (h : m.toOption = some a) :
    m = .ok a := by
  cases m with
  | error e => exact nomatch h
  | ok a' => exact congrArg Except.ok (Option.some.inj h)

/-- A traversal has an answer if there is one for each element, and these make it up. -/
theorem mapM_eq_ok {ε α β : Type} {f : α → Except ε β} {as : List α} {bs : List β} :
    as.mapM f = .ok bs ↔ List.Forall₂ (fun a b => f a = .ok b) as bs := by
  induction as generalizing bs with
  | nil =>
      rw [List.mapM_nil, List.forall₂_nil_left_iff]
      exact ⟨fun h => (Except.ok.inj h).symm, fun h => congrArg Except.ok h.symm⟩
  | cons a rest ih =>
      rw [List.mapM_cons, List.forall₂_cons_left_iff]
      refine ⟨fun h => ?_, fun ⟨b, bs, hb, hbs, h⟩ => ?_⟩
      · obtain ⟨b, hb, h⟩ := bind_eq_ok h
        obtain ⟨bs, hbs, h⟩ := bind_eq_ok h
        exact ⟨b, bs, hb, ih.mp hbs, (Except.ok.inj h).symm⟩
      · rw [hb, ih.mpr hbs, h]
        rfl

/-! ## Lists -/

/-- Of two places in a list, one at least is not the place of a given element. -/
theorem mem_of_two_places {α : Type} {before after x y z : List α} {d e f : α}
    (h : before ++ d :: after = x ++ e :: (y ++ f :: z)) :
    e ∈ before ++ after ∨ f ∈ before ++ after := by
  rcases List.append_eq_append_iff.mp h with ⟨l, hl, hr⟩ | ⟨l, hl, hr⟩
  · cases l with
    | nil =>
        simp only [List.nil_append, List.cons.injEq] at hr
        right; rw [hr.2]; simp
    | cons a l =>
        simp only [List.cons_append, List.cons.injEq] at hr
        right; rw [hr.2]; simp
  · cases l with
    | nil =>
        simp only [List.nil_append, List.cons.injEq] at hr
        right; rw [← hr.2]; simp
    | cons a l =>
        simp only [List.cons_append, List.cons.injEq] at hr
        left; rw [hl, ← hr.1]; simp

/-- The first separator tells two texts in front of it apart. -/
theorem eq_of_append_cons {α : Type} {sep : α} {front front' back back' : List α}
    (hfront : sep ∉ front) (hfront' : sep ∉ front')
    (h : front ++ sep :: back = front' ++ sep :: back') : front = front' ∧ back = back' := by
  induction front generalizing front' with
  | nil =>
      cases front' with
      | nil => exact ⟨rfl, List.tail_eq_of_cons_eq h⟩
      | cons a rest =>
          have hhead : sep = a := List.head_eq_of_cons_eq h
          exact absurd (hhead ▸ List.mem_cons_self) hfront'
  | cons a rest ih =>
      cases front' with
      | nil =>
          have hhead : a = sep := List.head_eq_of_cons_eq h
          exact absurd (hhead ▸ List.mem_cons_self) hfront
      | cons a' rest' =>
          have hhead : a = a' := List.head_eq_of_cons_eq h
          obtain ⟨hrest, hback⟩ := ih (fun hm => hfront (List.mem_cons_of_mem a hm))
            (fun hm => hfront' (List.mem_cons_of_mem a' hm)) (List.tail_eq_of_cons_eq h)
          exact ⟨by rw [hhead, hrest], hback⟩

/-! ## Lists side by side -/

/-- Each element on the right has its counterpart. -/
theorem exists_of_mem_right {α β : Type} {R : α → β → Prop} {as : List α} {bs : List β}
    (h : List.Forall₂ R as bs) {b : β} (hb : b ∈ bs) : ∃ a, R a b := by
  induction h with
  | nil => exact absurd hb List.not_mem_nil
  | cons hab _ ih =>
      rcases List.mem_cons.mp hb with rfl | hb
      · exact ⟨_, hab⟩
      · exact ih hb

/-- And so has each element on the left. -/
theorem exists_of_mem_left {α β : Type} {R : α → β → Prop} {as : List α} {bs : List β}
    (h : List.Forall₂ R as bs) {a : α} (ha : a ∈ as) : ∃ b, R a b := by
  induction h with
  | nil => exact absurd ha List.not_mem_nil
  | cons hab _ ih =>
      rcases List.mem_cons.mp ha with rfl | ha
      · exact ⟨_, hab⟩
      · exact ih ha

/-- What goes with counterparts is related in turn. -/
theorem forall₂_square {α β γ δ : Type} {R : α → β → Prop} {P : α → γ → Prop} {Q : β → δ → Prop}
    {S : γ → δ → Prop} {as : List α} {bs : List β} {cs : List γ} {ds : List δ}
    (h : List.Forall₂ R as bs) (hP : List.Forall₂ P as cs) (hQ : List.Forall₂ Q bs ds)
    (hS : ∀ {a b c d}, R a b → P a c → Q b d → S c d) : List.Forall₂ S cs ds := by
  induction h generalizing cs ds with
  | nil =>
      cases hP
      cases hQ
      exact .nil
  | cons hab _ ih =>
      cases hP with
      | cons hac hP =>
          cases hQ with
          | cons hbd hQ => exact .cons (hS hab hac hbd) (ih hP hQ)

/-- What is made of one list in two ways is related if it is for each element. -/
theorem forall₂_of_common {α β γ : Type} {P : α → β → Prop} {Q : α → γ → Prop}
    {S : β → γ → Prop} {as : List α} {bs : List β} {cs : List γ} (hP : List.Forall₂ P as bs)
    (hQ : List.Forall₂ Q as cs) (hS : ∀ {a b c}, a ∈ as → P a b → Q a c → S b c) :
    List.Forall₂ S bs cs := by
  have hsame : List.Forall₂ (fun a a' => a = a' ∧ a ∈ as) as as :=
    List.forall₂_same.mpr fun a ha => ⟨rfl, ha⟩
  refine forall₂_square hsame hP hQ ?_
  rintro a _ b c ⟨rfl, ha⟩ hb hc
  exact hS ha hb hc

/-- The elements at an index are counterparts. -/
theorem rel_getElem? {α β : Type} {R : α → β → Prop} {as : List α} {bs : List β}
    (h : List.Forall₂ R as bs) (i : Nat) : Option.Rel R as[i]? bs[i]? := by
  induction h generalizing i with
  | nil => exact .none
  | cons hab _ ih =>
      cases i with
      | zero => exact .some hab
      | succ i => exact ih i

/-- The last elements are counterparts. -/
theorem rel_getLast? {α β : Type} {R : α → β → Prop} {as : List α} {bs : List β}
    (h : List.Forall₂ R as bs) : Option.Rel R as.getLast? bs.getLast? := by
  induction h with
  | nil => exact .none
  | cons hab _ ih =>
      rw [List.getLast?_cons, List.getLast?_cons]
      generalize List.getLast? _ = o at ih ⊢
      generalize List.getLast? _ = o' at ih ⊢
      cases ih with
      | none => exact .some hab
      | some h => exact .some h

theorem forall₂_zip {α β γ δ : Type} {R : α → β → Prop} {S : γ → δ → Prop} {as : List α}
    {bs : List β} {cs : List γ} {ds : List δ} (h : List.Forall₂ R as bs)
    (h' : List.Forall₂ S cs ds) :
    List.Forall₂ (fun p q => R p.1 q.1 ∧ S p.2 q.2) (as.zip cs) (bs.zip ds) := by
  induction h generalizing cs ds with
  | nil => exact .nil
  | cons hab _ ih =>
      cases h' with
      | nil => exact .nil
      | cons hcd hrest => exact .cons ⟨hab, hcd⟩ (ih hrest)

/-- Counterparts have the same numbers. -/
theorem forall₂_numbered {α β : Type} {R : α → β → Prop} {as : List α} {bs : List β}
    (h : List.Forall₂ R as bs) (n : Nat) :
    List.Forall₂ (fun p q => R p.1 q.1 ∧ p.2 = q.2) (as.zipIdx n) (bs.zipIdx n) := by
  induction h generalizing n with
  | nil => exact .nil
  | cons hab _ ih => exact .cons ⟨hab, rfl⟩ (ih (n + 1))

/-- What holds of each element and its number holds of the numbered lists. -/
theorem forall₂_zipIdx {α β : Type} {R : Nat → β → Prop} {as : List α} {bs : List β} {n : Nat}
    (h : List.Forall₂ (fun p b => R p.2 b) (as.zipIdx n) bs) :
    List.Forall₂ (fun p q => p.2 = q.2 ∧ R p.2 q.1) (as.zipIdx n) (bs.zipIdx n) := by
  induction as generalizing bs n with
  | nil =>
      rw [List.zipIdx_nil, List.forall₂_nil_left_iff] at h
      rw [h]
      exact .nil
  | cons a rest ih =>
      rw [List.zipIdx_cons, List.forall₂_cons_left_iff] at h
      obtain ⟨b, bs, hb, hrest, rfl⟩ := h
      exact .cons ⟨rfl, hb⟩ (ih hrest)

/-- The same for the lists zipped with a third one. -/
theorem forall₂_zip_zipIdx {α β γ : Type} {R : Nat → β → Prop} {as : List α} {bs : List β}
    {n : Nat} (h : List.Forall₂ (fun p b => R p.2 b) (as.zipIdx n) bs) (cs : List γ) :
    List.Forall₂ (fun p q => p.2 = q.2 ∧ p.1.2 = q.1.2 ∧ R p.2 q.1.1) ((as.zip cs).zipIdx n)
      ((bs.zip cs).zipIdx n) := by
  induction as generalizing bs cs n with
  | nil =>
      rw [List.zipIdx_nil, List.forall₂_nil_left_iff] at h
      rw [h]
      exact .nil
  | cons a rest ih =>
      rw [List.zipIdx_cons, List.forall₂_cons_left_iff] at h
      obtain ⟨b, bs, hb, hrest, rfl⟩ := h
      cases cs with
      | nil => exact .nil
      | cons c cs => exact .cons ⟨rfl, rfl, hb⟩ (ih hrest cs)

end JsonSchema
