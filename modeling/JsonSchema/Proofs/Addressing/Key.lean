import JsonSchema.Proofs.Addressing.Pointer
import JsonSchema.Proofs.Basic
import JsonSchema.Uri.Target

/-!
# Keys of places

The key of a place consists of the text of the base, a `#` and the text of the pointer, and at the
root of a document of the text of the base alone. There is no `#` in the text of a base, so that
the two parts can be told apart, and no two places have the same key.
-/

namespace JsonSchema

namespace BaseUri

/-- A base is known by its text. -/
theorem text_injective {b b' : BaseUri} (h : b.text = b'.text) : b = b' := by
  cases b with
  | anonymous =>
      cases b' with
      | anonymous => rfl
      | named u => exact absurd (congrArg String.toList h).symm u.text_ne
  | named u =>
      cases b' with
      | anonymous => exact absurd (congrArg String.toList h) u.text_ne
      | named u' =>
          obtain ⟨t, _, _⟩ := u
          obtain ⟨t', _, _⟩ := u'
          cases h
          rfl

theorem hash_not_mem_text (b : BaseUri) : '#' ∉ b.text.toList := by
  cases b with
  | anonymous => exact List.not_mem_nil
  | named u => exact u.no_fragment

theorem toList_key (b : BaseUri) {p : Pointer} (hp : p.isRoot = false) :
    (b.key p).toList = b.text.toList ++ '#' :: p.text.toList := by
  rw [key, hp]
  simp [String.toList_append]

end BaseUri

/-- **No two places have the same key.** -/
theorem Target.key_injective {s t : Target} (h : s.key = t.key) : s = t := by
  obtain ⟨b, p⟩ := s
  obtain ⟨b', p'⟩ := t
  have hlist : (b.key p).toList = (b'.key p').toList := congrArg String.toList h
  -- whether there is a `#` in the key tells whether the place is a root
  cases hp : p.isRoot with
  | true =>
      cases hp' : p'.isRoot with
      | true =>
          have htext : b.text = b'.text := by
            have hkey : b.key p = b'.key p' := h
            rwa [BaseUri.key, BaseUri.key, hp, hp'] at hkey
          have hpointer : p = p' :=
            congrArg Pointer.mk ((List.isEmpty_iff.mp hp).trans (List.isEmpty_iff.mp hp').symm)
          rw [BaseUri.text_injective htext, hpointer]
      | false =>
          rw [b'.toList_key hp', BaseUri.key, hp] at hlist
          have hmem : '#' ∈ b.text.toList := hlist ▸ List.mem_append_right _ List.mem_cons_self
          exact absurd hmem b.hash_not_mem_text
  | false =>
      cases hp' : p'.isRoot with
      | true =>
          rw [b.toList_key hp, BaseUri.key, hp'] at hlist
          have hmem : '#' ∈ b'.text.toList := hlist ▸ List.mem_append_right _ List.mem_cons_self
          exact absurd hmem b'.hash_not_mem_text
      | false =>
          rw [b.toList_key hp, b'.toList_key hp'] at hlist
          -- the first `#` ends the text of the base in both
          obtain ⟨htext, hpointer⟩ :=
            eq_of_append_cons b.hash_not_mem_text b'.hash_not_mem_text hlist
          rw [BaseUri.text_injective (String.toList_inj.mp htext),
            Pointer.text_injective (String.toList_inj.mp hpointer)]

theorem Target.key_inj {s t : Target} : s.key = t.key ↔ s = t :=
  ⟨key_injective, fun h => congrArg key h⟩

theorem BaseUri.key_inj {b b' : BaseUri} {p p' : Pointer} :
    b.key p = b'.key p' ↔ b = b' ∧ p = p' := by
  have hkey : b.key p = b'.key p' ↔ Target.mk b p = Target.mk b' p' :=
    Target.key_inj (s := ⟨b, p⟩) (t := ⟨b', p'⟩)
  rw [hkey, Target.mk.injEq]

end JsonSchema
