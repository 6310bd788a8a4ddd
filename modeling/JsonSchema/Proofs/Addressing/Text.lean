import JsonSchema.Proofs.Addressing.Pointer

/-!
# Which texts are pointers

The text of a pointer is empty or starts with `/`, and in it each `~` has a `0` or a `1` behind it.
Every text of this form is the text of a pointer. Cutting a text at slashes takes no `~` away from
the character behind it, unless that is a slash, so it can be told from the whole text whether all
of its pieces can be read.
-/

namespace JsonSchema.Pointer

/-! ## Escapes -/

/-- Behind each `~` there is a `0` or a `1`. -/
def WellEscaped (cs : List Char) : Prop :=
  ∀ front rest, cs = front ++ '~' :: rest → rest.head? = some '0' ∨ rest.head? = some '1'

theorem wellEscaped_nil : WellEscaped [] := by
  intro front rest h
  exact absurd h.symm (List.append_ne_nil_of_right_ne_nil front (List.cons_ne_nil _ _))

theorem wellEscaped_cons {c : Char} {rest : List Char} : WellEscaped (c :: rest) ↔
    (c = '~' → rest.head? = some '0' ∨ rest.head? = some '1') ∧ WellEscaped rest := by
  constructor
  · intro h
    refine ⟨fun hc => h [] rest (by rw [hc]; rfl), fun front rest' hrest => ?_⟩
    exact h (c :: front) rest' (by rw [hrest]; rfl)
  · rintro ⟨hhead, htail⟩ front rest' h
    cases front with
    | nil =>
        obtain ⟨hc, hrest⟩ := List.cons.inj h
        exact hrest ▸ hhead hc
    | cons d front => exact htail front rest' (List.tail_eq_of_cons_eq h)

/-- A character that is no `~` needs nothing behind it. -/
theorem wellEscaped_cons_of_ne {c : Char} (hc : c ≠ '~') {rest : List Char} :
    WellEscaped (c :: rest) ↔ WellEscaped rest := by
  rw [wellEscaped_cons]
  exact and_iff_right fun h => absurd h hc

/-- Just the pieces that are well escaped can be read as tokens. -/
theorem isSome_unescape? (piece : List Char) :
    (unescape? piece).isSome = true ↔ WellEscaped piece := by
  induction piece using unescape?.induct with
  | case1 => exact iff_of_true rfl wellEscaped_nil
  | case2 rest ih =>
      rw [unescape?, if_pos rfl, Option.isSome_map, ih, wellEscaped_cons,
        wellEscaped_cons_of_ne (by decide)]
      exact (and_iff_right fun _ => .inl rfl).symm
  | case3 rest ih =>
      rw [unescape?, if_pos rfl, Option.isSome_map, ih, wellEscaped_cons,
        wellEscaped_cons_of_ne (by decide)]
      exact (and_iff_right fun _ => .inr rfl).symm
  | case4 rest h0 h1 =>
      have hnone : unescape? ('~' :: rest) = none := by
        rw [unescape?.eq_def]
        dsimp only
        rw [if_pos rfl]
        split
        · exact absurd rfl (h0 _)
        · exact absurd rfl (h1 _)
        · rfl
      rw [hnone, wellEscaped_cons]
      -- neither of the two characters is there
      refine iff_of_false Bool.false_ne_true fun h => ?_
      rcases h.1 rfl with hhead | hhead
      · obtain ⟨more, rfl⟩ := List.head?_eq_some_iff.mp hhead
        exact h0 more rfl
      · obtain ⟨more, rfl⟩ := List.head?_eq_some_iff.mp hhead
        exact h1 more rfl
  | case5 c rest hc ih =>
      rw [unescape?_cons hc, Option.isSome_map, ih, wellEscaped_cons_of_ne hc]

/-! ## Texts in pieces -/

/-- The first piece starts as the text does, unless that starts with a slash. -/
theorem head?_first {cs first : List Char} {more : List (List Char)}
    (h : pieces cs = first :: more) {d : Char} (hd : d ≠ '/') :
    first.head? = some d ↔ cs.head? = some d := by
  cases cs with
  | nil =>
      have hfirst : [] = first := List.head_eq_of_cons_eq h
      rw [← hfirst]
  | cons c rest =>
      by_cases hc : c = '/'
      · rw [hc, pieces_slash] at h
        have hfirst : [] = first := List.head_eq_of_cons_eq h
        rw [← hfirst, hc]
        exact iff_of_false nofun fun he => hd (Option.some.inj he).symm
      · obtain ⟨first', more', _, hpieces⟩ := pieces_cons hc rest
        have hfirst : c :: first' = first := List.head_eq_of_cons_eq (hpieces.symm.trans h)
        rw [← hfirst, List.head?_cons, List.head?_cons]

/-- A text is well escaped if its pieces are. -/
theorem wellEscaped_pieces (cs : List Char) :
    (∀ piece ∈ pieces cs, WellEscaped piece) ↔ WellEscaped cs := by
  induction cs with
  | nil => exact iff_of_true (List.forall_mem_singleton.mpr wellEscaped_nil) wellEscaped_nil
  | cons c rest ih =>
      by_cases hc : c = '/'
      · rw [hc, pieces_slash, List.forall_mem_cons, ih, wellEscaped_cons_of_ne (by decide)]
        exact and_iff_right wellEscaped_nil
      · obtain ⟨first, more, hrest, hpieces⟩ := pieces_cons hc rest
        rw [hrest, List.forall_mem_cons] at ih
        rw [hpieces, List.forall_mem_cons, wellEscaped_cons, wellEscaped_cons, ← ih,
          head?_first hrest (by decide), head?_first hrest (by decide), and_assoc]

theorem isSome_mapM_unescape? (ps : List (List Char)) :
    (ps.mapM unescape?).isSome = true ↔ ∀ piece ∈ ps, WellEscaped piece := by
  induction ps with
  | nil => exact iff_of_true rfl (List.forall_mem_nil _)
  | cons piece rest ih =>
      rw [List.forall_mem_cons, ← isSome_unescape?, ← ih, List.mapM_cons]
      cases unescape? piece with
      | none => exact iff_of_false nofun fun h => nomatch h.1
      | some token => cases rest.mapM unescape? <;> simp

/-! ## The text of a token -/

/-- The text with each `c` replaced. -/
def replaced (c : Char) (replacement cs : List Char) : List Char :=
  cs.flatMap fun d => if d = c then replacement else [d]

/-- A token is escaped by replacing each `~`, and then each `/`. The first replacement writes no
slash, so the second one only meets those of the token. -/
theorem escape_eq_replaced (token : List Char) :
    escape token = replaced '/' ['~', '1'] (replaced '~' ['~', '0'] token) := by
  unfold escape replaced
  rw [List.flatMap_assoc]
  refine congrArg (token.flatMap ·) (funext fun c => ?_)
  unfold escapeChar
  by_cases ht : c = '~'
  · rw [if_pos ht, if_pos ht]
    rfl
  · rw [if_neg ht, if_neg ht, List.flatMap_singleton]

/-! ## The form of a text -/

/-- The form of the texts of pointers. -/
structure IsText (text : String) : Prop where
  /-- The text is empty or starts with a slash. -/
  starts : text = "" ∨ text.toList.head? = some '/'
  /-- Behind each `~` there is a `0` or a `1`. -/
  escaped : WellEscaped text.toList

theorem isText_slash {text : String} {rest : List Char} (h : text.toList = '/' :: rest) :
    IsText text ↔ WellEscaped text.toList := by
  refine ⟨IsText.escaped, fun hescaped => ⟨.inr ?_, hescaped⟩⟩
  rw [h, List.head?_cons]

/-- What is read from a text that starts with a slash. -/
theorem parse_slash {text : String} {rest : List Char} (h : text.toList = '/' :: rest) :
    (WellEscaped text.toList ∧ ∃ p, parse text = .ok p) ∨
      (¬ WellEscaped text.toList ∧ parse text = .error (.invalidEscape text)) := by
  have hpieces := (isSome_mapM_unescape? (pieces rest)).trans (wellEscaped_pieces rest)
  unfold parse
  rw [h]
  dsimp only
  rw [if_pos rfl, wellEscaped_cons_of_ne (by decide), ← hpieces]
  cases (pieces rest).mapM unescape? with
  | none => exact .inr ⟨Bool.false_ne_true, rfl⟩
  | some tokens => exact .inl ⟨rfl, _, rfl⟩

/-- **A text is read as a pointer, or one of two things is wrong with it.** -/
theorem parse_cases (text : String) :
    (IsText text ∧ ∃ p, parse text = .ok p) ∨
      ((text ≠ "" ∧ text.toList.head? ≠ some '/') ∧
        parse text = .error (.missingLeadingSlash text)) ∨
      ((text.toList.head? = some '/' ∧ ¬ WellEscaped text.toList) ∧
        parse text = .error (.invalidEscape text)) := by
  cases h : text.toList with
  | nil =>
      have hempty : text = "" := String.toList_eq_nil_iff.mp h
      rw [hempty]
      exact .inl ⟨⟨.inl rfl, wellEscaped_nil⟩, .root, rfl⟩
  | cons c rest =>
      by_cases hc : c = '/'
      · rw [hc] at h ⊢
        rcases parse_slash h with ⟨hescaped, hok⟩ | ⟨hescaped, herror⟩
        · exact .inl ⟨(isText_slash h).mpr hescaped, hok⟩
        · exact .inr (.inr ⟨⟨rfl, h ▸ hescaped⟩, herror⟩)
      · refine .inr (.inl ⟨⟨fun hempty => ?_, fun hhead => hc (Option.some.inj hhead)⟩, ?_⟩)
        · rw [hempty] at h
          exact nomatch h
        · unfold parse
          rw [h]
          exact if_neg hc

/-- Which of the three it is. -/
theorem parse_eq_missingLeadingSlash {text : String} :
    parse text = .error (.missingLeadingSlash text) ↔
      text ≠ "" ∧ text.toList.head? ≠ some '/' := by
  rcases parse_cases text with ⟨htext, p, hok⟩ | ⟨hmissing, herror⟩ | ⟨hinvalid, herror⟩
  · rw [hok]
    refine iff_of_false nofun fun h => ?_
    rcases htext.starts with hempty | hhead
    · exact h.1 hempty
    · exact h.2 hhead
  · exact iff_of_true herror hmissing
  · rw [herror]
    exact iff_of_false nofun fun h => h.2 hinvalid.1

theorem parse_eq_invalidEscape {text : String} :
    parse text = .error (.invalidEscape text) ↔
      text.toList.head? = some '/' ∧ ¬ WellEscaped text.toList := by
  rcases parse_cases text with ⟨htext, p, hok⟩ | ⟨hmissing, herror⟩ | ⟨hinvalid, herror⟩
  · rw [hok]
    exact iff_of_false nofun fun h => h.2 htext.escaped
  · rw [herror]
    exact iff_of_false nofun fun h => hmissing.2 h.1
  · exact iff_of_true herror hinvalid

theorem exists_parse_eq_ok {text : String} : (∃ p, parse text = .ok p) ↔ IsText text := by
  rcases parse_cases text with ⟨htext, hok⟩ | ⟨hmissing, herror⟩ | ⟨hinvalid, herror⟩
  · exact iff_of_true hok htext
  · rw [herror]
    refine iff_of_false nofun fun htext => ?_
    rcases htext.starts with hempty | hhead
    · exact hmissing.1 hempty
    · exact hmissing.2 hhead
  · rw [herror]
    exact iff_of_false nofun fun htext => hinvalid.2 htext.escaped

/-- **Pointers and their texts correspond.** The text of a pointer is read as this pointer, and the
pointer that is read from a text has this text. Just the texts of the right form are read. Without a
slash in front it is the slash that is missing, and otherwise an escape is wrong. In the text, each
token stands behind a slash, with `~0` for each `~` and then `~1` for each `/`. -/
theorem pointers_match_texts :
    (∀ tokens : List String, parse (Pointer.text ⟨tokens⟩) = .ok ⟨tokens⟩) ∧
    (∀ (text : String) (p : Pointer), parse text = .ok p ↔ p.text = text) ∧
    (∀ text : String, (∃ p, parse text = .ok p) ↔ IsText text) ∧
    (∀ text : String, parse text = .error (.missingLeadingSlash text) ↔
      text ≠ "" ∧ text.toList.head? ≠ some '/') ∧
    (∀ text : String, parse text = .error (.invalidEscape text) ↔
      text.toList.head? = some '/' ∧ ¬ WellEscaped text.toList) ∧
    (∀ tokens tokens' : List String,
      Pointer.text ⟨tokens⟩ = Pointer.text ⟨tokens'⟩ ↔ tokens = tokens') ∧
    ∀ tokens : List String, (Pointer.text ⟨tokens⟩).toList = tokens.flatMap fun token =>
      '/' :: replaced '/' ['~', '1'] (replaced '~' ['~', '0'] token.toList) := by
  refine ⟨fun tokens => parse_eq_ok.mpr rfl, fun text p => ?_, fun _ => exists_parse_eq_ok,
    fun _ => parse_eq_missingLeadingSlash, fun _ => parse_eq_invalidEscape,
    fun tokens tokens' => ?_, fun tokens => ?_⟩
  · rw [parse_eq_ok, eq_comm]
  · exact ⟨fun h => Pointer.mk.inj (text_injective h), fun h => h ▸ rfl⟩
  · rw [Pointer.text, String.toList_ofList, render]
    exact congrArg (tokens.flatMap ·) (funext fun token => by rw [escape_eq_replaced])

/-- A `~1` in a token is told from an escaped slash. -/
example : Pointer.text ⟨["~1", "a/b", ""]⟩ = "/~01/a~1b/" := by decide +kernel

end JsonSchema.Pointer
