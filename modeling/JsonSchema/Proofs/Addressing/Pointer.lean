import JsonSchema.Pointer

/-!
# Pointers and their texts

A value is looked up by the text of a pointer: the text is cut into pieces, and the escapes of each
piece are replaced. For the text of a pointer this gives back its tokens, so that looking up the
text is walking along the tokens. It follows that different pointers have different texts. Reading a
text gives the pointer that has it, and an error if there is none.

An index is spelled in one way only, which is the way it is printed.
-/

namespace JsonSchema.Pointer

/-! ## Cutting and escaping -/

theorem slash_not_mem_escapeChar (c : Char) : '/' ∉ escapeChar c := by
  unfold escapeChar
  split
  · decide
  · split
    · decide
    · rename_i h
      simpa using fun he => h he.symm

theorem slash_not_mem_escape (token : List Char) : '/' ∉ escape token := by
  intro h
  obtain ⟨c, _, hc⟩ := List.mem_flatMap.mp h
  exact slash_not_mem_escapeChar c hc

/-- A text without slashes is part of the first piece. -/
theorem pieces_append {front rest first : List Char} {more : List (List Char)}
    (hfront : '/' ∉ front) (h : pieces rest = first :: more) :
    pieces (front ++ rest) = (front ++ first) :: more := by
  induction front with
  | nil => exact h
  | cons c cs ih =>
      -- the first character is no slash, so it joins the first piece of what follows
      have hc : c ≠ '/' := fun he => hfront (he ▸ List.mem_cons_self)
      have hcs : '/' ∉ cs := fun he => hfront (List.mem_cons_of_mem c he)
      rw [List.cons_append, pieces, if_neg hc, ih hcs]
      rfl

/-- The text of tokens behind an escaped one is cut in front of every token. -/
theorem pieces_render (token : List Char) (rest : List String) :
    pieces (escape token ++ render rest) =
      escape token :: rest.map fun t => escape t.toList := by
  induction rest generalizing token with
  | nil =>
      have h : pieces (escape token ++ []) = [escape token ++ []] :=
        pieces_append (slash_not_mem_escape token) rfl
      rw [List.append_nil] at h
      exact (congrArg pieces (List.append_nil _)).trans h
  | cons t rest ih =>
      -- the slash in front of the next token starts a piece, which takes the escaped token
      have hrest : pieces (render (t :: rest)) = [] :: pieces (escape t.toList ++ render rest) := by
        rw [render, List.flatMap_cons, List.cons_append, pieces, if_pos rfl]
        rfl
      rw [pieces_append (slash_not_mem_escape token) hrest, ih, List.append_nil]
      rfl

/-- A token in which only `~` is escaped. -/
def tilded (token : List Char) : List Char :=
  token.flatMap fun c => if c = '~' then ['~', '0'] else [c]

theorem substitute_cons {digit replacement c : Char} (hc : c ≠ '~') (rest : List Char) :
    substitute digit replacement (c :: rest) = c :: substitute digit replacement rest := by
  rw [substitute]
  intro _ _ he
  exact absurd he hc

/-- Replacing `~1` undoes the escapes of slashes. -/
theorem substitute_slash (token : List Char) :
    substitute '1' '/' (escape token) = tilded token := by
  induction token with
  | nil => rfl
  | cons c rest ih =>
      rw [escape, tilded, List.flatMap_cons, List.flatMap_cons, escapeChar]
      -- a tilde becomes `~0`, which is left for the second replacement
      by_cases ht : c = '~'
      · rw [if_pos ht, if_pos ht]
        show substitute '1' '/' ('~' :: '0' :: escape rest) = '~' :: '0' :: tilded rest
        rw [substitute, if_neg (by decide), substitute_cons (by decide), ih]
      · rw [if_neg ht, if_neg ht]
        -- a slash becomes `~1`, which is what this one undoes
        by_cases hs : c = '/'
        · rw [if_pos hs, hs]
          show substitute '1' '/' ('~' :: '1' :: escape rest) = '/' :: tilded rest
          rw [substitute, if_pos rfl, ih]
        · rw [if_neg hs]
          show substitute '1' '/' (c :: escape rest) = c :: tilded rest
          rw [substitute_cons ht, ih]

/-- Replacing `~0` then undoes the escapes of tildes. -/
theorem substitute_tilded (token : List Char) : substitute '0' '~' (tilded token) = token := by
  induction token with
  | nil => rfl
  | cons c rest ih =>
      rw [tilded, List.flatMap_cons]
      by_cases ht : c = '~'
      · rw [if_pos ht, ht]
        show substitute '0' '~' ('~' :: '0' :: tilded rest) = '~' :: rest
        rw [substitute, if_pos rfl, ih]
      · rw [if_neg ht]
        show substitute '0' '~' (c :: tilded rest) = c :: rest
        rw [substitute_cons ht, ih]

/-- The token of an escaped token. -/
def decoded (piece : List Char) : String :=
  String.ofList (substitute '0' '~' (substitute '1' '/' piece))

@[simp] theorem decoded_escape (token : String) : decoded (escape token.toList) = token := by
  rw [decoded, substitute_slash, substitute_tilded, String.ofList_toList]

theorem map_decoded (tokens : List String) :
    (tokens.map fun t => escape t.toList).map decoded = tokens := by
  induction tokens with
  | nil => rfl
  | cons t rest ih => rw [List.map_cons, List.map_cons, decoded_escape, ih]

/-- The tokens can be read off the text. -/
theorem decoded_pieces (token : String) (rest : List String) :
    (pieces (escape token.toList ++ render rest)).map decoded = token :: rest := by
  rw [pieces_render]
  exact map_decoded (token :: rest)

/-- **Looking up the text of a pointer is walking along its tokens.** -/
theorem resolve_eq_walk (p : Pointer) (document : Value) :
    p.resolve document = walk p.tokens document := by
  obtain ⟨tokens⟩ := p
  cases tokens with
  | nil => rfl
  | cons token rest =>
      -- the first slash is dropped, and the pieces are the escaped tokens
      show walk ((pieces (escape token.toList ++ render rest)).map decoded) document = _
      rw [decoded_pieces]

theorem render_injective {tokens tokens' : List String} (h : render tokens = render tokens') :
    tokens = tokens' := by
  cases tokens with
  | nil =>
      cases tokens' with
      | nil => rfl
      | cons t rest => exact nomatch h
  | cons t rest =>
      cases tokens' with
      | nil => exact nomatch h
      | cons t' rest' =>
          have hpieces : escape t.toList ++ render rest = escape t'.toList ++ render rest' :=
            List.tail_eq_of_cons_eq h
          rw [← decoded_pieces t rest, hpieces, decoded_pieces]

/-- Different pointers have different texts. -/
theorem text_injective {p q : Pointer} (h : p.text = q.text) : p = q := by
  obtain ⟨tokens⟩ := p
  obtain ⟨tokens'⟩ := q
  exact congrArg Pointer.mk (render_injective (String.ofList_injective h))

/-! ## Reading the text -/

theorem unescape?_cons {c : Char} (hc : c ≠ '~') (rest : List Char) :
    unescape? (c :: rest) = (unescape? rest).map (c :: ·) := by
  rw [unescape?.eq_def]
  dsimp only
  rw [if_neg hc]

/-- The escapes of a token are undone. -/
theorem unescape?_escape (token : List Char) : unescape? (escape token) = some token := by
  induction token with
  | nil => rfl
  | cons c rest ih =>
      have hsplit : escape (c :: rest) = escapeChar c ++ escape rest := List.flatMap_cons
      rw [hsplit, escapeChar]
      by_cases ht : c = '~'
      · rw [if_pos ht, ht]
        show (unescape? (escape rest)).map ('~' :: ·) = some ('~' :: rest)
        rw [ih]
        rfl
      · rw [if_neg ht]
        by_cases hs : c = '/'
        · rw [if_pos hs, hs]
          show (unescape? (escape rest)).map ('/' :: ·) = some ('/' :: rest)
          rw [ih]
          rfl
        · rw [if_neg hs, List.singleton_append, unescape?_cons ht, ih]
          rfl

/-- What is read as a token is the token as it is written. -/
theorem escape_of_unescape? {piece token : List Char} (hslash : '/' ∉ piece)
    (h : unescape? piece = some token) : escape token = piece := by
  induction piece using unescape?.induct generalizing token with
  | case1 =>
      cases h
      rfl
  | case2 rest ih =>
      rw [unescape?, if_pos rfl] at h
      obtain ⟨more, hmore, rfl⟩ := Option.map_eq_some_iff.mp h
      have hrest : '/' ∉ rest := fun hmem =>
        hslash (List.mem_cons_of_mem _ (List.mem_cons_of_mem _ hmem))
      show '~' :: '0' :: escape more = _
      rw [ih hrest hmore]
  | case3 rest ih =>
      rw [unescape?, if_pos rfl] at h
      obtain ⟨more, hmore, rfl⟩ := Option.map_eq_some_iff.mp h
      have hrest : '/' ∉ rest :=
        fun hmem => hslash (List.mem_cons_of_mem _ (List.mem_cons_of_mem _ hmem))
      show '~' :: '1' :: escape more = _
      rw [ih hrest hmore]
  | case4 rest h0 h1 =>
      rw [unescape?.eq_def] at h
      dsimp only at h
      rw [if_pos rfl] at h
      split at h
      · exact absurd rfl (h0 _)
      · exact absurd rfl (h1 _)
      · cases h
  | case5 c rest hc ih =>
      rw [unescape?_cons hc] at h
      obtain ⟨more, hmore, rfl⟩ := Option.map_eq_some_iff.mp h
      have hrest : '/' ∉ rest := fun hmem => hslash (List.mem_cons_of_mem _ hmem)
      have hs : c ≠ '/' := fun he => hslash (he ▸ List.mem_cons_self)
      have hchar : escape (c :: more) = c :: escape more := by
        rw [escape, List.flatMap_cons, escapeChar, if_neg hc, if_neg hs]
        rfl
      rw [hchar, ih hrest hmore]

theorem pieces_ne_nil (cs : List Char) : pieces cs ≠ [] := by
  cases cs with
  | nil => exact List.cons_ne_nil _ _
  | cons c rest =>
      rw [pieces]
      split
      · exact List.cons_ne_nil _ _
      · split <;> exact List.cons_ne_nil _ _

theorem pieces_slash (rest : List Char) : pieces ('/' :: rest) = [] :: pieces rest := by
  rw [pieces, if_pos rfl]

/-- A character that is no slash belongs to the first piece. -/
theorem pieces_cons {c : Char} (hc : c ≠ '/') (rest : List Char) :
    ∃ first more, pieces rest = first :: more ∧ pieces (c :: rest) = (c :: first) :: more := by
  obtain ⟨first, more, hrest⟩ := List.exists_cons_of_ne_nil (pieces_ne_nil rest)
  refine ⟨first, more, hrest, ?_⟩
  rw [pieces, if_neg hc, hrest]

/-- No piece has a slash. -/
theorem slash_not_mem_of_mem_pieces {cs piece : List Char} (h : piece ∈ pieces cs) :
    '/' ∉ piece := by
  induction cs generalizing piece with
  | nil =>
      rw [List.mem_singleton.mp h]
      exact List.not_mem_nil
  | cons c rest ih =>
      by_cases hc : c = '/'
      · rw [hc, pieces_slash] at h
        rcases List.mem_cons.mp h with rfl | h
        · exact List.not_mem_nil
        · exact ih h
      · obtain ⟨first, more, hrest, hpieces⟩ := pieces_cons hc rest
        rw [hpieces] at h
        rw [hrest] at ih
        rcases List.mem_cons.mp h with rfl | h
        · have hfirst := ih List.mem_cons_self
          intro hmem
          rcases List.mem_cons.mp hmem with heq | hmem
          · exact hc heq.symm
          · exact hfirst hmem
        · exact ih (List.mem_cons_of_mem _ h)

/-- The pieces with a slash in front of each are the text that was cut, behind a slash. -/
theorem flatMap_pieces (cs : List Char) : (pieces cs).flatMap ('/' :: ·) = '/' :: cs := by
  induction cs with
  | nil => rfl
  | cons c rest ih =>
      by_cases hc : c = '/'
      · rw [hc, pieces_slash, List.flatMap_cons, ih]
        rfl
      · obtain ⟨first, more, hrest, hpieces⟩ := pieces_cons hc rest
        rw [hrest, List.flatMap_cons] at ih
        rw [hpieces, List.flatMap_cons]
        have htail : first ++ more.flatMap ('/' :: ·) = rest := List.tail_eq_of_cons_eq ih
        show '/' :: c :: (first ++ more.flatMap ('/' :: ·)) = '/' :: c :: rest
        rw [htail]

/-- Pieces that are read as tokens are these tokens as they are written. -/
theorem render_of_mapM {ps tokens : List (List Char)} (hslash : ∀ piece ∈ ps, '/' ∉ piece)
    (h : ps.mapM unescape? = some tokens) :
    render (tokens.map String.ofList) = ps.flatMap ('/' :: ·) := by
  induction ps generalizing tokens with
  | nil =>
      cases h
      rfl
  | cons piece rest ih =>
      rw [List.mapM_cons] at h
      obtain ⟨token, htoken, h⟩ := Option.bind_eq_some_iff.mp h
      obtain ⟨more, hmore, h⟩ := Option.bind_eq_some_iff.mp h
      cases h
      rw [List.forall_mem_cons] at hslash
      have hpiece := escape_of_unescape? hslash.1 htoken
      have hrest : (more.map String.ofList).flatMap (fun token => '/' :: escape token.toList) =
          rest.flatMap ('/' :: ·) := ih hslash.2 hmore
      rw [render, List.map_cons, List.flatMap_cons, List.flatMap_cons, String.toList_ofList, hpiece,
        hrest]

theorem mapM_unescape? (tokens : List String) :
    (tokens.map fun t => escape t.toList).mapM unescape? = some (tokens.map String.toList) := by
  induction tokens with
  | nil => rfl
  | cons t rest ih =>
      rw [List.map_cons, List.mapM_cons, unescape?_escape, ih]
      rfl

/-- **The pointer that is read from a text** is the one with this text. -/
theorem parse_eq_ok {text : String} {p : Pointer} : parse text = .ok p ↔ text = p.text := by
  constructor
  · intro h
    apply String.toList_inj.mp
    unfold parse at h
    rw [Pointer.text, String.toList_ofList]
    split at h
    · rename_i hempty
      cases h
      exact hempty
    · rename_i c rest htext
      split at h
      · rename_i hc
        split at h
        · rename_i tokens htokens
          cases h
          rw [htext, hc, render_of_mapM (fun _ => slash_not_mem_of_mem_pieces) htokens,
            flatMap_pieces]
        · cases h
      · cases h
  · rintro rfl
    obtain ⟨tokens⟩ := p
    cases tokens with
    | nil => rfl
    | cons token rest =>
        have htext : (Pointer.text ⟨token :: rest⟩).toList =
            '/' :: (escape token.toList ++ render rest) := by
          rw [Pointer.text, String.toList_ofList]
          rfl
        have hpieces : pieces (escape token.toList ++ render rest) =
            (token :: rest).map fun t => escape t.toList := pieces_render token.toList rest
        unfold parse
        rw [htext]
        dsimp only
        rw [if_pos rfl, hpieces, mapM_unescape?]
        simp [String.ofList_toList]

/-! ## Indices -/

theorem digitChar_toNat {c : Char} (h : c.isDigit = true) :
    Nat.digitChar (c.toNat - '0'.toNat) = c ∧ c.toNat - '0'.toNat < 10 := by
  have hc : 48 ≤ c.toNat ∧ c.toNat ≤ 57 := by
    simpa [Char.isDigit, UInt32.le_iff_toNat_le] using h
  have hlt : c.toNat - '0'.toNat < 10 := by
    show c.toNat - 48 < 10
    omega
  refine ⟨?_, hlt⟩
  apply Char.toNat_inj.mp
  rw [Nat.toNat_digitChar_of_lt_ten hlt]
  show 48 + (c.toNat - 48) = c.toNat
  omega

/-- Reading on digits after a number that is not zero prints them behind it. -/
theorem toDigits_foldl {cs : List Char} {n : Nat} (hn : 0 < n) (hcs : cs.all Char.isDigit = true) :
    Nat.toDigits 10 (cs.foldl (fun n c => n * 10 + (c.toNat - '0'.toNat)) n) =
      Nat.toDigits 10 n ++ cs := by
  induction cs generalizing n with
  | nil => rw [List.append_nil]; rfl
  | cons c rest ih =>
      rw [List.all_cons, Bool.and_eq_true] at hcs
      obtain ⟨hchar, hlt⟩ := digitChar_toNat hcs.1
      -- one more digit is printed behind the others, since the number before it is not zero
      have hdigits := Nat.toDigits_append_toDigits (b := 10) (by decide) hn hlt
      rw [Nat.toDigits_of_lt_base hlt, hchar, Nat.mul_comm] at hdigits
      have hpos : 0 < n * 10 + (c.toNat - '0'.toNat) :=
        Nat.lt_of_lt_of_le (Nat.mul_pos hn (by decide)) (Nat.le_add_right _ _)
      rw [List.foldl_cons, ih hpos hcs.2, ← hdigits, List.append_assoc]
      rfl

theorem index?_cons (c : Char) (rest : List Char) :
    index? (c :: rest) =
      if c = '0' then if rest.isEmpty then some 0 else none
      else if (c :: rest).all Char.isDigit then
        some ((c :: rest).foldl (fun n c => n * 10 + (c.toNat - '0'.toNat)) 0)
      else none := rfl

/-- An index is spelled as it is printed. -/
theorem toDigits_of_index? {token : List Char} {i : Nat} (h : index? token = some i) :
    token = Nat.toDigits 10 i := by
  cases token with
  | nil => exact nomatch h
  | cons c rest =>
      rw [index?_cons] at h
      -- a zero stands alone, and otherwise the first digit is not zero
      by_cases hc : c = '0'
      · rw [if_pos hc] at h
        obtain ⟨hrest, hi⟩ := Option.ite_none_right_eq_some.mp h
        cases hi
        rw [hc, List.isEmpty_iff.mp hrest]
        rfl
      · rw [if_neg hc] at h
        obtain ⟨hall, hi⟩ := Option.ite_none_right_eq_some.mp h
        cases hi
        rw [List.all_cons, Bool.and_eq_true] at hall
        obtain ⟨hchar, hlt⟩ := digitChar_toNat hall.1
        have hpos : 0 < c.toNat - '0'.toNat := by
          rcases Nat.eq_zero_or_pos (c.toNat - '0'.toNat) with h0 | hpos
          · rw [h0] at hchar; exact absurd hchar.symm hc
          · exact hpos
        rw [List.foldl_cons, Nat.zero_mul, Nat.zero_add, toDigits_foldl hpos hall.2,
          Nat.toDigits_of_lt_base hlt, hchar]
        rfl

theorem toString_of_index? {token : String} {i : Nat} (h : index? token.toList = some i) :
    token = toString i := by
  rw [Nat.toString_eq_ofList_toDigits, ← toDigits_of_index? h, String.ofList_toList]

/-- No number but zero is printed with a zero in front. -/
theorem head?_toDigits {n : Nat} (hn : 0 < n) : (Nat.toDigits 10 n).head? ≠ some '0' := by
  induction n using Nat.strongRecOn with
  | ind n ih =>
      by_cases hlt : n < 10
      · rw [Nat.toDigits_of_lt_base hlt, List.head?_cons]
        intro h
        exact Nat.ne_of_gt hn (Nat.digitChar_eq_zero.mp (Option.some.inj h))
      · have hle : 10 ≤ n := Nat.le_of_not_lt hlt
        -- the first digit of a longer number is that of its tenth
        have hih := ih (n / 10) (by omega) (by omega)
        rw [Nat.toDigits_of_base_le (by decide) hle]
        cases hdigits : Nat.toDigits 10 (n / 10) with
        | nil => exact absurd hdigits Nat.toDigits_ne_nil
        | cons c rest => rwa [hdigits] at hih

/-- A printed index is read back. -/
theorem index?_toString (i : Nat) : index? (toString i).toList = some i := by
  rw [Nat.toString_eq_ofList_toDigits, String.toList_ofList]
  have hall : (Nat.toDigits 10 i).all Char.isDigit = true :=
    List.all_eq_true.mpr fun c hc => Nat.isDigit_of_mem_toDigits (by decide) (by decide) hc
  -- the printed digits spell the number, and the first one is zero only in zero
  have hread : (Nat.toDigits 10 i).foldl (fun n c => n * 10 + (c.toNat - '0'.toNat)) 0 = i := by
    have h := Nat.ofDigitChars_ten_toDigits (n := i)
    rw [Nat.ofDigitChars_eq_foldl] at h
    simpa only [Nat.mul_comm] using h
  rcases Nat.eq_zero_or_pos i with rfl | hi
  · rfl
  · have hhead := head?_toDigits hi
    cases hdigits : Nat.toDigits 10 i with
    | nil => exact absurd hdigits Nat.toDigits_ne_nil
    | cons c rest =>
        rw [hdigits] at hall hread hhead
        have hc : c ≠ '0' := fun he => hhead (congrArg some he)
        rw [index?_cons, if_neg hc, if_pos hall, hread]

end JsonSchema.Pointer
