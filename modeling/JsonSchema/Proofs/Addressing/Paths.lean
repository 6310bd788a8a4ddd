import JsonSchema.Proofs.Addressing.Encoding
import JsonSchema.Uri.Reader
import Mathlib.Data.List.DropRight
import Mathlib.Data.List.TakeDrop
import Mathlib.Data.List.TakeWhile

/-!
# Blanks at the end of a path

A hierarchical path or a query takes in the blanks and control characters behind it: they are
encoded, and the URI that is written has more characters. That does not mean that the text without
them is a part of it, since a last segment such as `..` is worked off only where it stands alone.
What grows is the number of characters other than dots and slashes.
-/

namespace JsonSchema.Uri

open Percent

/-- The characters as they are written in a URI, dots and slashes not counted. -/
def bulk (cs : List Char) : Nat :=
  (encode (· == '#') cs).countP fun c => c != '/' && c != '.'

/-- The text ends with an escape that does not stand for a dot. -/
def endsEncoded (cs : List Char) : Bool :=
  match cs.reverse with
  | low :: high :: '%' :: _ =>
    low != '.' && low != ' ' && !(high == '2' && (low == 'e' || low == 'E'))
  | _ => false

theorem bulk_append (cs ds : List Char) : bulk (cs ++ ds) = bulk cs + bulk ds := by
  unfold bulk encode
  rw [List.flatMap_append, List.countP_append]

theorem bulk_le_of_prefix {cs ds : List Char} (h : cs <+: ds) : bulk cs ≤ bulk ds := by
  obtain ⟨rest, rfl⟩ := h
  rw [bulk_append]
  exact Nat.le_add_right _ _

/-- A character counts in whichever way it is written, unless it is a dot or a slash. -/
theorem exists_counted (reserved : Char → Bool) {c : Char} (hc : (c != '/' && c != '.') = true) :
    ∃ d ∈ encodeChar reserved c, (d != '/' && d != '.') = true := by
  unfold encodeChar
  split
  · refine ⟨'%', ?_, rfl⟩
    cases hbytes : String.utf8EncodeChar c with
    | nil => exact absurd hbytes String.utf8EncodeChar_ne_nil
    | cons b bs => exact List.mem_cons_self
  · exact ⟨c, List.mem_singleton_self c, hc⟩

theorem bulk_pos {cs : List Char} {c : Char} (hmem : c ∈ cs) (hc : (c != '/' && c != '.') = true) :
    0 < bulk cs := by
  obtain ⟨d, hd, hcounted⟩ := exists_counted (· == '#') hc
  exact List.countP_pos_iff.mpr ⟨d, List.mem_flatMap.mpr ⟨c, hmem, hd⟩, hcounted⟩

/-! ## Blanks and control characters -/

theorem counted_of_isEdge {c : Char} (hc : isEdge c = true) : (c != '/' && c != '.') = true := by
  have hle : c.toNat ≤ 0x20 := of_decide_eq_true hc
  rw [Bool.and_eq_true, bne_iff_ne, bne_iff_ne]
  exact ⟨fun h => absurd hle (by rw [h]; decide), fun h => absurd hle (by rw [h]; decide)⟩

theorem ne_of_isEdge {c d : Char} (hc : isEdge c = true) (hd : isEdge d = false) :
    (c == d) = false :=
  beq_eq_false_iff_ne.mpr fun he => by rw [he, hd] at hc; exact nomatch hc

theorem isSlash_edge (kind : SchemeClass) {c : Char} (hc : isEdge c = true) :
    kind.isSlash c = false := by
  unfold SchemeClass.isSlash
  have hslash : (c == '/') = false := ne_of_isEdge hc rfl
  have hback : (c == '\\') = false := ne_of_isEdge hc rfl
  rw [hslash, hback, Bool.and_false]
  rfl

section Written

variable {p : Parts}

end Written

/-! ## Paths -/

section Tail

variable {tail : List Char} (htail : ∀ c ∈ tail, isEdge c = true) (hne : tail ≠ [])

include htail hne

end Tail

theorem endsEncoded_append (cs : List Char) {ds : List Char} (h : endsEncoded ds = true) :
    endsEncoded (cs ++ ds) = true := by
  unfold endsEncoded at h ⊢
  rw [List.reverse_append]
  split at h
  · rename_i heq
    rw [heq]
    exact h
  · exact nomatch h

theorem endsEncoded_encodeChar {c : Char} (hc : isEdge c = true) :
    endsEncoded (encodeChar inPath c) = true := by
  have hall : ∀ n < 0x21, endsEncoded (encodeChar inPath (Char.ofNat n)) = true := by
    decide +kernel
  have hle : c.toNat ≤ 0x20 := of_decide_eq_true hc
  rw [← Char.ofNat_toNat c]
  exact hall c.toNat (by omega)

/-- Neither dots nor a drive are spelled like this. -/
theorem plain_of_endsEncoded {cs : List Char} (h : endsEncoded cs = true) :
    isDoubleDot cs = false ∧ isSingleDot cs = false ∧ isDrive cs = false := by
  refine ⟨?_, ?_, ?_⟩
  · rw [Bool.eq_false_iff]
    intro hdots
    unfold isDoubleDot at hdots
    have hall : ∀ ds ∈ ["..", "%2e%2e", "%2e%2E", "%2E%2e", "%2E%2E", "%2e.", "%2E.", ".%2e",
        ".%2E"].map String.toList, endsEncoded ds = false := by decide
    exact absurd h (Bool.eq_false_iff.mp (hall cs (of_decide_eq_true hdots)))
  · rw [Bool.eq_false_iff]
    intro hdot
    unfold isSingleDot at hdot
    have hall : ∀ ds ∈ [".", "%2e", "%2E"].map String.toList, endsEncoded ds = false := by decide
    exact absurd h (Bool.eq_false_iff.mp (hall cs (of_decide_eq_true hdot)))
  · -- an escape alone is longer than a drive
    unfold endsEncoded at h
    split at h
    · rename_i low high rest heq
      have hcs : cs = rest.reverse ++ ['%', high, low] := by
        rw [← cs.reverse_reverse, heq]
        simp
      rw [hcs]
      rcases rest.reverse with _ | ⟨_, _ | ⟨_, _ | ⟨_, _⟩⟩⟩ <;> rfl
    · exact nomatch h

/-! ### Segments -/

section Segments

variable (kind : SchemeClass)

theorem upToLastSlash_isPrefix (path : List Char) : upToLastSlash path <+: path :=
  List.rdropWhile_prefix _ _

theorem goUp_isPrefix (path : List Char) : goUp kind path <+: path := by
  have hpop : ∀ front : List Char, front <+: path →
      (if kind = .file ∧ isNormalDrive front then front else popSegment kind front) <+: path := by
    intro front hfront
    unfold popSegment
    split
    · exact hfront
    · split
      · exact hfront
      · split
        · exact hfront
        · exact (upToLastSlash_isPrefix front).trans hfront
  unfold goUp
  dsimp only
  split
  · exact hpop _ (List.dropLast_prefix path)
  · exact hpop _ List.prefix_rfl

theorem bulk_withSlash (path : List Char) : bulk (withSlash path) = bulk path := by
  unfold withSlash
  split
  · rfl
  · exact bulk_append path ['/']

/-- A drive has two characters in either spelling. -/
theorem bulk_drive {segment : List Char} (h : isDrive segment = true) :
    bulk (segment.take 1 ++ [':']) = bulk segment := by
  match segment, h with
  | [a, b], h =>
      unfold isDrive at h
      simp only [Bool.and_eq_true, Bool.or_eq_true, beq_iff_eq] at h
      have hpair : ∀ c, bulk [a, c] = bulk [a] + bulk [c] := fun c => bulk_append [a] [c]
      show bulk [a, ':'] = bulk [a, b]
      rw [hpair, hpair]
      rcases h.2 with rfl | rfl <;> rfl

namespace PathState

/-- **A segment that ends adds no characters.** -/
theorem bulk_endSegment_le (s : PathState) (slash : Bool) :
    bulk (s.endSegment kind slash).path ≤ bulk s.path := by
  have hsplit : bulk s.path = bulk (s.path.take s.start) + bulk (s.path.drop s.start) := by
    rw [← bulk_append, List.take_append_drop]
  have hslash : ∀ path : List Char, bulk (if slash then path ++ ['/'] else path) = bulk path :=
    fun path => by
      split
      · exact bulk_append path ['/']
      · rfl
  unfold endSegment
  dsimp only
  split
  · -- the segment and the one before it are taken away
    have hup := bulk_le_of_prefix (goUp_isPrefix kind (s.path.take s.start))
    dsimp only
    split
    · rw [bulk_withSlash]; omega
    · omega
  · split
    · dsimp only
      rw [bulk_withSlash]; omega
    · split
      · rename_i hdrive
        have hsame := bulk_drive hdrive.2.2
        have hend : bulk (if slash then ['/'] else []) = 0 := by split <;> rfl
        dsimp only
        rw [bulk_append, bulk_append, hend, hsame]
        omega
      · exact Nat.le_of_eq (hslash s.path)

theorem putChar_eq (s : PathState) (c : Char) : ∃ gap : List Char,
    s.putChar kind c = { s with path := s.path ++ gap ++ encodeChar inPath c,
                                start := s.start + gap.length } := by
  unfold putChar
  dsimp only
  split
  · exact ⟨['/'], rfl⟩
  · exact ⟨[], by simp⟩

theorem start_putChar {s : PathState} (h : s.start ≤ s.path.length) (c : Char) :
    (s.putChar kind c).start ≤ (s.putChar kind c).path.length := by
  obtain ⟨gap, heq⟩ := putChar_eq kind s c
  rw [heq]
  simp only [List.length_append]
  omega

theorem start_endSegment (s : PathState) (slash : Bool) :
    (s.endSegment kind slash).start ≤ (s.endSegment kind slash).path.length := Nat.le_refl _

/-- What a segment becomes when blanks and control characters are put behind it. -/
structure Lengthened (s s' : PathState) : Prop where
  /-- The host is not touched. -/
  hasHost : s'.hasHost = s.hasHost
  /-- There are more characters. -/
  bulk : bulk s.path < bulk s'.path
  /-- The segment is neither dots nor a drive. -/
  ends : endsEncoded (s'.path.drop s'.start) = true
  /-- It is part of the path. -/
  start : s'.start ≤ s'.path.length

theorem lengthened_putChar {s : PathState} (hs : s.start ≤ s.path.length) {c : Char}
    (hc : isEdge c = true) : s.Lengthened (s.putChar kind c) := by
  refine ⟨?_, ?_, ?_, start_putChar kind hs c⟩ <;> obtain ⟨gap, heq⟩ := putChar_eq kind s c <;>
    rw [heq]
  · obtain ⟨d, hd, hcounted⟩ := exists_counted inPath (counted_of_isEdge hc)
    have hpos := bulk_pos hd hcounted
    dsimp only
    rw [bulk_append, bulk_append]
    omega
  · dsimp only
    rw [List.drop_append_of_le_length (by simp only [List.length_append]; omega)]
    exact endsEncoded_append _ (endsEncoded_encodeChar hc)

theorem lengthened_foldl {tail : List Char} (htail : ∀ c ∈ tail, isEdge c = true) (hne : tail ≠ [])
    {s : PathState} (hs : s.start ≤ s.path.length) :
    s.Lengthened (tail.foldl (PathState.putChar kind) s) := by
  induction tail generalizing s with
  | nil => exact absurd rfl hne
  | cons c tail ih =>
      have hfirst : s.Lengthened (s.putChar kind c) :=
        lengthened_putChar kind hs (htail c List.mem_cons_self)
      rw [List.foldl_cons]
      by_cases hrest : tail = []
      · rw [hrest]
        exact hfirst
      · have hmore := ih (fun d hd => htail d (List.mem_cons_of_mem c hd)) hrest hfirst.start
        exact ⟨hmore.hasHost.trans hfirst.hasHost, Nat.lt_trans hfirst.bulk hmore.bulk, hmore.ends,
          hmore.start⟩

/-- Such a segment is kept as it is. -/
theorem endSegment_of_endsEncoded {s : PathState} (h : endsEncoded (s.path.drop s.start) = true) :
    s.endSegment kind false = { s with start := s.path.length } := by
  obtain ⟨hdouble, hsingle, hdrive⟩ := plain_of_endsEncoded h
  unfold endSegment
  simp only [hdouble, hsingle, hdrive, Bool.false_eq_true, and_false, if_false]

theorem hasHost_endSegment (s : PathState) (slash : Bool) :
    (s.endSegment kind slash).hasHost = true → s.hasHost = true := by
  unfold endSegment
  dsimp only
  split
  · exact id
  · split
    · exact id
    · split
      · exact nofun
      · exact id

theorem extend_edges {tail : List Char} (htail : ∀ c ∈ tail, isEdge c = true) (s : PathState) :
    PathState.extend kind s tail =
      ((tail.foldl (PathState.putChar kind) s).endSegment kind false, []) := by
  induction tail generalizing s with
  | nil => rfl
  | cons c tail ih =>
      have hc := htail c List.mem_cons_self
      have hstop : ¬ (c = '?' ∨ c = '#') := by
        rintro (rfl | rfl) <;> exact nomatch hc
      unfold PathState.extend
      rw [isSlash_edge kind hc, if_neg Bool.false_ne_true, if_neg hstop]
      exact ih (fun d hd => htail d (List.mem_cons_of_mem c hd)) _

end PathState

/-- What becomes of the slashes at the front of a path. -/
def rooted (kind : SchemeClass) (path : List Char) : List Char :=
  if kind = .file then '/' :: path.dropWhile (· == '/') else path

end Segments

section Tail

variable (kind : SchemeClass) {tail : List Char} (htail : ∀ c ∈ tail, isEdge c = true)
  (hne : tail ≠ [])

include htail hne

/-- A path either ends in front of the blanks, and then they are left over, or goes on with them,
and then it has more characters. -/
theorem PathState.extend_append {s : PathState} (hs : s.start ≤ s.path.length) (cs : List Char) :
    ((extend kind s cs).2 ≠ [] ∧ extend kind s (cs ++ tail) =
      ((extend kind s cs).1, (extend kind s cs).2 ++ tail)) ∨
    ((extend kind s cs).2 = [] ∧ (extend kind s (cs ++ tail)).2 = [] ∧
      bulk (extend kind s cs).1.path < bulk (extend kind s (cs ++ tail)).1.path ∧
      ((extend kind s cs).1.hasHost = true → (extend kind s (cs ++ tail)).1.hasHost = true) ∧
      endsEncoded (extend kind s (cs ++ tail)).1.path = true) := by
  induction cs generalizing s with
  | nil =>
      right
      have hlong := lengthened_foldl kind htail hne hs
      have hle := bulk_endSegment_le kind s false
      rw [List.nil_append, extend_edges kind htail, endSegment_of_endsEncoded kind hlong.ends]
      refine ⟨rfl, rfl, Nat.lt_of_le_of_lt hle hlong.bulk, fun hhost => ?_, ?_⟩
      · exact hlong.hasHost.trans (hasHost_endSegment kind s false hhost)
      · have hends := endsEncoded_append ((tail.foldl (putChar kind) s).path.take
          (tail.foldl (putChar kind) s).start) hlong.ends
        rwa [List.take_append_drop] at hends
  | cons c cs ih =>
      rw [List.cons_append]
      unfold extend
      split
      · exact ih (start_endSegment kind s true)
      · split
        · exact .inl ⟨List.cons_ne_nil c cs, rfl⟩
        · exact ih (start_putChar kind hs c)

end Tail

end JsonSchema.Uri
