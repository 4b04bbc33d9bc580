import RowSql.Proofs.Json.Cuts
import RowSql.Proofs.Number.DecimalLayouts
/-!
# Paths — paths as they are spelled

A segment is spelled by its key and its indices, each between brackets, and a path by its segments with points
between them.  What is spelled is read back (`read?_spell`): points stand in no segment, an opening bracket in
no key, a closing one in no number.  A key without characters makes no step, so every segment has a key or an
index.
-/
namespace RowSql
namespace Json.Path

/-- The brackets around an index. -/
inductive Bracket where
  | round
  | square
deriving DecidableEq, Repr

namespace Bracket

def opening : Bracket → Char
  | round => '('
  | square => '['

def closing : Bracket → Char
  | round => ')'
  | square => ']'

@[simp] theorem closing?_opening (b : Bracket) : closing? b.opening = some b.closing := by cases b <;> rfl

@[simp] theorem isOpening_opening (b : Bracket) : isOpening b.opening = true := by cases b <;> rfl

@[simp] theorem isDigit_closing (b : Bracket) : b.closing.isDigit = false := by cases b <;> rfl

theorem ne_point (b : Bracket) : b.opening ≠ '.' ∧ b.closing ≠ '.' := by cases b <;> decide

end Bracket

/-- **A segment of a path**: a key and indices, at least one of them. -/
structure Segment where
  key : String
  indices : List (Bracket × Nat)
  plain : ∀ c ∈ key.toList, c ≠ '.' ∧ c ≠ '(' ∧ c ≠ '['
  inRange : ∀ i ∈ indices, i.2 < indexLimit
  nonempty : key ≠ "" ∨ indices ≠ []

def writeIndex (i : Bracket × Nat) : List Char := i.1.opening :: (Decimal.digitChars i.2 ++ [i.1.closing])

/-- The segment as text. -/
def Segment.write (s : Segment) : List Char := s.key.toList ++ s.indices.flatMap writeIndex

/-- The steps of a segment: its key, if it has characters, and its indices. -/
def Segment.steps (s : Segment) : List Step :=
  (if s.key = "" then [] else [.key s.key]) ++ s.indices.map fun i => .index i.2

/-- **The text of a path**: its prefix, if it is anchored, and its segments with points between them. -/
def spell (anchored : Bool) (segments : List Segment) : List Char :=
  (if anchored then rootPrefix else []) ++ ['.'].intercalate (segments.map Segment.write)

/-! ## Pieces -/

theorem split_eq_splitOnP (p : Char → Bool) : ∀ cs : List Char, split p cs = cs.splitOnP p
  | [] => List.splitOnP_nil.symm
  | c :: cs => by
    rw [split, List.splitOnP_cons_eq_if_modifyHead, split_eq_splitOnP p cs]
    -- no text has no pieces
    cases hsplit : cs.splitOnP p with
    | nil => exact absurd hsplit (List.splitOnP_ne_nil p cs)
    | cons w ws => rfl

/-! ## Indices -/

theorem readIndex?_digitChars {n : Nat} (h : n < indexLimit) : readIndex? (Decimal.digitChars n) = some n := by
  have hdigit := Decimal.isDigit_digitChars n
  have htrim : Text.trim (Decimal.digitChars n) = Decimal.digitChars n :=
    Text.trim_of_forall fun c hc => Text.not_isSpace_of_isDigit (hdigit c hc)
  have hread := Decimal.readPlain_digitChars n
  rw [readIndex?, htrim]
  cases hds : Decimal.digitChars n with
  | nil => exact absurd hds (Decimal.digitChars_ne_nil n)
  | cons d ds =>
    rw [hds] at hdigit hread
    -- no sign stands before the digits
    have hsign : d ≠ '+' := Decimal.ne_of_isDigit (hdigit d List.mem_cons_self) rfl
    split
    · rename_i heq
      exact absurd (List.cons.inj heq).1 hsign
    · simp [hread, h]

theorem readFirst?_write (b : Bracket) {n : Nat} (h : n < indexLimit) (cs : List Char) :
    readFirst? b.opening (Decimal.digitChars n ++ b.closing :: cs) = some (n, cs) := by
  have hclosing : ∀ c ∈ Decimal.digitChars n, (c == b.closing) = false := fun c hc =>
    beq_false_of_ne (Decimal.ne_of_isDigit (Decimal.isDigit_digitChars n c hc) b.isDigit_closing)
  have hsplit := @Decimal.splitAt?_append (· == b.closing) b.closing (beq_self_eq_true b.closing) cs _ hclosing
  simp [readFirst?, hsplit, readIndex?_digitChars h]

theorem readIndices?_write : ∀ {indices : List (Bracket × Nat)} {fuel : Nat}, (∀ i ∈ indices, i.2 < indexLimit) →
    (indices.flatMap writeIndex).length ≤ fuel →
    readIndices? fuel (indices.flatMap writeIndex) = some (indices.map fun i => .index i.2)
  | [], _, _, _ => by rw [List.flatMap_nil, readIndices?, List.map_nil]
  | (b, n) :: indices, 0, _, hfuel => by simp [writeIndex] at hfuel
  | (b, n) :: indices, fuel + 1, h, hfuel => by
    obtain ⟨hn, hindices⟩ := List.forall_mem_cons.1 h
    have hwrite : ((b, n) :: indices).flatMap writeIndex =
        b.opening :: (Decimal.digitChars n ++ b.closing :: indices.flatMap writeIndex) := by simp [writeIndex]
    rw [hwrite] at hfuel ⊢
    have hrest : (indices.flatMap writeIndex).length ≤ fuel := by
      simp only [List.length_cons, List.length_append] at hfuel
      omega
    rw [readIndices?_cons, readFirst?_write b hn, Option.bind_some]
    dsimp only
    rw [readIndices?_write hindices hrest]
    rfl

/-! ## Segments -/

variable {s : Segment}

theorem Segment.isOpening_key {c : Char} (hc : c ∈ s.key.toList) : isOpening c = false := by
  obtain ⟨-, hround, hsquare⟩ := s.plain c hc
  simp [isOpening, hround, hsquare]

/-- What stands behind a key is nothing, or begins with a bracket. -/
theorem takeWhile_writeIndex (indices : List (Bracket × Nat)) :
    (indices.flatMap writeIndex).takeWhile (fun c => !isOpening c) = [] ∧
      (indices.flatMap writeIndex).dropWhile (fun c => !isOpening c) = indices.flatMap writeIndex := by
  cases indices <;> simp [writeIndex]

theorem Segment.readSegment?_write (s : Segment) : readSegment? s.write = some s.steps := by
  have hopening : ∀ c ∈ s.key.toList, (!isOpening c) = true := fun c hc => by rw [s.isOpening_key hc]; rfl
  obtain ⟨htake, hdrop⟩ := takeWhile_writeIndex s.indices
  have hkey : s.write.takeWhile (fun c => !isOpening c) = s.key.toList := by
    rw [write, List.takeWhile_append_of_pos hopening, htake, List.append_nil]
  have hrest : s.write.dropWhile (fun c => !isOpening c) = s.indices.flatMap writeIndex := by
    rw [write, List.dropWhile_append_of_pos hopening, hdrop]
  rw [readSegment?, hkey, hrest, readIndices?_write s.inRange (Nat.le_refl _)]
  by_cases hempty : s.key = "" <;> simp [Segment.steps, hempty]

theorem Segment.steps_ne_nil (s : Segment) : s.steps ≠ [] := by
  rcases s.nonempty with hkey | hindices
  · simp [Segment.steps, hkey]
  · simp [Segment.steps, hindices]

theorem point_not_mem_writeIndex (i : Bracket × Nat) : '.' ∉ writeIndex i := by
  have hdigits : '.' ∉ Decimal.digitChars i.2 := fun h => absurd (Decimal.isDigit_digitChars i.2 '.' h) (by decide)
  simp [writeIndex, hdigits, i.1.ne_point.1.symm, i.1.ne_point.2.symm]

theorem Segment.point_not_mem_write (s : Segment) : '.' ∉ s.write := by
  rw [write, List.mem_append, List.mem_flatMap]
  rintro (hkey | ⟨i, -, hi⟩)
  · exact (s.plain '.' hkey).1 rfl
  · exact point_not_mem_writeIndex i hi

theorem mapM_readSegment?_write : ∀ segments : List Segment,
    (segments.map Segment.write).mapM readSegment? = some (segments.map Segment.steps)
  | [] => rfl
  | s :: segments => by
    rw [List.map_cons, List.mapM_cons, s.readSegment?_write, mapM_readSegment?_write segments]
    rfl

/-! ## Paths -/

/-- **The prefix is taken off where it was written**, and nowhere else. -/
theorem stripRoot_spell {anchored : Bool} {segments : List Segment}
    (hroot : anchored = false → ¬ rootPrefix <+: spell anchored segments) :
    stripRoot (spell anchored segments) = (anchored, ['.'].intercalate (segments.map Segment.write)) := by
  cases anchored with
  | true => simp [stripRoot, spell]
  | false =>
    rw [stripRoot, if_neg (by simpa using hroot rfl)]
    rfl

/-- **A path that is spelled is read back**: the points are between its segments, and each segment is read as
its steps. -/
theorem read?_spell {anchored : Bool} {segments : List Segment} (hne : segments ≠ [])
    (hroot : anchored = false → ¬ rootPrefix <+: spell anchored segments) :
    read? (spell anchored segments) = some ⟨segments.flatMap Segment.steps, anchored⟩ := by
  have hsplit : split (· == '.') (['.'].intercalate (segments.map Segment.write)) = segments.map Segment.write := by
    rw [split_eq_splitOnP]
    exact List.splitOn_intercalate '.' (by simpa using fun s _ => s.point_not_mem_write) (by simpa using hne)
  have hsteps : ¬ (segments.flatMap Segment.steps).isEmpty = true := by
    obtain ⟨s, rest, rfl⟩ := List.exists_cons_of_ne_nil hne
    simp [s.steps_ne_nil]
  rw [read?, stripRoot_spell hroot]
  dsimp only
  rw [hsplit, mapM_readSegment?_write, Option.bind_eq_bind, Option.bind_some, ← List.flatMap_def, if_neg hsteps]

/-- What is read as a path has a step. -/
theorem steps_ne_nil_of_read? {cs : List Char} {path : Path} (h : read? cs = some path) : path.steps ≠ [] := by
  obtain ⟨segments, -, h⟩ := Option.bind_eq_some_iff.1 h
  obtain ⟨hsteps, hpath⟩ := Option.ite_none_left_eq_some.1 h
  cases hpath
  exact fun hnil => hsteps (List.isEmpty_iff.2 hnil)

/-- **A text is read as the path that it spells, or refused.**  Segments with points between them, with the
prefix before them or without it, are read as their keys that have characters and their indices, in order.  Any
other text is read as a path with a step, or refused with a message that quotes it.  Read at offsets in bytes,
no text is cut inside a character. -/
theorem parse_spell :
    (∀ (anchored : Bool) (segments : List Segment), segments ≠ [] →
      (anchored = false → ¬ rootPrefix <+: spell anchored segments) →
      parse (String.ofList (spell anchored segments)) = .ok ⟨segments.flatMap Segment.steps, anchored⟩) ∧
    (∀ text : String, parse text = .error (.badOption .json "path" s!"invalid field path {Text.quoted text}") ∨
      ∃ path, parse text = .ok path ∧ path.steps ≠ []) ∧
    (∀ text : String, Cuts.parse text = (parse text).mapError .fault) := by
  refine ⟨fun anchored segments hne hroot => ?_, fun text => ?_, Cuts.parse_eq⟩
  · rw [parse, String.toList_ofList, read?_spell hne hroot]
  · rw [parse]
    cases hread : read? text.toList with
    | none => exact .inl rfl
    | some path => exact .inr ⟨path, rfl, steps_ne_nil_of_read? hread⟩

/-- A key beyond ASCII with indices in both brackets, indices without a key, and a key that is a bracket. -/
def matrix : List Segment :=
  [⟨"größe", [(.round, 0), (.square, 18446744073709551615)], by simp, by simp [indexLimit], by simp⟩,
    ⟨"", [(.square, 12)], by simp, by simp [indexLimit], by simp⟩, ⟨")", [], by simp, by simp, by simp⟩]

theorem parse_spell_matrix :
    matrix ≠ [] ∧ ¬ rootPrefix <+: spell false matrix ∧
    parse "größe(0)[18446744073709551615].[12].)" =
      .ok ⟨[.key "größe", .index 0, .index 18446744073709551615, .index 12, .key ")"], false⟩ ∧
    parse "$root.größe(0)[18446744073709551615].[12].)" =
      .ok ⟨[.key "größe", .index 0, .index 18446744073709551615, .index 12, .key ")"], true⟩ := by
  have hne : matrix ≠ [] := List.cons_ne_nil _ _
  have hroot : ¬ rootPrefix <+: spell false matrix := by decide
  exact ⟨hne, hroot, parse_spell.1 false matrix hne fun _ => hroot, parse_spell.1 true matrix hne nofun⟩

end Json.Path
end RowSql
