import Mathlib.Tactic.Common
import RowSql.Json.Path
import RowSql.Proofs.Number.DecimalText
import RowSql.Proofs.Outcome
import RowSql.Proofs.Text.Offsets
import RowSql.Proofs.Text.Utf8
/-!
# Cuts — paths read at offsets in bytes

A path can be read by searching its text for brackets and cutting it at the offsets that it finds, which are
counted in bytes; a cut inside a character stops such a reader for good.  It comes to no such cut and reads what
is read character by character (`Cuts.parse_eq`): every offset that it uses is that of a character found before,
or the one behind a bracket, which takes one byte.  It comes to an end since every index that it takes off makes
the rest of the segment shorter.
-/
namespace RowSql
namespace Json.Path

/-- An opening bracket takes one byte and closes nothing. -/
theorem closing?_eq_some {c close : Char} (h : closing? c = some close) :
    c.utf8Size = 1 ∧ c ≠ close ∧ close.utf8Size = 1 := by
  unfold closing? at h
  split at h <;> cases h <;> decide

/-- The first index of a segment that begins with `c`, and what stands behind its brackets, read character by
character. -/
def readFirst? (c : Char) (cs : List Char) : Option (Nat × List Char) := do
  let close ← closing? c
  let (inner, rest) ← Decimal.splitAt? (· == close) cs
  let n ← readIndex? inner
  return (n, rest)

theorem readIndices?_cons (fuel : Nat) (c : Char) (cs : List Char) :
    readIndices? (fuel + 1) (c :: cs) =
      (readFirst? c cs).bind fun (n, rest) => (readIndices? fuel rest).map (.index n :: ·) := by
  rw [readIndices?, readFirst?]
  cases closing? c with
  | none => rfl
  | some close =>
    dsimp only [Option.bind_eq_bind, Option.bind_some]
    cases Decimal.splitAt? (· == close) cs with
    | none => rfl
    | some p =>
      dsimp only [Option.bind_some]
      cases readIndex? p.1 with
      | none => rfl
      | some n => exact Option.map_eq_bind.symm

namespace Cuts

open Text (cut? byteCount)

/-- **Why reading stops.** -/
inductive Stop where
  /-- An offset is inside a character, or behind the end. -/
  | miscut
  | fault (cause : CodecFault)

def invalid (path : String) : Stop := .fault (.badOption .json "path" s!"invalid field path {Text.quoted path}")

/-- The offset of the first character that `p` accepts. -/
def offsetOf? (p : Char → Bool) : List Char → Option Nat
  | [] => none
  | c :: cs => if p c then some 0 else (offsetOf? p cs).map (c.utf8Size + ·)

/-- The text from one offset to another. -/
def slice? (start stop : Nat) (cs : List Char) : Option (List Char) :=
  (cut? stop cs).bind fun (before, _) => (cut? start before).map Prod.snd

/-- The bracket that closes the one that is the first byte of a text. -/
def closingOfByte? (b : UInt8) : Option Char :=
  if b = 0x28 then some ')' else if b = 0x5B then some ']' else none

theorem length_of_cut? : ∀ {cs before behind : List Char} {offset : Nat}, cut? offset cs = some (before, behind) →
    before ++ behind = cs ∧ (0 < offset → before ≠ [])
  | [], before, behind, offset, h => by
    rw [cut?] at h
    split at h <;> cases h
    rename_i hzero
    exact ⟨rfl, by omega⟩
  | c :: cs, before, behind, offset, h => by
    rw [cut?] at h
    split at h
    · rename_i hzero
      cases h
      exact ⟨rfl, by omega⟩
    split at h
    · obtain ⟨⟨before', behind'⟩, hcut, heq⟩ := Option.map_eq_some_iff.1 h
      cases heq
      exact ⟨congrArg (c :: ·) (length_of_cut? hcut).1, fun _ => List.cons_ne_nil c before'⟩
    · cases h

theorem length_lt_of_cut? {cs before behind : List Char} {offset : Nat}
    (h : cut? (offset + 1) cs = some (before, behind)) :
    behind.length < cs.length := by
  obtain ⟨rfl, hne⟩ := length_of_cut? h
  have hbefore : 0 < before.length := List.length_pos_iff.2 (hne (Nat.succ_pos offset))
  rw [List.length_append]
  omega

/-- What is found; without it reading stops. -/
def orStop {α : Type} (stop : Stop) (o : Option α) : Except Stop α := o.elim (.error stop) .ok

/-- The first index of a segment, and what stands behind its brackets. -/
def firstIndex (path : String) (cs : List Char) : Except Stop (Nat × List Char) := do
  let close ← orStop (invalid path) (cs.head?.bind fun c => (String.utf8EncodeChar c).head?.bind closingOfByte?)
  let stop ← orStop (invalid path) (offsetOf? (· == close) cs)
  let n ← orStop (invalid path) (readIndex? (← orStop .miscut (slice? 1 stop cs)))
  let (_, rest) ← orStop .miscut (cut? (stop + 1) cs)
  return (n, rest)

theorem eq_some_of_orStop {α : Type} {stop : Stop} {o : Option α} {a : α} (h : orStop stop o = .ok a) : o = some a := by
  cases o <;> cases h
  rfl

theorem length_lt_of_firstIndex {path : String} {cs rest : List Char} {n : Nat}
    (h : firstIndex path cs = .ok (n, rest)) :
    rest.length < cs.length := by
  obtain ⟨close, -, h⟩ := bind_eq_ok.1 h
  obtain ⟨stop, -, h⟩ := bind_eq_ok.1 h
  obtain ⟨inner, -, h⟩ := bind_eq_ok.1 h
  obtain ⟨m, -, h⟩ := bind_eq_ok.1 h
  obtain ⟨⟨before, behind⟩, hcut, h⟩ := bind_eq_ok.1 h
  cases h
  exact length_lt_of_cut? (eq_some_of_orStop hcut)

/-- **The indices of a segment**, each cut off with its brackets. -/
def indices (path : String) (cs : List Char) : Except Stop (List Step) :=
  if cs.isEmpty then .ok []
  else
    match _h : firstIndex path cs with
    | .error stop => .error stop
    | .ok (n, rest) => (indices path rest).map (.index n :: ·)
termination_by cs.length
decreasing_by exact length_lt_of_firstIndex _h

/-- The steps of one segment: it is cut at its first bracket. -/
def segment (path : String) (cs : List Char) : Except Stop (List Step) := do
  let (key, rest) ← orStop .miscut (cut? ((offsetOf? isOpening cs).getD (byteCount cs)) cs)
  let steps ← indices path rest
  return if key.isEmpty then steps else .key (String.ofList key) :: steps

/-- **The path that a text spells**, read at offsets. -/
def parse (path : String) : Except Stop Path := do
  let (fromRoot, body) := stripRoot path.toList
  let steps := (← (split (· == '.') body).mapM (segment path)).flatten
  if steps.isEmpty then .error (invalid path) else .ok ⟨steps, fromRoot⟩

/-! ## Offsets -/

theorem offsetOf?_eq (p : Char → Bool) : ∀ cs : List Char,
    offsetOf? p cs = (Decimal.splitAt? p cs).map fun (before, _) => byteCount before
  | [] => rfl
  | c :: cs => by
    rw [offsetOf?, Decimal.splitAt?]
    by_cases hc : p c = true
    · simp [hc, byteCount]
    · simp [hc, offsetOf?_eq p cs, byteCount, Function.comp_def]

theorem offsetOf?_getD (p : Char → Bool) : ∀ cs : List Char,
    (offsetOf? p cs).getD (byteCount cs) = byteCount (cs.takeWhile fun c => !p c)
  | [] => rfl
  | c :: cs => by
    have ih := offsetOf?_getD p cs
    rw [offsetOf?]
    by_cases hc : p c = true
    · simp [hc, byteCount]
    · rw [if_neg hc, List.takeWhile_cons_of_pos (by simpa using hc), byteCount, byteCount, ← ih]
      cases offsetOf? p cs <;> rfl

theorem slice?_append (before inner behind : List Char) :
    slice? (byteCount before) (byteCount (before ++ inner)) (before ++ inner ++ behind) = some inner := by
  rw [slice?, Text.cut?_append, Option.bind_some]
  dsimp only
  rw [Text.cut?_append]
  rfl

/-! ## Brackets -/

theorem eq_of_utf8EncodeChar_eq {c d : Char} (h : String.utf8EncodeChar c = String.utf8EncodeChar d) : c = d := by
  have hc := Text.firstChar?_utf8EncodeChar c []
  rw [h, Text.firstChar?_utf8EncodeChar d []] at hc
  simpa using hc.symm

/-- A first byte that is a character by itself tells the character. -/
theorem head?_utf8EncodeChar_iff {d : Char} {b : UInt8} (hd : String.utf8EncodeChar d = [b]) (hlow : b < 0x80)
    (c : Char) :
    (String.utf8EncodeChar c).head? = some b ↔ c = d := by
  constructor
  · intro h
    refine eq_of_utf8EncodeChar_eq ?_
    rw [hd, Text.utf8EncodeChar_of_mem_ascii (List.mem_of_head? h) hlow]
  · rintro rfl
    rw [hd]
    rfl

theorem closingOfByte?_eq (c : Char) : (String.utf8EncodeChar c).head?.bind closingOfByte? = closing? c := by
  have hround := head?_utf8EncodeChar_iff (d := '(') (b := 0x28) rfl (by decide) c
  have hsquare := head?_utf8EncodeChar_iff (d := '[') (b := 0x5B) rfl (by decide) c
  by_cases hc : c = '('
  · rw [hround.2 hc, hc]
    rfl
  by_cases hc' : c = '['
  · rw [hsquare.2 hc', hc']
    rfl
  have hnone : closing? c = none := closing?.eq_3 c hc hc'
  rw [hnone]
  cases hb : (String.utf8EncodeChar c).head? with
  | none => rfl
  | some b =>
    have hb1 : b ≠ 0x28 := fun h => hc (hround.1 (hb.trans (congrArg some h)))
    have hb2 : b ≠ 0x5B := fun h => hc' (hsquare.1 (hb.trans (congrArg some h)))
    simp [closingOfByte?, hb1, hb2]

/-! ## Segments -/

/-- **The first index is cut off where it is read**, the bracket before it and the one behind it taking a byte each. -/
theorem firstIndex_eq (path : String) (c : Char) (cs : List Char) :
    firstIndex path (c :: cs) = orStop (invalid path) (readFirst? c cs) := by
  rw [firstIndex, readFirst?, List.head?_cons, Option.bind_some, closingOfByte?_eq]
  cases hclose : closing? c with
  | none => rfl
  | some close =>
    obtain ⟨hsize, hne, hsize'⟩ := closing?_eq_some hclose
    have hskip := @Decimal.splitAt?_cons_of_neg (· == close) c (beq_false_of_ne hne) cs
    have hoffset : offsetOf? (· == close) (c :: cs) =
        (Decimal.splitAt? (· == close) cs).map fun (before, _) => byteCount (c :: before) := by
      rw [offsetOf?_eq, hskip, Option.map_map]
      rfl
    cases hsplit : Decimal.splitAt? (· == close) cs with
    | none => simp [hoffset, hsplit, orStop, bind, Except.bind]
    | some p =>
      obtain ⟨inner, rest⟩ := p
      obtain ⟨d, hd, rfl⟩ := Decimal.splitAt?_eq_some hsplit
      obtain rfl : d = close := by simpa using hd
      have hone : byteCount [c] = 1 := by simp [byteCount, hsize]
      have hslice : slice? 1 (byteCount (c :: inner)) (c :: (inner ++ d :: rest)) = some inner := by
        have h := slice?_append [c] inner (d :: rest)
        rwa [hone] at h
      have hcut : cut? (byteCount (c :: inner) + 1) (c :: (inner ++ d :: rest)) = some (c :: inner ++ [d], rest) := by
        have hstop : byteCount (c :: inner ++ [d]) = byteCount (c :: inner) + 1 := by
          rw [Text.byteCount_append]
          simp [byteCount, hsize']
        have h := Text.cut?_append rest (c :: inner ++ [d])
        rw [hstop] at h
        simpa using h
      cases hindex : readIndex? inner <;>
        simp [hoffset, hsplit, hslice, hcut, hindex, orStop, bind, Except.bind, pure, Except.pure]

theorem indices_of_error {path : String} {c : Char} {cs : List Char} {stop : Stop}
    (h : firstIndex path (c :: cs) = .error stop) : indices path (c :: cs) = .error stop := by
  rw [indices, List.isEmpty_cons, if_neg Bool.false_ne_true]
  split <;> simp_all

theorem indices_of_ok {path : String} {c : Char} {cs rest : List Char} {n : Nat}
    (h : firstIndex path (c :: cs) = .ok (n, rest)) :
    indices path (c :: cs) = (indices path rest).map (.index n :: ·) := by
  rw [indices, List.isEmpty_cons, if_neg Bool.false_ne_true]
  split <;> simp_all

/-- **Cutting indices off is reading them**, with as many steps as the segment has characters. -/
theorem indices_eq (path : String) : ∀ (fuel : Nat) (cs : List Char), cs.length ≤ fuel →
    indices path cs = orStop (invalid path) (readIndices? fuel cs)
  | 0, [], _ => by simp [indices, readIndices?, orStop]
  | fuel + 1, [], _ => by simp [indices, readIndices?, orStop]
  | fuel + 1, c :: cs, hfuel => by
    have hfirst := firstIndex_eq path c cs
    rw [readIndices?_cons]
    cases hread : readFirst? c cs with
    | none =>
      rw [hread] at hfirst
      exact indices_of_error hfirst
    | some p =>
      obtain ⟨n, rest⟩ := p
      rw [hread] at hfirst
      have hlength : rest.length ≤ fuel := by
        have hlt := length_lt_of_firstIndex hfirst
        rw [List.length_cons] at hlt hfuel
        omega
      rw [indices_of_ok hfirst, indices_eq path fuel rest hlength]
      cases hrest : readIndices? fuel rest <;> simp [orStop, hrest, Except.map]

theorem segment_eq (path : String) (cs : List Char) : segment path cs = orStop (invalid path) (readSegment? cs) := by
  have hcut := Text.cut?_append (cs.dropWhile fun c => !isOpening c) (cs.takeWhile fun c => !isOpening c)
  rw [List.takeWhile_append_dropWhile] at hcut
  have hindices := indices_eq path _ (cs.dropWhile fun c => !isOpening c) (Nat.le_refl _)
  rw [segment, offsetOf?_getD, hcut, readSegment?]
  change (indices path (cs.dropWhile fun c => !isOpening c) >>= _) = _
  rw [hindices]
  cases readIndices? _ (cs.dropWhile fun c => !isOpening c) <;> rfl

theorem mapM_segment (path : String) : ∀ segments : List (List Char),
    segments.mapM (segment path) = orStop (invalid path) (segments.mapM readSegment?)
  | [] => rfl
  | cs :: segments => by
    rw [List.mapM_cons, List.mapM_cons, segment_eq, mapM_segment path segments]
    cases readSegment? cs with
    | none => rfl
    | some steps => cases segments.mapM readSegment? <;> rfl

/-- **Read at offsets, a path is what it is character by character**: no cut is inside a character. -/
theorem parse_eq (path : String) : parse path = (Path.parse path).mapError .fault := by
  rw [parse, Path.parse, read?]
  obtain ⟨fromRoot, body⟩ := stripRoot path.toList
  dsimp only
  rw [mapM_segment]
  cases (split (· == '.') body).mapM readSegment? with
  | none => rfl
  | some steps =>
    simp only [orStop, Option.elim_some, bind, Except.bind, Option.bind]
    cases steps.flatten <;> rfl

end Cuts
end Json.Path
end RowSql
