import Mathlib.Order.Bounds.Basic
import RowSql.Proofs.Function.Substrings
import RowSql.Proofs.Text.Offsets
import RowSql.Proofs.Text.Parts
/-!
# Occurrences — where a text occurs in a text

The search for a text goes by offsets in bytes, and its answer is a position in characters.  Going over to
offsets and back finds the first occurrence that is not before the place where the search begins
(`positionOf_eq`); a place at which a text begins is a position at which it is a substring (`occursAt_iff`), so
that the answer is the least such position (`positionOf_cases`).
-/
namespace RowSql
namespace TextFunction

variable {part cs : List Char}

/-- **A text occurs at a position** if the substring of its length from there on is the text, and ends in the
text that is searched. -/
def OccursAt (part cs : List Char) (p : Int) : Prop :=
  substringOf cs p (some part.length) = part ∧ p + part.length - 1 ≤ cs.length

/-- A position at which a text occurs is one behind a place at which it begins. -/
theorem occursAt_iff {n : Nat} : OccursAt part cs (n + 1) ↔ n ≤ cs.length ∧ part <+: cs.drop n := by
  have hplace : (max (Position.place (n + 1) cs.length) 0).toNat = n := by
    unfold Position.place
    rw [if_pos (by omega)]
    omega
  have hsubstring : substringOf cs (n + 1) (some part.length) = (cs.drop n).take part.length := by
    unfold substringOf
    rw [if_neg (by omega)]
    dsimp only
    rw [hplace]
    rfl
  unfold OccursAt
  rw [hsubstring, List.prefix_iff_eq_take]
  constructor
  · rintro ⟨htake, hend⟩
    exact ⟨by omega, htake.symm⟩
  · rintro ⟨hn, htake⟩
    have hlength := congrArg List.length htake
    rw [List.length_take, List.length_drop] at hlength
    exact ⟨htake.symm, by omega⟩

/-- **The search by offsets is one by places.** -/
theorem positionOf_eq (part cs : List Char) (n : Nat) :
    positionOf part cs (n + 1) =
      if n ≤ cs.length then (Text.find? part (cs.drop n)).elim 0 fun m => n + m + 1 else 0 := by
  have hskip : ((n : Int) + 1 - 1).toNat = n := by omega
  unfold positionOf
  rw [if_neg (by omega), hskip, Text.offset?_eq]
  by_cases hn : n ≤ cs.length
  · rw [if_pos hn, if_pos hn]
    simp only [Option.bind_eq_bind, Option.bind_some, Text.cut?_take]
    unfold Text.findOffset?
    cases hfind : Text.find? part (cs.drop n) with
    | none => rfl
    | some m =>
      have hm := Text.find?_le hfind
      rw [List.length_drop] at hm
      have hoffset : Text.byteCount (cs.take n) + Text.byteCount ((cs.drop n).take m) =
          Text.byteCount (cs.take (n + m)) := by
        rw [← Text.byteCount_append, ← List.take_add]
      have hcount : (cs.take (n + m)).length = n + m := by
        rw [List.length_take]
        omega
      simp only [Option.map_some, Option.bind_some, hoffset, Text.cut?_take, hcount]
      rfl
  · rw [if_neg hn, if_neg hn]
    rfl

/-- **The answer of a search**: the least position at which the text occurs, from the start on, or zero if there
is none. -/
theorem positionOf_cases (part cs : List Char) (start : Int) :
    1 ≤ start ∧ IsLeast {p | start ≤ p ∧ OccursAt part cs p} (positionOf part cs start : Int) ∨
    positionOf part cs start = 0 ∧ (start < 1 ∨ ∀ p, start ≤ p → ¬ OccursAt part cs p) := by
  by_cases hstart : start < 1
  · exact .inr ⟨if_pos hstart, .inl hstart⟩
  · obtain ⟨n, rfl⟩ : ∃ n : Nat, start = n + 1 := ⟨(start - 1).toNat, by omega⟩
    -- A position from the start on is one behind a place behind `n` more.
    have hlater {p : Int} (hp : (n : Int) + 1 ≤ p) : ∃ m : Nat, p = (n + m : Nat) + 1 := ⟨(p - 1).toNat - n, by omega⟩
    rw [positionOf_eq]
    by_cases hn : n ≤ cs.length
    · rw [if_pos hn]
      cases hfind : Text.find? part (cs.drop n) with
      | none =>
        rw [Text.find?_eq_none_iff] at hfind
        refine .inr ⟨rfl, .inr fun p hp hoccurs => ?_⟩
        obtain ⟨m, rfl⟩ := hlater hp
        rw [occursAt_iff, ← List.drop_drop] at hoccurs
        exact hfind m hoccurs.2
      | some m =>
        have hm := Text.find?_le hfind
        rw [List.length_drop] at hm
        obtain ⟨hbegins, hbefore⟩ := Text.find?_eq_some_iff.1 hfind
        rw [List.drop_drop] at hbegins
        have hposition : ((Option.elim (some m) 0 fun m => n + m + 1 : Nat) : Int) = (n + m : Nat) + 1 := rfl
        rw [hposition]
        refine .inl ⟨by omega, ⟨by omega, occursAt_iff.2 ⟨by omega, hbegins⟩⟩, ?_⟩
        rintro p ⟨hp, hoccurs⟩
        obtain ⟨k, rfl⟩ := hlater hp
        rw [occursAt_iff, ← List.drop_drop] at hoccurs
        by_contra hless
        exact hbefore k (by omega) hoccurs.2
    · rw [if_neg hn]
      refine .inr ⟨rfl, .inr fun p hp hoccurs => ?_⟩
      obtain ⟨m, rfl⟩ := hlater hp
      rw [occursAt_iff] at hoccurs
      omega

end TextFunction

namespace Function

open TextFunction (OccursAt)

/-- **A text is located at its first occurrence.**  From a start on, the answer is the least position at which
it occurs; it is zero where the start is below one and where it occurs at no position.  Without a start the
search begins at position one, and the function with its arguments the other way round gives the same.  That a
text occurs is said by the function that cuts substrings. -/
theorem locate_first (part s : String) (context : Context) :
    (∀ start : Whole, ∃ p : Nat,
      (Function.text .locate).apply context [.text part, .text s, .int start] = .ok (.ofNat p) ∧
      (1 ≤ start.toInt ∧ IsLeast {q | start.toInt ≤ q ∧ OccursAt part.toList s.toList q} (p : Int) ∨
        p = 0 ∧ (start.toInt < 1 ∨ ∀ q, start.toInt ≤ q → ¬ OccursAt part.toList s.toList q))) ∧
    (∀ p length : Whole, length.toInt = part.length →
      (OccursAt part.toList s.toList p.toInt ↔
        (Function.text .substring).apply context [.text s, .int p, .int length] = .ok (.text part) ∧
        p.toInt + part.length - 1 ≤ s.length)) ∧
    (Function.text .locate).apply context [.text part, .text s] =
      (Function.text .locate).apply context [.text part, .text s, .int 1] ∧
    (Function.text .find).apply context [.text s, .text part] =
      (Function.text .locate).apply context [.text part, .text s] := by
  have hplain : (Function.text .locate).apply context [.text part, .text s] =
      .ok (TextFunction.locateOf (.text part) (.text s) none) :=
    apply_of_present _ _ (by simp [Value.isNull]) rfl
  have hfrom (start : Whole) : (Function.text .locate).apply context [.text part, .text s, .int start] =
      .ok (.ofNat (TextFunction.positionOf part.toList s.toList start.toInt)) :=
    apply_of_present _ _ (by simp [Value.isNull]) rfl
  have hfind : (Function.text .find).apply context [.text s, .text part] =
      .ok (TextFunction.locateOf (.text part) (.text s) none) :=
    apply_of_present _ _ (by simp [Value.isNull]) rfl
  refine ⟨fun start => ⟨_, hfrom start, TextFunction.positionOf_cases _ _ _⟩, fun p length hlength => ?_, ?_, ?_⟩
  · rw [apply_substring_length, hlength]
    unfold OccursAt
    rw [String.length_toList, String.length_toList]
    refine and_congr_left' ⟨fun h => ?_, fun h => ?_⟩
    · rw [h, String.ofList_toList]
    · injection h with h
      injection h with h
      have hlist := congrArg String.toList h
      rwa [String.toList_ofList] at hlist
  · rw [hplain, hfrom]
    rfl
  · rw [hfind, hplain]

/-- A text of characters of two bytes, searched from its first occurrence on and from behind that. -/
theorem locate_first_wideCharacters :
    (2 : Whole).toInt = "öλ".length ∧
    (OccursAt "öλ".toList "aöλöλ".toList (2 : Whole).toInt ↔
      (Function.text .substring).apply default [.text "aöλöλ", .int 2, .int 2] = .ok (.text "öλ") ∧
      (2 : Whole).toInt + "öλ".length - 1 ≤ "aöλöλ".length) ∧
    ∃ p : Nat, (Function.text .locate).apply default [.text "öλ", .text "aöλöλ", .int 3] = .ok (.ofNat p) ∧
      (1 ≤ (3 : Whole).toInt ∧
          IsLeast {q | (3 : Whole).toInt ≤ q ∧ OccursAt "öλ".toList "aöλöλ".toList q} (p : Int) ∨
        p = 0 ∧ ((3 : Whole).toInt < 1 ∨ ∀ q, (3 : Whole).toInt ≤ q → ¬ OccursAt "öλ".toList "aöλöλ".toList q)) := by
  obtain ⟨hfrom, hoccurs, -⟩ := locate_first "öλ" "aöλöλ" (default : Context)
  have hlength : (2 : Whole).toInt = "öλ".length := by decide
  exact ⟨hlength, hoccurs 2 2 hlength, hfrom 3⟩

example : TextFunction.positionOf "öλ".toList "aöλöλ".toList 3 = 4 := by decide

end Function
end RowSql
