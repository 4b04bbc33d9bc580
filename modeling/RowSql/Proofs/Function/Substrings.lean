import RowSql.Function
import RowSql.Proofs.Position
/-!
# Substrings — cutting texts by position

The functions that cut texts count characters.  A substring holds the characters between two positions
(`substringOf_some`), of which the first is counted from the start and is at least one (`BeginsAt`).  The first
characters of a text are a substring from position one, and the last ones a substring from a position that is
counted from the end (`rightOf_eq`).
-/
namespace RowSql
namespace TextFunction

open Position (between)

/-- **The first position of a substring**: one from the end that is before the first character is that of the
first character. -/
def BeginsAt (start : Int) (length : Nat) (p : Int) : Prop :=
  1 ≤ start ∧ p = start ∨ start ≤ -1 ∧ p = max (length + start) 0 + 1

theorem BeginsAt.ne_zero {start p : Int} {length : Nat} (h : BeginsAt start length p) : start ≠ 0 := by
  unfold BeginsAt at h
  omega

theorem BeginsAt.one_le {start p : Int} {length : Nat} (h : BeginsAt start length p) : 1 ≤ p := by
  unfold BeginsAt at h
  omega

theorem BeginsAt.place_eq {start p : Int} {length : Nat} (h : BeginsAt start length p) :
    max (Position.place start length) 0 = p - 1 := by
  unfold BeginsAt at h
  unfold Position.place
  split <;> omega

variable {cs : List Char} {start p : Int}

theorem substringOf_none (h : BeginsAt start cs.length p) : substringOf cs start none = between p cs.length cs := by
  unfold substringOf
  rw [if_neg h.ne_zero, h.place_eq, Position.between_length h.one_le]

theorem substringOf_some (h : BeginsAt start cs.length p) (n : Int) :
    substringOf cs start (some n) = between p (p + max n 0 - 1) cs := by
  have hlength : (p + max n 0 - 1 + 1 - p).toNat = n.toNat := by omega
  unfold substringOf
  rw [if_neg h.ne_zero, h.place_eq, Position.between_eq h.one_le, hlength]

theorem substringOf_zero (cs : List Char) (length : Option Int) : substringOf cs 0 length = [] := if_pos rfl

theorem rightOf_eq (cs : List Char) {n : Int} (hn : 0 ≤ n) : rightOf cs n = substringOf cs (-n) none := by
  unfold rightOf
  by_cases hzero : n = 0
  · subst hzero
    exact List.drop_length
  · have hbegins : BeginsAt (-n) cs.length (max (cs.length - n) 0 + 1) := .inr ⟨by omega, rfl⟩
    have hplace : (max (cs.length - n) 0 + 1 - 1).toNat = cs.length - n.toNat := by omega
    rw [substringOf_none hbegins, Position.between_length hbegins.one_le, hplace]

theorem leftOf_append_rightOf {k m : Int} (hk : 0 ≤ k) (hm : 0 ≤ m) (h : k + m = cs.length) :
    leftOf cs k ++ rightOf cs m = cs := by
  have hcut : cs.length - m.toNat = k.toNat := by omega
  unfold leftOf rightOf
  rw [hcut, List.take_append_drop]

theorem substringOf_append (cs : List Char) {k : Int} (hk : 0 ≤ k) :
    substringOf cs 1 (some k) ++ substringOf cs (k + 1) none = cs := by
  have hlast : 1 + max k 0 - 1 = k := by omega
  rw [substringOf_some (.inl ⟨Int.le_refl 1, rfl⟩), substringOf_none (.inl ⟨by omega, rfl⟩), hlast,
    Position.between_append hk]

/-! ## On values -/

theorem substringAt_eq (s : String) (start : Whole) (length : Option Whole) :
    substringAt (.text s) (.int start) (length.map Value.int) =
      .text (String.ofList (substringOf s.toList start.toInt (length.map Int64.toInt))) := by
  unfold substringAt
  simp only [Value.toText?_text, Value.toWhole?_int]
  by_cases hzero : start.toInt = 0
  · rw [if_pos hzero, hzero, substringOf_zero, String.ofList_nil]
  · rw [if_neg hzero]
    cases length <;> rfl

theorem onTextAndWhole_int (f : List Char → Int → List Char) (s : String) (n : Whole) :
    onTextAndWhole f (.text s) (.int n) = .text (String.ofList (f s.toList n.toInt)) := by
  unfold onTextAndWhole
  simp only [Value.toText?_text, Value.toWhole?_int]

end TextFunction

namespace Function

open Position (between)
open TextFunction (BeginsAt)

theorem apply_substring_length (context : Context) (s : String) (start n : Whole) :
    (Function.text .substring).apply context [.text s, .int start, .int n] =
      .ok (.text (String.ofList (TextFunction.substringOf s.toList start.toInt (some n.toInt)))) := by
  have hcut := TextFunction.substringAt_eq s start (some n)
  rw [Option.map_some, Option.map_some] at hcut
  rw [← hcut]
  exact apply_of_present _ _ (by simp [Value.isNull]) rfl

theorem apply_substring (context : Context) (s : String) (start : Whole) :
    (Function.text .substring).apply context [.text s, .int start] =
      .ok (.text (String.ofList (TextFunction.substringOf s.toList start.toInt none))) := by
  have hcut := TextFunction.substringAt_eq s start none
  rw [Option.map_none, Option.map_none] at hcut
  rw [← hcut]
  exact apply_of_present _ _ (by simp [Value.isNull]) rfl

theorem apply_left (context : Context) (s : String) (n : Whole) :
    (Function.text .left).apply context [.text s, .int n] =
      .ok (.text (String.ofList (TextFunction.leftOf s.toList n.toInt))) := by
  rw [← TextFunction.onTextAndWhole_int]
  exact apply_of_present _ _ (by simp [Value.isNull]) rfl

theorem apply_right (context : Context) (s : String) (n : Whole) :
    (Function.text .right).apply context [.text s, .int n] =
      .ok (.text (String.ofList (TextFunction.rightOf s.toList n.toInt))) := by
  rw [← TextFunction.onTextAndWhole_int]
  exact apply_of_present _ _ (by simp [Value.isNull]) rfl

/-- **Cutting texts by position**, at every word.  A substring holds the characters at as many positions as it
is long, or all behind its first one; position zero begins none.  The first characters are a substring from
position one and the last ones a substring from a position counted from the end.  Where a text is cut in two,
the parts make it up.  Places are words, if a word can say how many characters there are. -/
theorem text_cuts (s : String) (context : Context) :
    (∀ (start n : Whole) (p : Int), BeginsAt start.toInt s.length p →
      (Function.text .substring).apply context [.text s, .int start, .int n] =
        .ok (.text (String.ofList (between p (p + max n.toInt 0 - 1) s.toList))) ∧
      (Function.text .substring).apply context [.text s, .int start] =
        .ok (.text (String.ofList (between p s.length s.toList)))) ∧
    (∀ n : Whole, (Function.text .substring).apply context [.text s, .int 0, .int n] = .ok (.text "") ∧
      (Function.text .substring).apply context [.text s, .int 0] = .ok (.text "")) ∧
    (∀ n : Whole, (Function.text .left).apply context [.text s, .int n] =
      (Function.text .substring).apply context [.text s, .int 1, .int n]) ∧
    (∀ n : Whole, 0 ≤ n.toInt → (Function.text .right).apply context [.text s, .int n] =
      (Function.text .substring).apply context [.text s, .int (-n)]) ∧
    (∀ k m : Whole, 0 ≤ k.toInt → 0 ≤ m.toInt → k.toInt + m.toInt = s.length → ∃ a b,
      (Function.text .left).apply context [.text s, .int k] = .ok (.text a) ∧
      (Function.text .right).apply context [.text s, .int m] = .ok (.text b) ∧ a ++ b = s) ∧
    (∀ k : Whole, 0 ≤ k.toInt → k.toInt < Whole.greatest → ∃ a b,
      (Function.text .substring).apply context [.text s, .int 1, .int k] = .ok (.text a) ∧
      (Function.text .substring).apply context [.text s, .int (k + 1)] = .ok (.text b) ∧ a ++ b = s) ∧
    (s.length ≤ Whole.greatest → ∀ start : Whole,
      Whole.least ≤ Position.place start.toInt s.length ∧ Position.place start.toInt s.length ≤ Whole.greatest) := by
  have htext {a b : List Char} (h : a ++ b = s.toList) : String.ofList a ++ String.ofList b = s := by
    rw [← String.ofList_append, h, String.ofList_toList]
  refine ⟨fun start n p hp => ⟨?_, ?_⟩, fun n => ⟨?_, ?_⟩, fun n => ?_, fun n hn => ?_, fun k m hk hm hlength => ?_,
    fun k hk hlast => ?_, fun hlength start => Position.place_inRange start hlength⟩
  · rw [← String.length_toList] at hp
    rw [apply_substring_length, TextFunction.substringOf_some hp]
  · rw [← String.length_toList] at hp ⊢
    rw [apply_substring, TextFunction.substringOf_none hp]
  · rw [apply_substring_length]
    rfl
  · rw [apply_substring]
    rfl
  · rw [apply_left, apply_substring_length]
    rfl
  · have hneg : (-n).toInt = -n.toInt := Whole.toInt_neg (by unfold Whole.least; omega)
    rw [apply_right, apply_substring, hneg, TextFunction.rightOf_eq _ hn]
  · rw [← String.length_toList] at hlength
    exact ⟨_, _, apply_left context s k, apply_right context s m,
      htext (TextFunction.leftOf_append_rightOf hk hm hlength)⟩
  · have hnext : (k + 1).toInt = k.toInt + 1 := Whole.toInt_add_one hlast
    have hone : (1 : Whole).toInt = 1 := rfl
    refine ⟨_, _, apply_substring_length context s 1 k, apply_substring context s (k + 1), htext ?_⟩
    rw [hone, hnext, TextFunction.substringOf_append _ hk]

/-- Counts at the ends of the words, on characters of more than one byte. -/
theorem text_cuts_endsOfWords :
    BeginsAt Int64.minValue.toInt "höλ".length 1 ∧
    (Function.text .substring).apply default [.text "höλ", .int Int64.minValue, .int 2] =
      .ok (.text (String.ofList (between 1 (1 + max (2 : Whole).toInt 0 - 1) "höλ".toList))) ∧
    0 ≤ Int64.maxValue.toInt ∧
    (Function.text .right).apply default [.text "höλ", .int Int64.maxValue] =
      (Function.text .substring).apply default [.text "höλ", .int (-Int64.maxValue)] ∧
    0 ≤ (1 : Whole).toInt ∧ 0 ≤ (2 : Whole).toInt ∧ (1 : Whole).toInt + (2 : Whole).toInt = "höλ".length ∧ (∃ a b,
      (Function.text .left).apply default [.text "höλ", .int 1] = .ok (.text a) ∧
      (Function.text .right).apply default [.text "höλ", .int 2] = .ok (.text b) ∧ a ++ b = "höλ") ∧
    (2 : Whole).toInt < Whole.greatest ∧ (∃ a b,
      (Function.text .substring).apply default [.text "höλ", .int 1, .int 2] = .ok (.text a) ∧
      (Function.text .substring).apply default [.text "höλ", .int (2 + 1)] = .ok (.text b) ∧ a ++ b = "höλ") ∧
    "höλ".length ≤ Whole.greatest ∧ Whole.least ≤ Position.place Int64.minValue.toInt "höλ".length := by
  obtain ⟨hsubstring, -, -, hright, hcut, hbehind, hplace⟩ := text_cuts "höλ" (default : Context)
  have hlength : "höλ".length = 3 := by decide
  have hbegins : BeginsAt Int64.minValue.toInt "höλ".length 1 := by
    rw [hlength]
    exact .inr (by decide)
  have hsum : (1 : Whole).toInt + (2 : Whole).toInt = "höλ".length := by
    rw [hlength]
    rfl
  have hshort : "höλ".length ≤ Whole.greatest := by
    rw [hlength]
    decide
  exact ⟨hbegins, (hsubstring _ 2 1 hbegins).1, by decide, hright _ (by decide), by decide, by decide, hsum,
    hcut 1 2 (by decide) (by decide) hsum, by decide, hbehind 2 (by decide) (by decide), hshort, (hplace hshort _).1⟩

end Function
end RowSql
