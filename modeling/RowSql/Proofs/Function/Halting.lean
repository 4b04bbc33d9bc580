import RowSql.Function
/-!
# Halting — the texts that functions halt over

A function reads some of its arguments as numbers, and some functions on arrays read the elements.  So a
function halts only where a text that the program halts over is among the arguments or among their elements
(`Function.someHalts`).
-/
namespace RowSql

namespace Value

/-- **The program halts over the value or over an element of it**, if that is read as a number. -/
def HoldsHalting : Value → Prop
  | .array items => ∃ v ∈ items, v.halts = true
  | v => v.halts = true

variable {a b v : Value} {vs : List Value}

theorem holds_of_halts (h : v.halts = true) : v.HoldsHalting := by
  cases v with
  | text s => exact h
  | null | bool | int | decimal | float | array | row => cases h

theorem halts_of_orderHalts (h : a.orderHalts b = true) : a.halts = true ∨ b.halts = true := by
  unfold orderHalts at h
  split at h
  · cases h
  · cases h
  · cases h
  · exact (Bool.or_eq_true_iff.1 h).imp_right fun hb => (Bool.and_eq_true_iff.1 hb).1

/-- **One of the values is or has a text that the program halts over.** -/
def SomeHalts (vs : List Value) : Prop := ∃ v ∈ vs, v.HoldsHalting

theorem SomeHalts.head (h : v.halts = true) : SomeHalts (v :: vs) := ⟨v, List.mem_cons_self, holds_of_halts h⟩

theorem SomeHalts.tail (h : SomeHalts vs) : SomeHalts (v :: vs) := by
  obtain ⟨w, hw, hhalts⟩ := h
  exact ⟨w, List.mem_cons_of_mem v hw, hhalts⟩

theorem someHalts_of_any (h : vs.any Value.halts = true) : SomeHalts vs := by
  obtain ⟨v, hv, hhalts⟩ := List.any_eq_true.1 h
  exact ⟨v, hv, holds_of_halts hhalts⟩

theorem someHalts_of_head (h : vs.head?.any Value.halts = true) : SomeHalts vs := by
  cases vs with
  | nil => cases h
  | cons v vs => exact .head h

/-- A second value is read for what the first one asks. -/
theorem someHalts_of_read {read : Bool} (h : (v.halts || vs.head?.any Value.halts && read) = true) :
    SomeHalts (v :: vs) := by
  rcases Bool.or_eq_true_iff.1 h with hfirst | hsecond
  · exact .head hfirst
  · exact (someHalts_of_head (Bool.and_eq_true_iff.1 hsecond).1).tail

end Value

open Value (SomeHalts someHalts_of_any someHalts_of_head someHalts_of_read)

namespace ArrayFunction

/-- **The comparisons for the most extreme value read no other values.** -/
theorem halts_of_extremeHalts {want : Ordering} : ∀ {vs : List Value} {best : Value}, extremeHalts want best vs = true →
    ∃ v ∈ best :: vs, v.halts = true
  | [], _, h => by cases h
  | v :: vs, best, h => by
    rcases Bool.or_eq_true_iff.1 h with horder | hrest
    · rcases Value.halts_of_orderHalts horder with hv | hbest
      · exact ⟨v, List.mem_cons_of_mem best List.mem_cons_self, hv⟩
      · exact ⟨best, List.mem_cons_self, hbest⟩
    · obtain ⟨hsome, hrest⟩ := (Option.any_eq_true_iff_get _ _).1 hrest
      obtain ⟨w, hw, hhalts⟩ := halts_of_extremeHalts hrest
      refine ⟨w, ?_, hhalts⟩
      rcases List.mem_cons.1 hw with rfl | hw
      · split
        · exact List.mem_cons_of_mem best List.mem_cons_self
        · exact List.mem_cons_self
      · exact List.mem_cons_of_mem best (List.mem_cons_of_mem v hw)

theorem holds_of_elementHalts {want : Ordering} {items : List Value} (h : halts.elementHalts want items = true) :
    (Value.array items).HoldsHalting := by
  unfold halts.elementHalts at h
  split at h
  · cases h
  · rename_i v vs hpresent
    obtain ⟨w, hw, hhalts⟩ := halts_of_extremeHalts h
    rw [← hpresent] at hw
    exact ⟨w, (List.mem_filter.1 hw).1, hhalts⟩

theorem someHalts {f : ArrayFunction} {args : List Value} (h : f.halts args = true) : SomeHalts args := by
  unfold halts at h
  split at h
  · exact (SomeHalts.head (by simpa [halts.sliceHalts] using h)).tail
  · rename_i a start length
    have hread : SomeHalts [start, length] := someHalts_of_read h
    exact hread.tail
  · exact ⟨_, List.mem_cons_self, holds_of_elementHalts h⟩
  · exact ⟨_, List.mem_cons_self, holds_of_elementHalts h⟩
  · exact (SomeHalts.head h).tail
  · cases h

end ArrayFunction

theorem NumberFunction.someHalts {f : NumberFunction} {args : List Value} (h : f.halts args = true) :
    SomeHalts args := by
  have hrescale : ∀ {v : Value} {scale : List Value}, rescaleHalts v scale.head? = true → SomeHalts (v :: scale) := by
    intro v scale h
    rcases Bool.or_eq_true_iff.1 h with hscale | hv
    · exact (someHalts_of_head hscale).tail
    · exact .head (Bool.and_eq_true_iff.1 hv).1
  have hextreme : ∀ {want : Ordering} {v : Value} {vs : List Value}, ArrayFunction.extremeHalts want v vs = true →
      SomeHalts (v :: vs) := by
    intro want v vs h
    obtain ⟨w, hw, hhalts⟩ := ArrayFunction.halts_of_extremeHalts h
    exact ⟨w, hw, Value.holds_of_halts hhalts⟩
  unfold halts at h
  split at h
  · exact hrescale h
  · exact hrescale h
  · exact hextreme h
  · exact hextreme h
  · exact someHalts_of_any h

theorem TextFunction.someHalts {f : TextFunction} {args : List Value} (h : f.halts args = true) : SomeHalts args := by
  unfold halts at h
  split at h
  case h_1 => exact (someHalts_of_read h).tail
  case h_6 => exact (someHalts_of_head h).tail.tail
  case h_8 => exact (SomeHalts.head h).tail.tail
  case h_9 => cases h
  all_goals exact (SomeHalts.head h).tail

theorem MatchFunction.someHalts {f : MatchFunction} {args : List Value} (h : f.halts args = true) : SomeHalts args := by
  unfold halts at h
  split at h
  · exact (SomeHalts.head (Bool.and_eq_true_iff.1 h).1).tail.tail
  · cases h

theorem TimeFunction.someHalts {f : TimeFunction} {args : List Value} (h : f.halts args = true) : SomeHalts args := by
  unfold halts at h
  split at h
  · exact .head h
  · exact (SomeHalts.head h).tail
  · exact (SomeHalts.head h).tail
  · cases h

theorem ConditionFunction.someHalts {f : ConditionFunction} {args : List Value} (h : f.halts args = true) :
    SomeHalts args := by
  unfold halts at h
  split at h
  · exact .head h
  · cases h

/-- **A function halts only over a text among its arguments or among their elements.** -/
theorem Function.someHalts {f : Function} {args : List Value} (h : f.halts args = true) : SomeHalts args := by
  cases f with
  | array f => exact f.someHalts h
  | float f => exact someHalts_of_head h
  | number f => exact f.someHalts h
  | text f => exact f.someHalts h
  | pattern f => exact f.someHalts h
  | time f => exact f.someHalts h
  | condition f => exact f.someHalts h
  | choice | firstPresent => cases h

end RowSql
