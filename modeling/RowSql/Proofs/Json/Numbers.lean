import RowSql.Json.Reader
import RowSql.Proofs.Json.Objects
import RowSql.Proofs.Number.Finite
import RowSql.Proofs.Outcome
/-!
# Numbers — the floats of a document

Every float in a document that was read is finite (`finite_of_parse`).  The digits of a number are a word of 64
unsigned bits, which is finite as a float (`digits_lt`); a power of ten that multiplies it makes it finite or is
refused, and one that divides it makes it smaller (`isFinite_divideByPower`).  Arrays and objects hold what
their elements and members were read as, so the rest is an induction on the levels of the document.
-/
namespace RowSql
namespace Json

mutual

/-- **A document whose floats are finite.** -/
def Finite : Json → Prop
  | .null => True
  | .bool _ => True
  | .int _ => True
  | .float x => x.isFinite = true
  | .text _ => True
  | .array items => FiniteItems items
  | .object members => FiniteMembers members

def FiniteItems : List Json → Prop
  | [] => True
  | j :: js => Finite j ∧ FiniteItems js

def FiniteMembers : List (String × Json) → Prop
  | [] => True
  | (_, j) :: ms => Finite j ∧ FiniteMembers ms

end

theorem finiteItems_iff : ∀ {js : List Json}, FiniteItems js ↔ ∀ j ∈ js, j.Finite
  | [] => by simp [FiniteItems]
  | j :: js => by rw [FiniteItems, finiteItems_iff, List.forall_mem_cons]

theorem finiteMembers_iff : ∀ {ms : List (String × Json)}, FiniteMembers ms ↔ ∀ m ∈ ms, m.2.Finite
  | [] => by simp [FiniteMembers]
  | (k, j) :: ms => by rw [FiniteMembers, finiteMembers_iff, List.forall_mem_cons]

/-! ## What a reader gives -/

/-- **Whatever a step of reading gives has a property.** -/
def Gives {α : Type} (P : α → Prop) (x : Except Fault (α × Cursor)) : Prop := ∀ a c, x = .ok (a, c) → P a

namespace Gives

variable {α β : Type} {P : α → Prop} {Q : β → Prop}

theorem error (e : Fault) : Gives P (.error e) := nofun

theorem any (x : Except Fault (α × Cursor)) : Gives (fun _ => True) x := fun _ _ _ => trivial

theorem ok {a : α} (h : P a) (c : Cursor) : Gives P (.ok (a, c)) := by
  intro b c' heq
  cases heq
  exact h

theorem ite {p : Prop} [Decidable p] {x y : Except Fault (α × Cursor)} (hx : p → Gives P x) (hy : ¬ p → Gives P y) :
    Gives P (if p then x else y) := by
  by_cases h : p
  · rw [if_pos h]
    exact hx h
  · rw [if_neg h]
    exact hy h

theorem bind {x : Except Fault (α × Cursor)} {f : α × Cursor → Except Fault (β × Cursor)} (h : Gives P x)
    (hf : ∀ a c, P a → Gives Q (f (a, c))) : Gives Q (x >>= f) := by
  intro b c heq
  obtain ⟨⟨a, c'⟩, hx, hb⟩ := bind_eq_ok.1 heq
  exact hf a c' (h a c' hx) b c hb

theorem map {x : Except Fault (α × Cursor)} {f : α → β} (h : Gives P x) (hf : ∀ a, P a → Q (f a)) :
    Gives Q (x.map fun p => (f p.1, p.2)) := by
  intro b c heq
  obtain ⟨⟨a, c'⟩, hx, hb⟩ := map_eq_ok.1 heq
  cases hb
  exact hf a (h a c' hx)

theorem const {x : Except Fault Cursor} {a : α} (h : P a) : Gives P (x.map (a, ·)) := by
  intro b c heq
  obtain ⟨c', -, hb⟩ := map_eq_ok.1 heq
  cases hb
  exact h

end Gives

/-! ## Numbers -/

theorem digitValue_lt {ch : Char} (h : ch.isDigit = true) : ch.toNat - 48 < significandLimit := by
  have hle : ch.toNat ≤ 57 := (Char.isDigit_iff_toNat.1 h).2
  unfold significandLimit
  omega

theorem gives_float (negative : Bool) {x : Float} (h : x.isFinite = true) (c : Cursor) :
    Gives Finite (.ok (.float (Binary.signed negative x), c)) :=
  .ok (show (Json.float _).Finite from Magnitude.isFinite_signed negative h) c

/-- Digits are appended as long as 64 bits hold them. -/
theorem digits_lt : ∀ (fuel : Nat) {n : Nat} (count : Nat) (c : Cursor), n < significandLimit →
    (digits fuel n count c).1 < significandLimit
  | 0, _, _, _, h => h
  | fuel + 1, n, count, c, h => by
    rw [digits]
    split
    · rename_i ch rest _
      dsimp only
      by_cases hdigit : ch.isDigit = true
      · rw [if_pos hdigit]
        by_cases hlimit : significandLimit ≤ n * 10 + (ch.toNat - 48)
        · rw [if_pos hlimit]
          exact h
        · rw [if_neg hlimit]
          exact digits_lt fuel _ _ (Nat.lt_of_not_le hlimit)
      · rw [if_neg hdigit]
        exact h
    · exact h

/-- **A quotient by powers of ten is finite**, one power after the other. -/
theorem isFinite_divideByPower : ∀ (fuel : Nat) {x : Float} {e : Nat}, x.isFinite = true → 1 ≤ e →
    (divideByPower fuel x e).isFinite = true
  | 0, _, _, hx, _ => hx
  | fuel + 1, x, e, hx, he => by
    rw [divideByPower]
    by_cases hsmall : e ≤ greatestPower
    · rw [if_pos hsmall]
      exact Magnitude.isFinite_quotient hx (Magnitude.reaches_nearest_power he hsmall)
    · rw [if_neg hsmall]
      split
      · exact hx
      · have hstep : (x / Binary.nearest 1 greatestPower).isFinite = true :=
          Magnitude.isFinite_quotient hx (Magnitude.reaches_nearest_power (by decide) le_rfl)
        exact isFinite_divideByPower fuel hstep (by omega)

/-- **The number `± n · 10^e` is a finite float**, if it is read at all. -/
theorem gives_floatOfParts (negative : Bool) {n : Nat} (hn : n < significandLimit) (e : Int) (c : Cursor) :
    Gives Finite (floatOfParts negative n e c) := by
  have hx : (Binary.nearest n 0).isFinite = true := Magnitude.isFinite_nearest_whole hn
  unfold floatOfParts
  refine .ite (fun he => ?_) fun he => ?_
  · refine .ite (fun _ => gives_float negative hx c) fun _ => ?_
    refine .ite (fun _ => .error _) fun hlarge => ?_
    have hpower : (Binary.nearest 1 e).isFinite = true := by
      rw [← Int.toNat_of_nonneg he]
      exact Magnitude.isFinite_nearest_power (by unfold greatestPower at hlarge; omega)
    refine .ite (fun _ => .error _) fun hinf => ?_
    exact gives_float negative (Magnitude.isFinite_product hx hpower (Bool.eq_false_iff.2 hinf)) c
  · exact gives_float negative (isFinite_divideByPower _ hx (by omega)) c

theorem gives_exponent (negative : Bool) {n : Nat} (hn : n < significandLimit) (e : Int) (c : Cursor) :
    Gives Finite (exponent negative n e c) := by
  have hzero : (0.0 : Float).isFinite = true := by decide
  unfold exponent
  dsimp only
  split
  · exact .error _
  · refine .ite (fun _ => ?_) fun _ => .error _
    refine .ite (fun _ => ?_) fun _ => gives_floatOfParts negative hn _ _
    exact .ite (fun _ => .error _) fun _ => gives_float negative hzero _

theorem gives_fraction (negative : Bool) {n : Nat} (hn : n < significandLimit) (e : Int) (c : Cursor) :
    Gives Finite (fraction negative n e c) := by
  have hm := digits_lt c.rest.length 0 c hn
  unfold fraction
  generalize digits c.rest.length n 0 c = read at hm
  refine .ite (fun _ => .error _) fun _ => ?_
  exact .ite (fun _ => gives_exponent negative hm _ _) fun _ => gives_floatOfParts negative hm _ _

/-- **A number is a whole one or a finite float.** -/
theorem gives_number (negative : Bool) (c : Cursor) : Gives Finite (number negative c) := by
  unfold number
  split
  · exact .error _
  · rename_i ch c' _
    refine .ite (fun _ => .error _) fun _ => ?_
    refine .ite (fun hdigit => ?_) fun _ => .error _
    have hn := digits_lt (if ch == '0' then 0 else c'.rest.length) 0 c' (digitValue_lt hdigit)
    dsimp only
    generalize digits _ (ch.toNat - 48) 0 c' = read at hn
    refine .ite (fun _ => gives_fraction negative hn _ _) fun _ => ?_
    refine .ite (fun _ => gives_exponent negative hn _ _) fun _ => ?_
    refine .ite (fun _ => gives_floatOfParts negative hn _ _) fun _ => ?_
    refine .ite (fun _ => ?_) fun _ => .ok trivial _
    exact gives_float true (Magnitude.isFinite_nearest_whole hn) _

/-! ## Documents -/

variable {element : Reader Json} (helement : ∀ c, Gives Finite (element c))

include helement

theorem gives_items : ∀ (fuel : Nat) (first : Bool) {taken : List Json} (c : Cursor), (∀ j ∈ taken, j.Finite) →
    Gives (fun js => ∀ j ∈ js, j.Finite) (items element fuel first taken c)
  | 0, _, _, _, _ => .error _
  | fuel + 1, first, taken, c, htaken => by
    have hclose : ∀ j ∈ taken.reverse, j.Finite := fun j hj => htaken j (List.mem_reverse.1 hj)
    have hnext : ∀ c, Gives (fun js => ∀ j ∈ js, j.Finite)
        (element c >>= fun p => items element fuel false (p.1 :: taken) p.2) := fun c =>
      (helement c).bind fun v c' hv => gives_items fuel false c' (List.forall_mem_cons.2 ⟨hv, htaken⟩)
    rw [items]
    dsimp only
    split
    · exact .error _
    · refine .ite (fun _ => .ok hclose _) fun _ => ?_
      refine .ite (fun _ => hnext _) fun _ => ?_
      refine .ite (fun _ => ?_) fun _ => .error _
      split
      · exact .error _
      · exact .ite (fun _ => .error _) fun _ => hnext _

theorem gives_memberAt (c : Cursor) : Gives (fun m => m.2.Finite) (memberAt element c) := by
  unfold memberAt
  refine (Gives.any _).bind fun k c' _ => ?_
  dsimp only
  split
  · exact .error _
  · refine .ite (fun _ => ?_) fun _ => .error _
    exact (helement _).bind fun v c'' hv => Gives.ok (P := fun m => m.2.Finite) (a := (k, v)) hv c''

theorem gives_members : ∀ (fuel : Nat) (first : Bool) {taken : List (String × Json)} (c : Cursor),
    (∀ m ∈ taken, m.2.Finite) → Gives (fun ms => ∀ m ∈ ms, m.2.Finite) (members element fuel first taken c)
  | 0, _, _, _, _ => .error _
  | fuel + 1, first, taken, c, htaken => by
    have hnext : ∀ c, Gives (fun ms => ∀ m ∈ ms, m.2.Finite)
        (memberAt element c >>= fun p => members element fuel false (insert p.1.1 p.1.2 taken) p.2) := fun c => by
      refine (gives_memberAt helement c).bind fun p c' hp => gives_members fuel false c' fun m hm => ?_
      rcases mem_insert hm with rfl | hm
      · exact hp
      · exact htaken m hm
    rw [members]
    dsimp only
    split
    · exact .error _
    · refine .ite (fun _ => .ok htaken _) fun _ => ?_
      refine .ite (fun _ => ?_) fun _ => ?_
      · exact .ite (fun _ => hnext _) fun _ => .error _
      refine .ite (fun _ => ?_) fun _ => .error _
      split
      · exact .error _
      · exact .ite (fun _ => hnext _) fun _ => .error _

omit helement

/-- **A document of at most so many levels has finite floats only.** -/
theorem gives_value : ∀ (depth : Nat) (c : Cursor), Gives Finite (value depth c)
  | depth, c => by
    rw [value]
    dsimp only
    split
    · exact .error _
    · refine .ite (fun _ => .const trivial) fun _ => ?_
      refine .ite (fun _ => .const trivial) fun _ => ?_
      refine .ite (fun _ => .const trivial) fun _ => ?_
      refine .ite (fun _ => gives_number true _) fun _ => ?_
      refine .ite (fun _ => gives_number false _) fun _ => ?_
      refine .ite (fun _ => (Gives.any _).map fun _ _ => trivial) fun _ => ?_
      refine .ite (fun _ => ?_) fun _ => ?_
      · cases depth with
        | zero => exact .error _
        | succ depth =>
          refine (gives_items (gives_value depth) _ true _ (List.forall_mem_nil _)).map fun js hjs => ?_
          exact finiteItems_iff.2 hjs
      refine .ite (fun _ => ?_) fun _ => .error _
      cases depth with
      | zero => exact .error _
      | succ depth =>
        refine (gives_members (gives_value depth) _ true _ (List.forall_mem_nil _)).map fun ms hms => ?_
        exact finiteMembers_iff.2 hms

/-- **The floats of a document that was read are finite.** -/
theorem finite_of_parse {text : List Char} {j : Json} (h : parse text = .ok j) : j.Finite := by
  obtain ⟨⟨v, c⟩, hv, h⟩ := bind_eq_ok.1 h
  have hfinite := gives_value _ _ v c hv
  dsimp only at h
  split at h
  · cases h
    exact hfinite
  · cases h

end Json
end RowSql
