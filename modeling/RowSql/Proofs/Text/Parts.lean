import Mathlib.Data.Nat.Find
import RowSql.Text.Parts
/-!
# Parts — occurrences of a text, and the pieces between them

A search finds the first place at which a text begins (`find?_eq_some_iff`).  The pieces between the occurrences
of a separator do not contain it (`not_infix_of_mem_split`), and joining them gives the text back
(`join_split`): an induction on what is left of the text, over any characters that still belong to the separator
before.
-/
namespace RowSql
namespace Text

/-! ## The first occurrence -/

theorem find?_cons_of_begins {part : List Char} {c : Char} {cs : List Char} (h : part <+: c :: cs) :
    find? part (c :: cs) = some 0 := if_pos (List.isPrefixOf_iff_prefix.2 h)

theorem find?_cons_of_not_begins {part : List Char} {c : Char} {cs : List Char} (h : ¬ part <+: c :: cs) :
    find? part (c :: cs) = (find? part cs).map (· + 1) := if_neg fun hp => h (List.isPrefixOf_iff_prefix.1 hp)

/-- **A search finds the first place at which the text begins.** -/
theorem find?_eq_some_iff {part : List Char} : ∀ {cs : List Char} {n : Nat},
    find? part cs = some n ↔ part <+: cs.drop n ∧ ∀ m < n, ¬ part <+: cs.drop m
  | [], n => by
    cases part with
    | nil =>
      have hfind : find? [] [] = some 0 := rfl
      rw [hfind, Option.some_inj]
      constructor
      · rintro rfl
        simp
      · rintro ⟨-, hbefore⟩
        by_contra hn
        exact hbefore 0 (by omega) (List.nil_prefix)
    | cons p part => simp [find?]
  | c :: cs, n => by
    by_cases h : part <+: c :: cs
    · rw [find?_cons_of_begins h, Option.some_inj]
      constructor
      · rintro rfl
        exact ⟨h, fun m hm => absurd hm (Nat.not_lt_zero m)⟩
      · rintro ⟨-, hbefore⟩
        by_contra hn
        exact hbefore 0 (by omega) h
    · rw [find?_cons_of_not_begins h]
      cases n with
      | zero => simp [h]
      | succ n =>
        have ih : find? part cs = some n ↔ part <+: cs.drop n ∧ ∀ m < n, ¬ part <+: cs.drop m := find?_eq_some_iff
        have hmap : (find? part cs).map (· + 1) = some (n + 1) ↔ find? part cs = some n := by simp
        rw [hmap, ih, List.drop_succ_cons]
        refine and_congr_right fun _ => ⟨fun hbefore m hm => ?_, fun hbefore m hm => hbefore (m + 1) (by omega)⟩
        cases m with
        | zero => exact h
        | succ m => exact hbefore m (by omega)

theorem find?_eq_none_iff {part cs : List Char} : find? part cs = none ↔ ∀ n, ¬ part <+: cs.drop n := by
  constructor
  · intro hnone n hn
    have hexists : ∃ n, part <+: cs.drop n := ⟨n, hn⟩
    classical
    have hfirst : find? part cs = some (Nat.find hexists) :=
      find?_eq_some_iff.2 ⟨Nat.find_spec hexists, fun _ => Nat.find_min hexists⟩
    rw [hnone] at hfirst
    cases hfirst
  · intro h
    cases hfind : find? part cs with
    | none => rfl
    | some n => exact absurd (find?_eq_some_iff.1 hfind).1 (h n)

theorem find?_le {part cs : List Char} {n : Nat} (h : find? part cs = some n) : n ≤ cs.length := by
  obtain ⟨hn, hbefore⟩ := find?_eq_some_iff.1 h
  by_contra hlt
  refine hbefore cs.length (by omega) ?_
  rwa [List.drop_length, ← List.drop_eq_nil_of_le (show cs.length ≤ n by omega)]

/-! ## Pieces and separators -/

variable {separator : List Char}

theorem join_cons_cons (separator p q : List Char) (ps : List (List Char)) :
    join separator (p :: q :: ps) = p ++ separator ++ join separator (q :: ps) := rfl

theorem join_eq_intercalate (separator : List Char) :
    ∀ pieces : List (List Char), join separator pieces = separator.intercalate pieces
  | [] => rfl
  | [p] => List.intercalate_singleton.symm
  | p :: q :: ps => by
    rw [join_cons_cons, join_eq_intercalate separator (q :: ps), List.intercalate_cons_cons]

/-- **What is joined ends with the last piece.** -/
theorem join_eq_append (separator : List Char) :
    ∀ (pieces : List (List Char)) (h : pieces ≠ []), ∃ before, join separator pieces = before ++ pieces.getLast h
  | [p], _ => ⟨[], rfl⟩
  | p :: q :: ps, _ => by
    obtain ⟨before, hbefore⟩ := join_eq_append separator (q :: ps) (List.cons_ne_nil q ps)
    refine ⟨p ++ separator ++ before, ?_⟩
    rw [join_cons_cons, hbefore, List.getLast_cons_cons, List.append_assoc (p ++ separator)]

theorem join_cons_of_ne_nil (separator p : List Char) {ps : List (List Char)} (h : ps ≠ []) :
    join separator (p :: ps) = p ++ separator ++ join separator ps := by
  cases ps with
  | nil => exact absurd rfl h
  | cons q ps => rfl

theorem prefix_join (separator p : List Char) (ps : List (List Char)) : p <+: join separator (p :: ps) := by
  cases ps with
  | nil => exact List.prefix_rfl
  | cons q ps =>
    rw [join_cons_cons, List.append_assoc]
    exact List.prefix_append p _

theorem join_consFirst (separator : List Char) (c : Char) {ps : List (List Char)} (h : ps ≠ []) :
    join separator (consFirst c ps) = c :: join separator ps := by
  cases ps with
  | nil => exact absurd rfl h
  | cons p ps =>
    cases ps with
    | nil => rfl
    | cons q ps => rw [consFirst, join_cons_cons, join_cons_cons, List.cons_append, List.cons_append]

theorem splitFrom_ne_nil (separator : List Char) : ∀ (skip : Nat) (cs : List Char), splitFrom separator skip cs ≠ []
  | _, [] => List.cons_ne_nil _ _
  | skip + 1, c :: cs => splitFrom_ne_nil separator skip cs
  | 0, c :: cs => by
    rw [splitFrom]
    split
    · exact List.cons_ne_nil _ _
    · cases splitFrom separator 0 cs <;> exact List.cons_ne_nil _ _

/-- The pieces of what is left behind a separator make that up. -/
theorem join_splitFrom (hne : separator ≠ []) : ∀ (skip : Nat) (cs : List Char),
    join separator (splitFrom separator skip cs) = cs.drop skip
  | _, [] => by rw [List.drop_nil]; rfl
  | skip + 1, c :: cs => by rw [splitFrom, join_splitFrom hne skip cs, List.drop_succ_cons]
  | 0, c :: cs => by
    rw [splitFrom, List.drop_zero]
    by_cases h : separator.isPrefixOf (c :: cs) = true
    · have hlength : 0 < separator.length := List.length_pos_iff.2 hne
      have hsucc : separator.length = separator.length - 1 + 1 := by omega
      have hrest : (c :: cs).drop separator.length = cs.drop (separator.length - 1) := by
        rw [hsucc, List.drop_succ_cons]; rfl
      rw [if_pos h, join_cons_of_ne_nil _ _ (splitFrom_ne_nil _ _ _), join_splitFrom hne, ← hrest, List.nil_append]
      exact List.prefix_iff_eq_append.1 (List.isPrefixOf_iff_prefix.1 h)
    · rw [if_neg h, join_consFirst _ _ (splitFrom_ne_nil _ _ _), join_splitFrom hne, List.drop_zero]

/-- **The pieces between the separators make up the text.** -/
theorem join_split (hne : separator ≠ []) (cs : List Char) : join separator (split separator cs) = cs :=
  join_splitFrom hne 0 cs

theorem not_infix_of_mem_splitFrom (hne : separator ≠ []) : ∀ (skip : Nat) (cs : List Char),
    ∀ p ∈ splitFrom separator skip cs, ¬ separator <:+: p
  | _, [], p, hp => by
    rw [splitFrom, List.mem_singleton] at hp
    subst hp
    rwa [List.infix_nil]
  | skip + 1, c :: cs, p, hp => not_infix_of_mem_splitFrom hne skip cs p hp
  | 0, c :: cs, p, hp => by
    rw [splitFrom] at hp
    split at hp
    · rcases List.mem_cons.1 hp with rfl | hp
      · rwa [List.infix_nil]
      · exact not_infix_of_mem_splitFrom hne _ cs p hp
    · rename_i hprefix
      have ih := not_infix_of_mem_splitFrom hne 0 cs
      have hjoin : join separator (splitFrom separator 0 cs) = cs := join_splitFrom hne 0 cs
      obtain ⟨q, qs, hsplit⟩ := List.exists_cons_of_ne_nil (splitFrom_ne_nil separator 0 cs)
      rw [hsplit] at hp ih hjoin
      rcases List.mem_cons.1 hp with rfl | hp
      · -- The first piece is what the text begins with, so the separator begins neither before it nor in it.
        rw [List.infix_cons_iff, not_or]
        refine ⟨fun h => hprefix ?_, ih q List.mem_cons_self⟩
        have hq : q <+: cs := hjoin ▸ prefix_join separator q qs
        exact List.isPrefixOf_iff_prefix.2 (h.trans (List.cons_prefix_cons.2 ⟨rfl, hq⟩))
      · exact ih p (List.mem_cons_of_mem q hp)

/-- **No piece contains the separator.** -/
theorem not_infix_of_mem_split (hne : separator ≠ []) {cs p : List Char} (hp : p ∈ split separator cs) :
    ¬ separator <:+: p :=
  not_infix_of_mem_splitFrom hne 0 cs p hp

end Text
end RowSql
