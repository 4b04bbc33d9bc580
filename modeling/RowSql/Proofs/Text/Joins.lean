import Mathlib.Data.List.Infix
import Mathlib.Data.List.Perm.Subperm
import RowSql.Proofs.Text.Parts
/-!
# Joins — pieces that come back from the text they make up

A separator of several characters can begin in a piece and end in the separator behind it, and then the piece is
cut short.  A piece is clear of that if the separator behind it is the first one (`Clear`).  Pieces come back
from the text that joins them just when all but the last are clear and the last does not contain the separator
(`split_join_iff`), and a text is cut in two where it was put together just when what stands before the
separator is clear (`splitOnce?_eq_some_iff`).  For a separator of one character, pieces without it are clear
(`split_join`, `splitOnce?_append`).

What pieces a text has need not be known in order.  Pieces that make up the same text are the same if all that
are looked for are among them, since there is no room for others (`perm_of_join_eq`), and none begins another
(`eq_of_join_eq`).
-/
namespace RowSql
namespace Text

variable {separator p q cs rest : List Char} {n : Nat}

/-! ## The first separator -/

/-- **A piece that ends where the first separator begins**, when one stands behind it: the separator begins
neither in the piece nor across its end. -/
def Clear (separator p : List Char) : Prop := ∀ n < p.length, ¬ separator <+: (p ++ separator).drop n

instance (separator p : List Char) : Decidable (Clear separator p) :=
  inferInstanceAs (Decidable (∀ n < p.length, _))

/-- Up to the end of a piece, it does not matter what stands behind the separator. -/
theorem prefix_drop_append_iff (h : n ≤ p.length) (rest : List Char) :
    separator <+: (p ++ separator ++ rest).drop n ↔ separator <+: (p ++ separator).drop n := by
  have hlength : separator.length ≤ ((p ++ separator).drop n).length := by
    rw [List.length_drop, List.length_append]
    omega
  rw [List.drop_append_of_le_length (by rw [List.length_append]; omega)]
  exact List.isPrefix_append_of_length hlength

/-- **The separator behind a piece is the first one just when the piece is clear.** -/
theorem find?_append_iff (separator p rest : List Char) :
    find? separator (p ++ separator ++ rest) = some p.length ↔ Clear separator p := by
  have hthere : separator <+: (p ++ separator ++ rest).drop p.length := by
    rw [prefix_drop_append_iff (Nat.le_refl _), List.drop_left]
  rw [find?_eq_some_iff]
  constructor
  · intro ⟨_, hbefore⟩ n hn h
    exact hbefore n hn ((prefix_drop_append_iff (Nat.le_of_lt hn) rest).2 h)
  · exact fun hclear => ⟨hthere, fun n hn h => hclear n hn ((prefix_drop_append_iff (Nat.le_of_lt hn) rest).1 h)⟩

/-- **A text is cut at the first separator.** -/
theorem splitOnce?_eq_some_iff :
    splitOnce? separator cs = some (p, q) ↔ cs = p ++ separator ++ q ∧ Clear separator p := by
  rw [splitOnce?, Option.map_eq_some_iff]
  constructor
  · rintro ⟨n, hfind, hparts⟩
    cases hparts
    have hn : (cs.take n).length = n := List.length_take_of_le (find?_le hfind)
    obtain ⟨after, hafter⟩ := (find?_eq_some_iff.1 hfind).1
    have hcs : cs = cs.take n ++ separator ++ cs.drop (n + separator.length) := by
      rw [← List.drop_drop, ← hafter, List.drop_left, List.append_assoc, hafter, List.take_append_drop]
    refine ⟨hcs, (find?_append_iff separator (cs.take n) (cs.drop (n + separator.length))).1 ?_⟩
    rw [← hcs, hn, hfind]
  · rintro ⟨rfl, hclear⟩
    refine ⟨p.length, (find?_append_iff separator p q).2 hclear, ?_⟩
    rw [← List.length_append, List.drop_left, List.append_assoc, List.take_left]

theorem find?_eq_none_iff_not_infix : find? separator cs = none ↔ ¬ separator <:+: cs := by
  rw [find?_eq_none_iff, List.infix_iff_prefix_suffix]
  constructor
  · rintro hnone ⟨t, hprefix, hsuffix⟩
    exact hnone _ (List.suffix_iff_eq_drop.1 hsuffix ▸ hprefix)
  · exact fun h n hn => h ⟨_, hn, List.drop_suffix n cs⟩

/-! ## Pieces in order -/

theorem splitFrom_drop (separator : List Char) : ∀ (skip : Nat) (cs : List Char),
    splitFrom separator skip cs = split separator (cs.drop skip)
  | 0, _ => rfl
  | _ + 1, [] => rfl
  | skip + 1, _ :: cs => splitFrom_drop separator skip cs

/-- **The first piece ends at the first separator, and the others are those behind it.** -/
theorem split_eq (hs : separator ≠ []) : ∀ cs : List Char, split separator cs =
    match find? separator cs with
    | none => [cs]
    | some n => cs.take n :: split separator (cs.drop (n + separator.length))
  | [] => by
    have hempty : separator.isEmpty = false := List.isEmpty_eq_false_iff.2 hs
    rw [find?, hempty]
    rfl
  | c :: cs => by
    have hlength : separator.length - 1 + 1 = separator.length := Nat.sub_add_cancel (List.length_pos_iff.2 hs)
    rw [split, splitFrom, find?]
    split
    · dsimp only
      rw [splitFrom_drop, Nat.zero_add, ← hlength, List.drop_succ_cons]
      rfl
    · have ih : splitFrom separator 0 cs = _ := split_eq hs cs
      rw [ih]
      cases find? separator cs with
      | none => rfl
      | some n => simp [consFirst, Nat.add_right_comm n 1]

theorem split_eq_singleton_iff (hs : separator ≠ []) : split separator cs = [cs] ↔ ¬ separator <:+: cs := by
  rw [← find?_eq_none_iff_not_infix, split_eq hs]
  cases find? separator cs with
  | none => simp
  | some n => simp [split, splitFrom_ne_nil]

theorem split_append (hs : separator ≠ []) (hclear : Clear separator p) (rest : List Char) :
    split separator (p ++ separator ++ rest) = p :: split separator rest := by
  rw [split_eq hs, (find?_append_iff separator p rest).2 hclear]
  dsimp only
  rw [← List.length_append, List.drop_left, List.append_assoc, List.take_left]

/-- A piece that comes back is as long as it was, so the separator behind it was found first. -/
theorem clear_of_split (hs : separator ≠ []) {ps : List (List Char)}
    (h : split separator (p ++ separator ++ rest) = p :: q :: ps) : Clear separator p := by
  rw [split_eq hs] at h
  cases hfind : find? separator (p ++ separator ++ rest) with
  | none =>
    rw [hfind] at h
    exact absurd (congrArg List.length h) (by simp)
  | some n =>
    rw [hfind] at h
    have hpiece : (p ++ separator ++ rest).take n = p := List.head_eq_of_cons_eq h
    have hn : n = p.length := by rw [← hpiece, List.length_take_of_le (find?_le hfind)]
    rwa [hn, find?_append_iff] at hfind

/-- **Pieces come back from the text that joins them just when each but the last is clear and the last has no
separator in it.** -/
theorem split_join_iff (hs : separator ≠ []) : ∀ {pieces : List (List Char)} (hne : pieces ≠ []),
    split separator (join separator pieces) = pieces ↔
      (∀ p ∈ pieces.dropLast, Clear separator p) ∧ ¬ separator <:+: pieces.getLast hne
  | [p], _ => by
    have hjoin : join separator [p] = p := rfl
    rw [hjoin, split_eq_singleton_iff hs]
    simp
  | p :: q :: ps, _ => by
    have ih := split_join_iff hs (List.cons_ne_nil q ps)
    rw [join_cons_cons, List.dropLast_cons_cons, List.forall_mem_cons, List.getLast_cons_cons, and_assoc, ← ih]
    constructor
    · intro hsplit
      have hclear := clear_of_split hs hsplit
      rw [split_append hs hclear] at hsplit
      exact ⟨hclear, List.tail_eq_of_cons_eq hsplit⟩
    · rintro ⟨hclear, hrest⟩
      rw [split_append hs hclear, hrest]

/-! ## Separators of one character -/

theorem clear_singleton {c : Char} (h : c ∉ p) : Clear [c] p := by
  intro n hn hbegins
  rw [List.drop_append_of_le_length (Nat.le_of_lt hn), List.drop_eq_getElem_cons hn, List.cons_append,
    List.cons_prefix_cons] at hbegins
  exact h (hbegins.1 ▸ List.getElem_mem hn)

/-- **Pieces without the separator come back from the text that joins them.** -/
theorem split_join {c : Char} {pieces : List (List Char)} (hne : pieces ≠ []) (hc : ∀ p ∈ pieces, c ∉ p) :
    split [c] (join [c] pieces) = pieces := by
  refine (split_join_iff (List.cons_ne_nil c []) hne).2 ⟨fun p hp =>
    clear_singleton (hc p (List.mem_of_mem_dropLast hp)), ?_⟩
  rw [List.singleton_infix_iff]
  exact hc _ (List.getLast_mem hne)

/-- **A text is cut in two at the first separator.** -/
theorem splitOnce?_append {c : Char} {before : List Char} (h : c ∉ before) (after : List Char) :
    splitOnce? [c] (before ++ c :: after) = some (before, after) :=
  splitOnce?_eq_some_iff.2 ⟨by rw [List.append_assoc, List.singleton_append], clear_singleton h⟩

/-! ## Pieces in any order -/

theorem join_append_separator (separator : List Char) : ∀ {pieces : List (List Char)}, pieces ≠ [] →
    join separator pieces ++ separator = pieces.flatMap (· ++ separator)
  | [p], _ => by simp [join]
  | p :: q :: ps, _ => by
    rw [join_cons_cons, List.append_assoc, join_append_separator separator (List.cons_ne_nil q ps)]
    rfl

/-- **A text has no room for pieces beyond those that make it up.** -/
theorem perm_of_join_eq (hs : separator ≠ []) {ps qs : List (List Char)} (hps : ps ≠ []) (hqs : qs ≠ [])
    (hnodup : qs.Nodup) (hsub : qs ⊆ ps) (hjoin : join separator ps = join separator qs) : ps.Perm qs := by
  obtain ⟨found, hperm, hsublist⟩ := List.subperm_of_subset hnodup hsub
  obtain ⟨others, hall⟩ := hsublist.exists_perm_append
  have hpieces : ps.Perm (qs ++ others) := hall.trans (hperm.append_right others)
  have hlength : (ps.flatMap (· ++ separator)).length = (qs.flatMap (· ++ separator)).length := by
    rw [← join_append_separator separator hps, hjoin, join_append_separator separator hqs]
  rw [(hpieces.flatMap_right _).length_eq, List.flatMap_append, List.length_append] at hlength
  -- every piece more would add at least the length of a separator
  have hnone : others = [] := by
    cases others with
    | nil => rfl
    | cons p others =>
      have hpos : 0 < separator.length := List.length_pos_iff.2 hs
      rw [List.flatMap_cons, List.length_append, List.length_append] at hlength
      omega
  rwa [hnone, List.append_nil] at hpieces

/-- **Pieces of which none begins another have one order in which they make up a text.** -/
theorem eq_of_join_eq : ∀ {ps qs : List (List Char)}, ps.Perm qs → (∀ p ∈ qs, ∀ q ∈ qs, p <+: q → p = q) →
    join separator ps = join separator qs → ps = qs
  | [], qs, hperm, _, _ => hperm.nil_eq
  | p :: ps, [], hperm, _, _ => hperm.eq_nil
  | p :: ps, q :: qs, hperm, hfree, hjoin => by
    have hp : p ∈ q :: qs := hperm.subset List.mem_cons_self
    have hpq : p = q := by
      -- both are at the beginning of the same text, so one begins the other
      have hprefix : q <+: join separator (p :: ps) := hjoin ▸ prefix_join separator q qs
      rcases List.prefix_or_prefix_of_prefix (prefix_join separator p ps) hprefix with h | h
      · exact hfree p hp q List.mem_cons_self h
      · exact (hfree q List.mem_cons_self p hp h).symm
    subst hpq
    have hperm' : ps.Perm qs := hperm.cons_inv
    by_cases hps : ps = []
    · subst hps
      rw [hperm'.nil_eq]
    · have hqs : qs ≠ [] := fun h => hps (by rw [h] at hperm'; exact hperm'.eq_nil)
      rw [join_cons_of_ne_nil _ _ hps, join_cons_of_ne_nil _ _ hqs] at hjoin
      have hrest := List.append_cancel_left hjoin
      rw [eq_of_join_eq hperm' (fun a ha b hb => hfree a (List.mem_cons_of_mem _ ha) b (List.mem_cons_of_mem _ hb))
        hrest]

end Text
end RowSql
