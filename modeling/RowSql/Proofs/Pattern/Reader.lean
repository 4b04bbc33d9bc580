import RowSql.Pattern.Reader
/-!
# Reader — what is read of the beginning of a pattern

Characters without a meaning of their own stand for themselves, and so do the others behind a backslash.  Each lemma on
`readBranches` reads one item of a pattern and leaves the rest of it to be read.
-/
namespace RowSql
namespace Pattern

open Reader

namespace Tree

theorem depthList_le {n : Nat} : ∀ {ts : List Tree}, (∀ t ∈ ts, t.depth ≤ n) → depthList ts ≤ n
  | [], _ => by
    rw [depthList]
    exact Nat.zero_le n
  | t :: ts, h => by
    obtain ⟨ht, hts⟩ := List.forall_mem_cons.1 h
    rw [depthList]
    exact Nat.max_le.2 ⟨ht, depthList_le hts⟩

theorem simplifyList_eq_self : ∀ {ts : List Tree}, (∀ t ∈ ts, t.simplify = t) → simplifyList ts = ts
  | [], _ => by rw [simplifyList]
  | t :: ts, h => by
    obtain ⟨ht, hts⟩ := List.forall_mem_cons.1 h
    rw [simplifyList, ht, simplifyList_eq_self hts]

end Tree

theorem ne_of_isMeta {c d : Char} (hc : isMeta c = false) (hd : isMeta d = true) : c ≠ d := by
  rintro rfl
  rw [hd] at hc
  cases hc

/-- Characters that open something else than an atom, or close it, or repeat it. -/
def isStructural (c : Char) : Bool := ")|([?*+\x7b".toList.contains c

theorem isMeta_of_isStructural {c : Char} (h : isStructural c = true) : isMeta c = true := by
  have hall : ")|([?*+\x7b".toList.all isMeta = true := by decide
  exact List.all_eq_true.1 hall c (List.contains_iff_mem.1 h)

/-- Characters that do not stand for themselves behind a backslash. -/
def opensEscape (c : Char) : Bool :=
  c.isDigit || ['x', 'u', 'U', 'p', 'P', 'd', 's', 'w', 'D', 'S', 'W'].contains c

theorem opensEscape_of_isMeta {c : Char} (h : isMeta c = true) : opensEscape c = false := by
  have hall : ("\\.+*?()|[]\x7b\x7d^$#&-~".toList.all fun d => !opensEscape d) = true := by decide
  rw [← Bool.not_eq_true']
  exact List.all_eq_true.1 hall c (List.contains_iff_mem.1 h)

variable {fuel : Nat} {inGroup : Bool} {items branches : List Tree} {f : Flags} {captures : Nat}
  {names : List (String × Nat)} {c : Char} {cs : List Char}

theorem readAtom_char (hc : isMeta c = false) :
    (readAtom c).run ⟨c :: cs, f, captures, names⟩ = some (.set (foldSet f (.single c)), ⟨cs, f, captures, names⟩) := by
  have hescape : c ≠ '\\' := ne_of_isMeta hc (by decide)
  have hdot : c ≠ '.' := ne_of_isMeta hc (by decide)
  have hstart : c ≠ '^' := ne_of_isMeta hc (by decide)
  have hend : c ≠ '$' := ne_of_isMeta hc (by decide)
  simp [readAtom, bump, charTree?, hescape, hdot, hstart, hend]

theorem readAtom_escape (hc : isMeta c = true) :
    (readAtom '\\').run ⟨'\\' :: c :: cs, f, captures, names⟩ =
      some (.set (foldSet f (.single c)), ⟨cs, f, captures, names⟩) := by
  have hplain := opensEscape_of_isMeta hc
  simp only [opensEscape, Bool.or_eq_false_iff, List.contains_eq_mem, decide_eq_false_iff_not, List.mem_cons,
    List.not_mem_nil, or_false, not_or] at hplain
  obtain ⟨hdigit, hx, hu, hU, hp, hP, hclass⟩ := hplain
  simp [readAtom, readEscape, peek, bump, hdigit, hx, hu, hU, hp, hP, hclass, hc, Atom.tree?]

theorem readAtom_dot (hunicode : f.unicode = true) (hdot : f.dotAll = true) :
    (readAtom '.').run ⟨'.' :: cs, f, captures, names⟩ = some (.set .all, ⟨cs, f, captures, names⟩) := by
  simp [readAtom, bump, charTree?, hunicode, hdot]

theorem readAtom_start (hline : f.multiLine = false) :
    (readAtom '^').run ⟨'^' :: cs, f, captures, names⟩ = some (.look .textStart false, ⟨cs, f, captures, names⟩) := by
  simp [readAtom, bump, charTree?, hline]

theorem readAtom_end (hline : f.multiLine = false) :
    (readAtom '$').run ⟨'$' :: cs, f, captures, names⟩ = some (.look .textEnd false, ⟨cs, f, captures, names⟩) := by
  simp [readAtom, bump, charTree?, hline]

/-- **An atom is read as the next item.** -/
theorem readBranches_atom {t : Tree} {rest : List Char} (hf : f.spaced = false) (hc : isStructural c = false)
    (ht : (readAtom c).run ⟨c :: cs, f, captures, names⟩ = some (t, ⟨rest, f, captures, names⟩)) :
    (readBranches (fuel + 1) inGroup items branches).run ⟨c :: cs, f, captures, names⟩ =
      (readBranches fuel inGroup (t :: items) branches).run ⟨rest, f, captures, names⟩ := by
  have hne : ∀ d : Char, isStructural d = true → c ≠ d := by
    rintro d hd rfl
    rw [hd] at hc
    cases hc
  rw [readBranches]
  simp [space, peek?, hf, ht, hne ')' (by decide), hne '|' (by decide), hne '(' (by decide), hne '[' (by decide),
    hne '?' (by decide), hne '*' (by decide), hne '+' (by decide), hne '\x7b' (by decide)]

/-- **A star repeats the set before it**, unless a question mark follows. -/
theorem readBranches_star {s : CharSet} (hf : f.spaced = false) (hgreed : f.swapGreed = false)
    (hlazy : cs.head? ≠ some '?') :
    (readBranches (fuel + 1) inGroup (.set s :: items) branches).run ⟨'*' :: cs, f, captures, names⟩ =
      (readBranches fuel inGroup (.repeat (.set s) 0 none true :: items) branches).run ⟨cs, f, captures, names⟩ := by
  have hprefix : ¬ ['?'] <+: cs := by
    rintro ⟨rest, rfl⟩
    exact hlazy rfl
  rw [readBranches]
  simp [space, peek?, bump, hf, readRepeat, accept, hprefix, hgreed]

theorem readBranches_nil (hf : f.spaced = false) :
    (readBranches (fuel + 1) false items branches).run ⟨[], f, captures, names⟩ =
      some (.ofBranches (Tree.ofItems items.reverse :: branches).reverse, ⟨[], f, captures, names⟩) := by
  rw [readBranches]
  simp [space, peek?, hf]

end Pattern
end RowSql
