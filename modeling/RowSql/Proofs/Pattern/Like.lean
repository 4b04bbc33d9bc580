import RowSql.Pattern.Like
import RowSql.Proofs.Pattern.Program
import RowSql.Proofs.Pattern.Reader
import Mathlib.Data.List.Infix
/-!
# Like — the language of a pattern of a comparison

`Like.Matches` says which texts a pattern of a comparison matches, character by character of the pattern and
without mention of searches.  The pattern that is searched for is read back as one item for each character,
between the conditions for the ends of the text (`read?_regex`); what these items take is what the characters
match (`takesRest_items`).  So a pattern that is not too heavy matches the texts of its language and no other
ones (`isMatch_iff`).
-/
namespace RowSql
namespace Like

open Pattern

/-- **The text matches the pattern.**  A percent sign stands for any run of characters, an underscore for any one, and a
backslash before a character for that character; a backslash at the end and other characters stand for themselves. -/
def Matches : List Char → List Char → Prop
  | [], text => text = []
  | '%' :: pattern, text => ∃ rest, rest <:+ text ∧ Matches pattern rest
  | '_' :: pattern, text => ∃ c rest, text = c :: rest ∧ Matches pattern rest
  | '\\' :: c :: pattern, text => ∃ rest, text = c :: rest ∧ Matches pattern rest
  | c :: pattern, text => ∃ rest, text = c :: rest ∧ Matches pattern rest

/-- Whether a text matches a pattern, by trying every run of characters for a percent sign. -/
def accepts : List Char → List Char → Bool
  | [], text => text.isEmpty
  | '%' :: pattern, text => text.tails.any (accepts pattern)
  | '_' :: pattern, text => !text.isEmpty && accepts pattern text.tail
  | '\\' :: c :: pattern, text => text.head? == some c && accepts pattern text.tail
  | c :: pattern, text => text.head? == some c && accepts pattern text.tail

theorem exists_eq_cons_iff {P : List Char → Prop} {c : Char} {text : List Char} :
    (∃ rest, text = c :: rest ∧ P rest) ↔ text.head? = some c ∧ P text.tail := by
  cases text <;> simp [and_comm, eq_comm]

theorem accepts_iff (pattern text : List Char) : accepts pattern text = true ↔ Matches pattern text := by
  induction pattern using body.induct generalizing text with
  | case1 => rw [accepts, Matches, List.isEmpty_iff]
  | case2 pattern ih =>
    rw [accepts, Matches, List.any_eq_true]
    simp only [List.mem_tails, ih]
  | case3 pattern ih =>
    rw [accepts, Matches, Bool.and_eq_true, ih]
    cases text <;> simp
  | case4 c pattern ih => rw [accepts, Matches, Bool.and_eq_true, ih, beq_iff_eq, exists_eq_cons_iff]
  | case5 c pattern hpercent hunderscore hescape ih =>
    rw [accepts, Matches, Bool.and_eq_true, ih, beq_iff_eq, exists_eq_cons_iff] <;> assumption

instance (pattern text : List Char) : Decidable (Matches pattern text) := decidable_of_iff _ (accepts_iff pattern text)

/-! ## The pattern that is searched for -/

/-- What the characters of a pattern take, item by item. -/
def items (f : Flags) : List Char → List Tree
  | [] => []
  | '%' :: cs => .repeat (.set .all) 0 none true :: items f cs
  | '_' :: cs => .set .all :: items f cs
  | '\\' :: c :: cs => .set (foldSet f (.single c)) :: items f cs
  | c :: cs => .set (foldSet f (.single c)) :: items f cs

/-- The pattern of a comparison, between the conditions for the ends of the text. -/
def tree (ignoreCase : Bool) (pattern : List Char) : Tree :=
  .seq (.look .textStart false :: (items (flags ignoreCase) pattern ++ [.look .textEnd false]))

theorem length_quote_pos (c : Char) : 0 < (quote c).length := by
  rw [quote]
  split <;> exact Nat.succ_pos _

section

variable {f : Flags} {fuel captures : Nat} {names : List (String × Nat)} {read : List Tree}

/-- A quoted character is read as the set of it alone. -/
theorem readBranches_quote (hf : f.spaced = false) (c : Char) (cs : List Char) (hfuel : (quote c ++ cs).length < fuel) :
    ∃ fuel', cs.length < fuel' ∧ (readBranches fuel false read []).run ⟨quote c ++ cs, f, captures, names⟩ =
      (readBranches fuel' false (.set (foldSet f (.single c)) :: read) []).run ⟨cs, f, captures, names⟩ := by
  obtain ⟨n, rfl⟩ : ∃ n, fuel = n + 1 := Nat.exists_eq_succ_of_ne_zero (Nat.ne_zero_of_lt hfuel)
  have hpos : 0 < (quote c).length := length_quote_pos c
  rw [List.length_append] at hfuel
  refine ⟨n, by omega, ?_⟩
  rw [quote]
  by_cases hc : isMeta c = true
  · rw [if_pos hc]
    exact readBranches_atom hf (by decide) (readAtom_escape hc)
  · rw [if_neg hc]
    rw [Bool.not_eq_true] at hc
    have hstructural : isStructural c = false := by
      by_contra h
      rw [isMeta_of_isStructural (Bool.not_eq_false _ ▸ h)] at hc
      cases hc
    exact readBranches_atom hf hstructural (readAtom_char hc)

theorem head?_body_ne (pattern : List Char) : (body pattern ++ ['$']).head? ≠ some '?' := by
  have hquote : ∀ (c : Char) (cs : List Char), (quote c ++ cs).head? ≠ some '?' := by
    intro c cs
    rw [quote]
    split
    · exact fun h => by cases h
    · rename_i hc
      rintro h
      obtain rfl : c = '?' := Option.some.inj h
      exact hc (by decide)
  cases pattern using body.fun_cases with
  | case1 => rw [body]; decide
  | case2 cs => rw [body]; exact fun h => by cases h
  | case3 cs => rw [body]; exact fun h => by cases h
  | case4 c cs => rw [body, List.append_assoc]; exact hquote _ _
  | case5 c cs hpercent hunderscore hescape =>
    rw [body, List.append_assoc]
    · exact hquote _ _
    all_goals assumption

/-- **The characters of a pattern are read back as its items.** -/
theorem readBranches_body (ignoreCase : Bool) (pattern : List Char) (hfuel : (body pattern ++ ['$']).length < fuel) :
    (readBranches fuel false read []).run ⟨body pattern ++ ['$'], flags ignoreCase, captures, names⟩ =
      some (.ofBranches [Tree.ofItems (read.reverse ++ (items (flags ignoreCase) pattern ++ [.look .textEnd false]))],
        ⟨[], flags ignoreCase, captures, names⟩) := by
  induction pattern using body.induct generalizing fuel read with
  | case1 =>
    obtain ⟨n, rfl⟩ : ∃ n, fuel = n + 1 + 1 := ⟨fuel - 2, by simp [body] at hfuel; omega⟩
    rw [body, List.nil_append, readBranches_atom rfl (by decide) (readAtom_end rfl), readBranches_nil rfl, items]
    simp
  | case2 pattern ih =>
    obtain ⟨n, rfl⟩ : ∃ n, fuel = n + 1 + 1 := ⟨fuel - 2, by simp [body] at hfuel; omega⟩
    have hn : (body pattern ++ ['$']).length < n := by
      simp only [body, List.cons_append, List.length_cons] at hfuel
      omega
    rw [body, List.cons_append, List.cons_append, readBranches_atom rfl (by decide) (readAtom_dot rfl rfl),
      readBranches_star rfl rfl (head?_body_ne pattern), ih hn, items]
    simp
  | case3 pattern ih =>
    obtain ⟨n, rfl⟩ : ∃ n, fuel = n + 1 := ⟨fuel - 1, by simp [body] at hfuel; omega⟩
    have hn : (body pattern ++ ['$']).length < n := by
      simp only [body, List.cons_append, List.length_cons] at hfuel
      omega
    rw [body, List.cons_append, readBranches_atom rfl (by decide) (readAtom_dot rfl rfl), ih hn, items]
    simp
  | case4 c pattern ih =>
    rw [body, List.append_assoc] at hfuel ⊢
    obtain ⟨n, hn, hread⟩ := readBranches_quote (f := flags ignoreCase) rfl c (body pattern ++ ['$']) hfuel
    rw [hread, ih hn, items]
    simp
  | case5 c pattern hpercent hunderscore hescape ih =>
    have hbody : body (c :: pattern) = quote c ++ body pattern := by
      rw [body] <;> assumption
    have hitems : items (flags ignoreCase) (c :: pattern) =
        .set (foldSet (flags ignoreCase) (.single c)) :: items (flags ignoreCase) pattern := by
      rw [items] <;> assumption
    rw [hbody, List.append_assoc] at hfuel ⊢
    obtain ⟨n, hn, hread⟩ := readBranches_quote (f := flags ignoreCase) rfl c (body pattern ++ ['$']) hfuel
    rw [hread, ih hn, hitems]
    simp

end

/-- An item is a run, any character or one character. -/
theorem forall_mem_items {f : Flags} {P : Tree → Prop} (hrun : P (.repeat (.set .all) 0 none true))
    (hany : P (.set .all))
    (hchar : ∀ c, P (.set (foldSet f (.single c)))) (pattern : List Char) : ∀ t ∈ items f pattern, P t := by
  induction pattern using body.induct with
  | case1 =>
    intro t ht
    cases ht
  | case2 pattern ih =>
    rw [items]
    exact List.forall_mem_cons.2 ⟨hrun, ih⟩
  | case3 pattern ih =>
    rw [items]
    exact List.forall_mem_cons.2 ⟨hany, ih⟩
  | case4 c pattern ih =>
    rw [items]
    exact List.forall_mem_cons.2 ⟨hchar c, ih⟩
  | case5 c pattern hpercent hunderscore hescape ih =>
    rw [items]
    · exact List.forall_mem_cons.2 ⟨hchar c, ih⟩
    all_goals assumption

theorem forall_mem_tree {P : Tree → Prop} {ts : List Tree} (hstart : P (.look .textStart false))
    (hend : P (.look .textEnd false)) (h : ∀ t ∈ ts, P t) :
    ∀ t ∈ Tree.look .textStart false :: (ts ++ [.look .textEnd false]), P t :=
  List.forall_mem_cons.2 ⟨hstart, List.forall_mem_append.2 ⟨h, List.forall_mem_singleton.2 hend⟩⟩

theorem depth_tree_le (ignoreCase : Bool) (pattern : List Char) : (tree ignoreCase pattern).depth ≤ depthLimit := by
  have hitems : ∀ t ∈ items (flags ignoreCase) pattern, t.depth ≤ 1 :=
    forall_mem_items (by decide) (by decide) (fun c => by simp [Tree.depth]) pattern
  have hdepth := Tree.depthList_le (forall_mem_tree (by decide) (by decide) hitems)
  rw [tree, Tree.depth, depthLimit]
  omega

theorem simplify_tree (ignoreCase : Bool) (pattern : List Char) :
    (tree ignoreCase pattern).simplify = tree ignoreCase pattern := by
  have hset : ∀ s : CharSet, (Tree.set s).simplify = .set s := fun s => by simp [Tree.simplify]
  have hitems : ∀ t ∈ items (flags ignoreCase) pattern, t.simplify = t :=
    forall_mem_items (P := fun t => t.simplify = t) (by simp [Tree.simplify, Tree.isEmptyOnly]) (hset _)
      (fun c => hset _) pattern
  have hsimplify :=
    Tree.simplifyList_eq_self (forall_mem_tree (by simp [Tree.simplify]) (by simp [Tree.simplify]) hitems)
  rw [tree, Tree.simplify, hsimplify]

/-- **The pattern that is searched for is read back as the items of the comparison**, between the ends of the text. -/
theorem read?_regex (ignoreCase : Bool) (pattern : List Char) :
    read? (flags ignoreCase) (regex pattern) = some ⟨tree ignoreCase pattern, []⟩ := by
  have hread : (readBranches ((regex pattern).length + 1) false [] []).run ⟨regex pattern, flags ignoreCase, 0, []⟩ =
      some (tree ignoreCase pattern, ⟨[], flags ignoreCase, 0, []⟩) := by
    rw [regex, readBranches_atom rfl (by decide) (readAtom_start rfl), List.length_cons,
      readBranches_body ignoreCase pattern (Nat.lt_succ_self _)]
    cases hitems : items (flags ignoreCase) pattern <;> simp [tree, hitems, Tree.ofBranches, Tree.ofItems]
  rw [read?, hread]
  simp [depth_tree_le, simplify_tree]

/-! ## What the items take -/

theorem contains_single (c d : Char) : (CharSet.single c).contains d = true ↔ d = c := by
  rw [CharSet.single, CharSet.contains, Bool.and_eq_true, decide_eq_true_iff, decide_eq_true_iff]
  constructor
  · rintro ⟨hle, hge⟩
    exact Char.le_antisymm hge hle
  · rintro rfl
    exact ⟨Char.le_refl d, Char.le_refl d⟩

theorem drop_eq_cons_iff {text : List Char} {p : Nat} {c : Char} {rest : List Char} :
    text.drop p = c :: rest ↔ text[p]? = some c ∧ rest = text.drop (p + 1) := by
  rw [← List.head?_drop, ← List.tail_drop]
  cases text.drop p <;> simp [eq_comm]

theorem takes_textStart_iff {text : List Char} {asciiWords : Bool} {p q : Nat} (hp : p ≤ text.length) :
    (Tree.look .textStart asciiWords).Takes text.toArray p q ↔ p = 0 ∧ q = 0 := by
  rw [Tree.Takes, Look.holdsAt, Look.holds]
  constructor
  · rintro ⟨hnone, rfl⟩
    have hzero : q = 0 := by
      by_contra hne
      rw [if_neg hne, List.getElem?_toArray, Option.isNone_iff_eq_none, List.getElem?_eq_none_iff] at hnone
      omega
    exact ⟨hzero, hzero⟩
  · rintro ⟨rfl, rfl⟩
    exact ⟨rfl, rfl⟩

theorem takes_textEnd_iff {text : List Char} {asciiWords : Bool} {p q : Nat} :
    (Tree.look .textEnd asciiWords).Takes text.toArray p q ↔ text.length ≤ p ∧ q = p := by
  rw [Tree.Takes, Look.holdsAt, Look.holds, List.getElem?_toArray, Option.isNone_iff_eq_none, List.getElem?_eq_none_iff]

theorem times_all_iff {text : List Char} : ∀ {n p q : Nat}, p ≤ text.length →
    (Times ((Tree.set .all).Takes text.toArray) n p q ↔ p + n ≤ text.length ∧ q = p + n)
  | 0, p, q, hp => by
    rw [Times]
    exact ⟨fun h => ⟨hp, h.symm⟩, fun h => h.2.symm⟩
  | n + 1, p, q, hp => by
    rw [Times]
    constructor
    · rintro ⟨x, hx, hxq⟩
      rw [Tree.Takes, List.getElem?_toArray] at hx
      obtain ⟨c, hc, -, rfl⟩ := hx
      have hlt : p < text.length := (List.getElem?_eq_some_iff.1 hc).1
      obtain ⟨hle, rfl⟩ := (times_all_iff hlt).1 hxq
      exact ⟨by omega, by omega⟩
    · rintro ⟨hle, rfl⟩
      have hlt : p < text.length := by omega
      refine ⟨p + 1, ?_, (times_all_iff hlt).2 ⟨by omega, by omega⟩⟩
      rw [Tree.Takes, List.getElem?_toArray]
      exact ⟨text[p], List.getElem?_eq_getElem hlt, rfl, rfl⟩

/-- Some patterns take the rest of the text, up to its end, exactly when the rest is as `P` says. -/
def TakesRest (text : List Char) (ts : List Tree) (P : List Char → Prop) : Prop :=
  ∀ p ≤ text.length, ∀ q, TakesAll text.toArray ts p q ↔ q = text.length ∧ P (text.drop p)

namespace TakesRest

variable {text : List Char} {ts : List Tree} {P Q : List Char → Prop}

theorem textEnd (text : List Char) : TakesRest text [.look .textEnd false] fun rest => rest = [] := by
  intro p hp q
  rw [TakesAll]
  simp only [TakesAll, takes_textEnd_iff, List.drop_eq_nil_iff]
  constructor
  · rintro ⟨_, ⟨hend, rfl⟩, rfl⟩
    exact ⟨by omega, hend⟩
  · rintro ⟨rfl, hend⟩
    exact ⟨p, ⟨hend, rfl⟩, by omega⟩

theorem set (s : CharSet) (h : TakesRest text ts P) :
    TakesRest text (.set s :: ts) fun rest => ∃ c rest', rest = c :: rest' ∧ s.contains c = true ∧ P rest' := by
  intro p hp q
  simp only [TakesAll, Tree.Takes, List.getElem?_toArray, drop_eq_cons_iff]
  constructor
  · rintro ⟨_, ⟨c, hc, hs, rfl⟩, htakes⟩
    have hlt : p < text.length := (List.getElem?_eq_some_iff.1 hc).1
    obtain ⟨rfl, hP⟩ := (h (p + 1) hlt q).1 htakes
    exact ⟨rfl, c, _, ⟨hc, rfl⟩, hs, hP⟩
  · rintro ⟨rfl, c, _, ⟨hc, rfl⟩, hs, hP⟩
    have hlt : p < text.length := (List.getElem?_eq_some_iff.1 hc).1
    exact ⟨p + 1, ⟨c, hc, hs, rfl⟩, (h (p + 1) hlt _).2 ⟨rfl, hP⟩⟩

theorem run (h : TakesRest text ts P) :
    TakesRest text (.repeat (.set .all) 0 none true :: ts) fun rest => ∃ rest', rest' <:+ rest ∧ P rest' := by
  intro p hp q
  constructor
  · rw [TakesAll]
    rintro ⟨_, hrepeat, htakes⟩
    rw [Tree.Takes] at hrepeat
    obtain ⟨n, -, -, hn⟩ := hrepeat
    obtain ⟨hle, rfl⟩ := (times_all_iff hp).1 hn
    obtain ⟨rfl, hP⟩ := (h (p + n) hle q).1 htakes
    refine ⟨rfl, text.drop (p + n), ?_, hP⟩
    rw [← List.drop_drop]
    exact List.drop_suffix n _
  · rintro ⟨rfl, rest, hsuffix, hP⟩
    obtain ⟨n, hle, rfl⟩ : ∃ n, p + n ≤ text.length ∧ rest = text.drop (p + n) := by
      have hdrop := List.suffix_iff_eq_drop.1 hsuffix
      rw [List.length_drop, List.drop_drop] at hdrop
      exact ⟨_, by omega, hdrop⟩
    have hall : Repeats ((Tree.set .all).Takes text.toArray) 0 none p (p + n) :=
      ⟨n, Nat.zero_le n, fun m hm => absurd hm (Option.not_mem_none m), (times_all_iff hp).2 ⟨hle, rfl⟩⟩
    rw [TakesAll]
    exact ⟨p + n, by rwa [Tree.Takes], (h _ hle _).2 ⟨rfl, hP⟩⟩

theorem congr (h : TakesRest text ts P) (hPQ : ∀ rest, P rest ↔ Q rest) : TakesRest text ts Q := by
  intro p hp q
  rw [h p hp q, hPQ]

end TakesRest

/-- **The items of a pattern take the rest of a text exactly when the rest matches the pattern.** -/
theorem takesRest_items {f : Flags} (hf : f.ignoreCase = false) (text pattern : List Char) :
    TakesRest text (items f pattern ++ [.look .textEnd false]) (Matches pattern) := by
  have hchar : ∀ {c : Char} {ts : List Tree} {P : List Char → Prop}, TakesRest text ts P →
      TakesRest text (.set (foldSet f (.single c)) :: ts) fun rest => ∃ rest', rest = c :: rest' ∧ P rest' := by
    intro c ts P h
    rw [foldSet, hf]
    refine (h.set (.single c)).congr fun rest => ?_
    constructor
    · rintro ⟨d, rest', rfl, hd, hP⟩
      rw [(contains_single c d).1 hd]
      exact ⟨rest', rfl, hP⟩
    · rintro ⟨rest', rfl, hP⟩
      exact ⟨c, rest', rfl, (contains_single c c).2 rfl, hP⟩
  induction pattern using body.induct with
  | case1 =>
    rw [items]
    exact (TakesRest.textEnd text).congr fun rest => by rw [Matches]
  | case2 pattern ih =>
    rw [items]
    exact ih.run.congr fun rest => by rw [Matches]
  | case3 pattern ih =>
    rw [items]
    refine (ih.set .all).congr fun rest => ?_
    rw [Matches]
    simp [CharSet.contains]
  | case4 c pattern ih =>
    rw [items]
    exact (hchar ih).congr fun rest => by rw [Matches]
  | case5 c pattern hpercent hunderscore hescape ih =>
    rw [items]
    · refine (hchar ih).congr fun rest => ?_
      rw [Matches] <;> assumption
    all_goals assumption

theorem takes_tree_iff (text pattern : List Char) :
    (∃ start ≤ text.length, ∃ stop, (tree false pattern).Takes text.toArray start stop) ↔ Matches pattern text := by
  have hrest := takesRest_items (f := flags false) rfl text pattern 0 (Nat.zero_le _)
  rw [List.drop_zero] at hrest
  simp only [tree, takes_seq, takesAll_cons]
  constructor
  · rintro ⟨start, hle, stop, p, hstart, htakes⟩
    obtain ⟨-, rfl⟩ := (takes_textStart_iff hle).1 hstart
    exact ((hrest stop).1 htakes).2
  · intro h
    exact ⟨0, Nat.zero_le _, text.length, 0, (takes_textStart_iff (Nat.zero_le _)).2 ⟨rfl, rfl⟩, (hrest _).2 ⟨rfl, h⟩⟩

/-! ## The language of a pattern -/

theorem compile?_isSome_iff (ignoreCase : Bool) (pattern : List Char) :
    (compile? ignoreCase pattern).isSome = true ↔ (tree ignoreCase pattern).weight ≤ weightLimit := by
  rw [compile?, compileWith?, read?_regex]
  by_cases h : (tree ignoreCase pattern).weight ≤ weightLimit <;> simp [h]

/-- **A pattern that is ready matches the texts of its language and no other ones.** -/
theorem isMatch_iff {pattern : List Char} {p : Compiled} (h : compile? false pattern = some p) (text : List Char) :
    p.isMatch text = true ↔ Matches pattern text := by
  obtain ⟨source, hsource, -, hmatch⟩ := isMatch_of_compileWith? h
  rw [read?_regex] at hsource
  obtain rfl := Option.some.inj hsource
  rw [hmatch, takes_tree_iff]

theorem weight_single_le (c : Char) : (Tree.set (.single c)).weight ≤ 100 := by
  rw [Tree.weight, CharSet.single, setWeight]
  split
  · decide
  · rw [if_pos (beq_self_eq_true c)]

theorem weights_items_le {f : Flags} (hf : f.ignoreCase = false) (pattern : List Char) :
    weights (items f pattern) ≤ 532 * pattern.length := by
  have hrun : (Tree.repeat (.set .all) 0 none true).weight = 532 := by decide
  have hany : (Tree.set .all).weight = 500 := by decide
  have hchar : ∀ c : Char, (Tree.set (foldSet f (.single c))).weight ≤ 100 := by
    intro c
    rw [foldSet, hf]
    exact weight_single_le c
  induction pattern using body.induct with
  | case1 =>
    rw [items, weights]
    exact Nat.zero_le _
  | case2 pattern ih =>
    rw [items, weights, hrun, List.length_cons]
    omega
  | case3 pattern ih =>
    rw [items, weights, hany, List.length_cons]
    omega
  | case4 c pattern ih =>
    have hc := hchar c
    rw [items, weights, List.length_cons, List.length_cons]
    omega
  | case5 c pattern hpercent hunderscore hescape ih =>
    have hc := hchar c
    rw [items, weights, List.length_cons]
    · omega
    all_goals assumption

/-- **The weight of a pattern is bounded by its length**: each character adds at most the weight of a run. -/
theorem weight_tree_le (pattern : List Char) : (tree false pattern).weight ≤ 532 * pattern.length + 64 := by
  have hitems := weights_items_le (f := flags false) rfl pattern
  rw [tree, Tree.weight, weights, weights_append]
  simp only [weights, Tree.weight]
  omega

end Like
end RowSql
