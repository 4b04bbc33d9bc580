import RowSql.Proofs.Pattern.Search
/-!
# Program — what the program of a pattern takes

A pattern takes a text from one place to another (`Tree.Takes`); this is said of sets, conditions, sequences,
alternatives and repetitions, without mention of instructions.  The program of a pattern does the same: wherever
it stands in a program, it leads from its first address to the address after it as the pattern says, and in no
other way (`implements_code`).  Both halves go by the pattern, with one lemma for each way in which programs are
put together.  So a compiled pattern matches a text exactly when the pattern takes a part of it
(`isMatch_of_compileWith?`).
-/
namespace RowSql
namespace Pattern

/-! ## What a pattern takes -/

/-- A relation as often as a repetition asks, and never less than its least number of times. -/
def Repeats {α : Type} (R : α → α → Prop) (least : Nat) (most : Option Nat) (a b : α) : Prop :=
  ∃ n, least ≤ n ∧ (∀ m ∈ most, n ≤ max least m) ∧ Times R n a b

mutual

/-- **The pattern takes a text from one place to another.** -/
def Tree.Takes (text : Array Char) : Tree → Nat → Nat → Prop
  | .set s, p, q => ∃ c, text[p]? = some c ∧ s.contains c = true ∧ q = p + 1
  | .class s _, p, q => ∃ c, text[p]? = some c ∧ s.contains c = true ∧ q = p + 1
  | .look l asciiWords, p, q => l.holdsAt text asciiWords p = true ∧ q = p
  | .seq items, p, q => TakesAll text items p q
  | .alt branches, p, q => TakesOne text branches p q
  | .repeat body least most _, p, q => Repeats (body.Takes text) least most p q
  | .capture _ body, p, q => body.Takes text p q
  | .group body, p, q => body.Takes text p q
  | .empty, p, q => q = p
  | .setting, p, q => q = p

/-- The patterns take a text one after the other. -/
def TakesAll (text : Array Char) : List Tree → Nat → Nat → Prop
  | [], p, q => q = p
  | t :: ts, p, r => ∃ q, t.Takes text p q ∧ TakesAll text ts q r

/-- One of the patterns takes a text; where there is none, nothing is taken. -/
def TakesOne (text : Array Char) : List Tree → Nat → Nat → Prop
  | [], p, q => q = p
  | [t], p, q => t.Takes text p q
  | t :: ts, p, q => t.Takes text p q ∨ TakesOne text ts p q

end

theorem takes_seq (text : Array Char) (items : List Tree) (p q : Nat) :
    (Tree.seq items).Takes text p q ↔ TakesAll text items p q := by rw [Tree.Takes]

theorem takesAll_cons (text : Array Char) (t : Tree) (ts : List Tree) (p r : Nat) :
    TakesAll text (t :: ts) p r ↔ ∃ q, t.Takes text p q ∧ TakesAll text ts q r := by rw [TakesAll]

theorem takesOne_cons (text : Array Char) (t u : Tree) (ts : List Tree) (p q : Nat) :
    TakesOne text (t :: u :: ts) p q ↔ t.Takes text p q ∨ TakesOne text (u :: ts) p q := by
  rw [TakesOne]
  exact fun h => by cases h

theorem Times.add_iff {α : Type} {R : α → α → Prop} {m n : Nat} {a c : α} :
    Times R (m + n) a c ↔ ∃ b, Times R m a b ∧ Times R n b c := by
  constructor
  · induction m generalizing a with
    | zero =>
      intro h
      rw [Nat.zero_add] at h
      exact ⟨a, rfl, h⟩
    | succ m ih =>
      rw [Nat.succ_add]
      rintro ⟨x, hax, hxc⟩
      obtain ⟨b, hxb, hbc⟩ := ih hxc
      exact ⟨b, ⟨x, hax, hxb⟩, hbc⟩
  · rintro ⟨b, hab, hbc⟩
    exact hab.append hbc

theorem weights_append : ∀ ts us : List Tree, weights (ts ++ us) = weights ts + weights us
  | [], us => by rw [List.nil_append, weights, Nat.zero_add]
  | t :: ts, us => by rw [List.cons_append, weights, weights, weights_append ts us, Nat.add_assoc]

/-! ## Pieces of programs -/

/-- The piece stands in a program at an address. -/
def CodeAt (program : Array Instr) : Nat → List Instr → Prop
  | _, [] => True
  | a, i :: code => program[a]? = some i ∧ CodeAt program (a + 1) code

theorem codeAt_append {program : Array Instr} :
    ∀ {a : Nat} {c d : List Instr}, CodeAt program a (c ++ d) ↔ CodeAt program a c ∧ CodeAt program (a + c.length) d
  | a, [], d => by simp [CodeAt]
  | a, i :: c, d => by
    rw [List.cons_append, CodeAt, CodeAt, codeAt_append, List.length_cons, and_assoc, Nat.add_assoc a 1, Nat.add_comm 1]

theorem codeAt_toArray (before code after : List Instr) :
    CodeAt (before ++ (code ++ after)).toArray before.length code := by
  induction code generalizing before with
  | nil => trivial
  | cons i code ih =>
    refine ⟨by simp, ?_⟩
    have h := ih (before ++ [i])
    rw [List.append_assoc, List.singleton_append, List.length_append] at h
    exact h

/-- **A piece of program implements a relation between places.** -/
structure Implements (text : Array Char) (code : List Instr) (R : Nat → Nat → Prop) : Prop where
  /-- It leads to the address after it as the relation says. -/
  reaches : ∀ {program : Array Instr} {a p q : Nat}, CodeAt program a code → R p q →
    Reaches program text (a, p) (a + code.length, q)
  /-- Moves that go beyond it pass the address after it, at a place as the relation says. -/
  leaves : ∀ {program : Array Instr} {a n p : Nat} {z : Point}, CodeAt program a code →
    Times (Moves program text) n (a, p) z → a + code.length ≤ z.1 →
    ∃ q m, m ≤ n ∧ R p q ∧ Times (Moves program text) m (a + code.length, q) z
  goesOn : Instr.done ∉ code

section

variable {program : Array Instr} {text : Array Char}

theorem Reaches.trans {x y z : Point} (hxy : Reaches program text x y) (hyz : Reaches program text y z) :
    Reaches program text x z := by
  obtain ⟨m, hm⟩ := hxy
  obtain ⟨n, hn⟩ := hyz
  exact ⟨m + n, hm.append hn⟩

theorem Reaches.of_moves {x y : Point} (h : Moves program text x y) : Reaches program text x y := ⟨1, y, h, rfl⟩

theorem CodeAt.moves_iff {a p : Nat} {i : Instr} {code : List Instr} {y : Point} (h : CodeAt program a (i :: code)) :
    Moves program text (a, p) y ↔ y ∈ i.next text (a, p) := by
  constructor
  · rintro ⟨j, hj, hy⟩
    obtain rfl : i = j := Option.some.inj (h.1.symm.trans hj)
    exact hy
  · intro hy
    exact ⟨i, h.1, hy⟩

/-- Moves to another address begin with one. -/
theorem Times.exists_move {n : Nat} {x z : Point} (h : Times (Moves program text) n x z) (hne : x.1 ≠ z.1) :
    ∃ m y, n = m + 1 ∧ Moves program text x y ∧ Times (Moves program text) m y z := by
  cases n with
  | zero =>
    obtain rfl : x = z := h
    exact absurd rfl hne
  | succ n =>
    obtain ⟨y, hxy, hyz⟩ := h
    exact ⟨n, y, rfl, hxy, hyz⟩

end

section

variable {text : Array Char} {a p : Nat} {y : Point}

theorem mem_next_split_forward {i j : Nat} :
    y ∈ Instr.next text (.split i j) (a, p) ↔ y = (a + i, p) ∨ y = (a + j, p) := by
  have hi : ((a : Int) + i).toNat = a + i := by omega
  have hj : ((a : Int) + j).toNat = a + j := by omega
  rw [Instr.mem_next_split, hi, hj]

theorem mem_next_jump_forward {d : Nat} : y ∈ Instr.next text (.jump d) (a, p) ↔ y = (a + d, p) := by
  have hd : ((a : Int) + d).toNat = a + d := by omega
  rw [Instr.mem_next_jump, hd]

/-- The two ways of a branch, of which its greed prefers one. -/
theorem mem_next_branch {greedy : Bool} {on away : Int} {x : Point} :
    y ∈ (branch greedy on away).next text x ↔ y = ((x.1 + on).toNat, x.2) ∨ y = ((x.1 + away).toNat, x.2) := by
  cases greedy with
  | true => exact Instr.mem_next_split
  | false =>
    rw [or_comm]
    exact Instr.mem_next_split

theorem mem_next_branch_forward {greedy : Bool} {i j : Nat} :
    y ∈ (branch greedy i j).next text (a, p) ↔ y = (a + i, p) ∨ y = (a + j, p) := by
  have hi : ((a : Int) + i).toNat = a + i := by omega
  have hj : ((a : Int) + j).toNat = a + j := by omega
  rw [mem_next_branch, hi, hj]

theorem mem_next_branch_back {greedy : Bool} {n : Nat} :
    y ∈ (branch greedy (-(n : Int)) 1).next text (a + n, p) ↔ y = (a, p) ∨ y = (a + n + 1, p) := by
  have hback : (((a + n : Nat) : Int) + -(n : Int)).toNat = a := by omega
  have hon : (((a + n : Nat) : Int) + 1).toNat = a + n + 1 := by omega
  rw [mem_next_branch, hback, hon]

end

theorem branch_ne_done (greedy : Bool) (on away : Int) : branch greedy on away ≠ .done := by
  cases greedy <;> exact fun h => by cases h

namespace Implements

variable {text : Array Char} {c d : List Instr} {R S : Nat → Nat → Prop}

theorem congr (h : Implements text c R) (hRS : ∀ p q, R p q ↔ S p q) : Implements text c S := by
  have heq : R = S := funext fun p => funext fun q => propext (hRS p q)
  rwa [← heq]

theorem nil : Implements text [] fun p q => q = p where
  reaches _ h := by
    subst h
    exact ⟨0, rfl⟩
  leaves _ hz _ := ⟨_, _, Nat.le_refl _, rfl, hz⟩
  goesOn := List.not_mem_nil

/-- An instruction that goes on to the next address. -/
theorem single {i : Instr} (hnext : ∀ a p y, y ∈ i.next text (a, p) ↔ ∃ q, R p q ∧ y = (a + 1, q))
    (hdone : i ≠ .done) : Implements text [i] R where
  reaches hat h := Reaches.of_moves (hat.moves_iff.2 ((hnext _ _ _).2 ⟨_, h, rfl⟩))
  leaves {program a n p z} hat hz hle := by
    rw [List.length_singleton] at hle
    obtain ⟨m, y, rfl, hmove, hyz⟩ := hz.exists_move (show a ≠ z.1 by omega)
    obtain ⟨q, hq, rfl⟩ := (hnext _ _ _).1 (hat.moves_iff.1 hmove)
    exact ⟨q, m, Nat.le_succ m, hq, hyz⟩
  goesOn hmem := hdone (List.mem_singleton.1 hmem).symm

theorem take (s : CharSet) :
    Implements text [.take s] fun p q => ∃ c, text[p]? = some c ∧ s.contains c = true ∧ q = p + 1 := by
  refine single (fun a p y => ?_) fun h => by cases h
  rw [Instr.mem_next_take]
  constructor
  · rintro ⟨c, hc, hs, rfl⟩
    exact ⟨p + 1, ⟨c, hc, hs, rfl⟩, rfl⟩
  · rintro ⟨q, ⟨c, hc, hs, rfl⟩, rfl⟩
    exact ⟨c, hc, hs, rfl⟩

theorem look (l : Look) (asciiWords : Bool) :
    Implements text [.look l asciiWords] fun p q => l.holdsAt text asciiWords p = true ∧ q = p := by
  refine single (fun a p y => ?_) fun h => by cases h
  rw [Instr.mem_next_look]
  constructor
  · rintro ⟨hl, rfl⟩
    exact ⟨p, ⟨hl, rfl⟩, rfl⟩
  · rintro ⟨q, ⟨hl, rfl⟩, rfl⟩
    exact ⟨hl, rfl⟩

theorem save (slot : Nat) : Implements text [.save slot] fun p q => q = p := by
  refine single (fun a p y => ?_) fun h => by cases h
  rw [Instr.mem_next_save]
  constructor
  · rintro rfl
    exact ⟨p, rfl, rfl⟩
  · rintro ⟨q, rfl, rfl⟩
    rfl

/-- **Pieces in a row do what one does and then the other.** -/
theorem append (hc : Implements text c R) (hd : Implements text d S) :
    Implements text (c ++ d) fun p r => ∃ q, R p q ∧ S q r where
  reaches hat h := by
    obtain ⟨q, hR, hS⟩ := h
    obtain ⟨hatc, hatd⟩ := codeAt_append.1 hat
    rw [List.length_append, ← Nat.add_assoc]
    exact (hc.reaches hatc hR).trans (hd.reaches hatd hS)
  leaves hat hz hle := by
    obtain ⟨hatc, hatd⟩ := codeAt_append.1 hat
    rw [List.length_append, ← Nat.add_assoc] at hle ⊢
    obtain ⟨q, m, hm, hR, hq⟩ := hc.leaves hatc hz (Nat.le_of_add_right_le hle)
    obtain ⟨r, k, hk, hS, hr⟩ := hd.leaves hatd hq hle
    exact ⟨r, k, Nat.le_trans hk hm, ⟨q, hR, hS⟩, hr⟩
  goesOn hmem := by
    rcases List.mem_append.1 hmem with hmem | hmem
    · exact hc.goesOn hmem
    · exact hd.goesOn hmem

theorem times (h : Implements text c R) : ∀ n : Nat, Implements text (List.replicate n c).flatten (Times R n)
  | 0 => nil.congr fun _ _ => eq_comm
  | n + 1 => h.append (h.times n)

/-- A piece that may be left out. -/
theorem optional (greedy : Bool) (h : Implements text c R) :
    Implements text (branch greedy 1 (c.length + 1 : Nat) :: c) fun p q => q = p ∨ R p q where
  reaches {program a p q} hat hor := by
    rw [List.length_cons]
    rcases hor with rfl | hR
    · exact Reaches.of_moves (hat.moves_iff.2 ((mem_next_branch_forward (i := 1)).2 (Or.inr rfl)))
    · have hon : Reaches program text (a, p) (a + 1, p) :=
        Reaches.of_moves (hat.moves_iff.2 ((mem_next_branch_forward (i := 1)).2 (Or.inl rfl)))
      have hbody := hon.trans (h.reaches hat.2 hR)
      rwa [Nat.add_assoc, Nat.add_comm 1] at hbody
  leaves {program a n p z} hat hz hle := by
    rw [List.length_cons] at hle ⊢
    obtain ⟨m, y, rfl, hmove, hyz⟩ := hz.exists_move (show a ≠ z.1 by omega)
    rcases (mem_next_branch_forward (i := 1)).1 (hat.moves_iff.1 hmove) with rfl | rfl
    · obtain ⟨q, k, hk, hR, hq⟩ := h.leaves hat.2 hyz (by omega)
      refine ⟨q, k, Nat.le_succ_of_le hk, Or.inr hR, ?_⟩
      rwa [Nat.add_assoc, Nat.add_comm 1] at hq
    · exact ⟨p, m, Nat.le_succ m, Or.inl rfl, hyz⟩
  goesOn hmem := by
    rcases List.mem_cons.1 hmem with hmem | hmem
    · exact branch_ne_done _ _ _ hmem.symm
    · exact h.goesOn hmem

/-- Two pieces of which the second one is taken where the first one is not. -/
theorem either (hc : Implements text c R) (hd : Implements text d S) :
    Implements text (.split 1 (c.length + 2 : Nat) :: (c ++ .jump (d.length + 1 : Nat) :: d))
      fun p q => R p q ∨ S p q := by
  have hlength : ∀ a : Nat, a + (Instr.split 1 (c.length + 2 : Nat) :: (c ++ .jump (d.length + 1 : Nat) :: d)).length =
      a + 1 + c.length + (d.length + 1) := by
    intro a
    simp only [List.length_cons, List.length_append]
    omega
  refine ⟨fun {program a p q} hat hor => ?_, fun {program a n p z} hat hz hle => ?_, fun hmem => ?_⟩
  · obtain ⟨hatc, hatjump⟩ := codeAt_append.1 hat.2
    rw [hlength]
    rcases hor with hR | hS
    · have hon : Reaches program text (a, p) (a + 1, p) :=
        Reaches.of_moves (hat.moves_iff.2 ((mem_next_split_forward (i := 1)).2 (Or.inl rfl)))
      exact (hon.trans (hc.reaches hatc hR)).trans
        (Reaches.of_moves (hatjump.moves_iff.2 (mem_next_jump_forward.2 rfl)))
    · have haway : Reaches program text (a, p) (a + (c.length + 2), p) :=
        Reaches.of_moves (hat.moves_iff.2 ((mem_next_split_forward (i := 1)).2 (Or.inr rfl)))
      have hplace : a + (c.length + 2) = a + 1 + c.length + 1 := by omega
      rw [hplace] at haway
      have hend := haway.trans (hd.reaches hatjump.2 hS)
      rwa [Nat.add_assoc _ 1, Nat.add_comm 1 d.length] at hend
  · obtain ⟨hatc, hatjump⟩ := codeAt_append.1 hat.2
    rw [hlength] at hle ⊢
    obtain ⟨m, y, rfl, hmove, hyz⟩ := hz.exists_move (show a ≠ z.1 by omega)
    rcases (mem_next_split_forward (i := 1)).1 (hat.moves_iff.1 hmove) with rfl | rfl
    · obtain ⟨q, k, hk, hR, hq⟩ := hc.leaves hatc hyz (by omega)
      obtain ⟨j, y, rfl, hjump, hyz⟩ := hq.exists_move (show a + 1 + c.length ≠ z.1 by omega)
      rw [mem_next_jump_forward.1 (hatjump.moves_iff.1 hjump)] at hyz
      exact ⟨q, j, by omega, Or.inl hR, hyz⟩
    · have hplace : a + (c.length + 2) = a + 1 + c.length + 1 := by omega
      rw [hplace] at hyz
      obtain ⟨q, k, hk, hS, hq⟩ := hd.leaves hatjump.2 hyz (by omega)
      rw [Nat.add_assoc _ 1, Nat.add_comm 1 d.length] at hq
      exact ⟨q, k, by omega, Or.inr hS, hq⟩
  · rcases List.mem_cons.1 hmem with hmem | hmem
    · cases hmem
    · rcases List.mem_append.1 hmem with hmem | hmem
      · exact hc.goesOn hmem
      · rcases List.mem_cons.1 hmem with hmem | hmem
        · cases hmem
        · exact hd.goesOn hmem

/-- A piece once or more often. -/
theorem plus (greedy : Bool) (h : Implements text c R) :
    Implements text (Pattern.plus greedy c) fun p q => ∃ n, Times R (n + 1) p q where
  reaches {program a p q} hat hn := by
    obtain ⟨n, hn⟩ := hn
    obtain ⟨hatc, hatback⟩ := codeAt_append.1 hat
    rw [Pattern.plus, List.length_append, List.length_singleton]
    induction n generalizing p with
    | zero =>
      obtain ⟨x, hR, rfl⟩ := hn
      exact (h.reaches hatc hR).trans (Reaches.of_moves (hatback.moves_iff.2 (mem_next_branch_back.2 (Or.inr rfl))))
    | succ n ih =>
      obtain ⟨x, hR, hx⟩ := hn
      have hback : Reaches program text (a + c.length, x) (a, x) :=
        Reaches.of_moves (hatback.moves_iff.2 (mem_next_branch_back.2 (Or.inl rfl)))
      exact ((h.reaches hatc hR).trans hback).trans (ih hx)
  leaves {program a n p z} hat hz hle := by
    obtain ⟨hatc, hatback⟩ := codeAt_append.1 hat
    rw [Pattern.plus, List.length_append, List.length_singleton] at hle ⊢
    -- By the number of moves: after the body they go on, or back to its first address with fewer moves left.
    induction n using Nat.strongRecOn generalizing p with
    | _ n ih =>
      obtain ⟨x, m, hm, hR, hx⟩ := h.leaves hatc hz (by omega)
      obtain ⟨k, y, rfl, hmove, hyz⟩ := hx.exists_move (show a + c.length ≠ z.1 by omega)
      rcases mem_next_branch_back.1 (hatback.moves_iff.1 hmove) with rfl | rfl
      · obtain ⟨q, j, hj, ⟨i, hi⟩, hq⟩ := ih k (by omega) hyz
        exact ⟨q, j, by omega, ⟨i + 1, x, hR, hi⟩, hq⟩
      · exact ⟨x, k, by omega, ⟨0, x, hR, rfl⟩, hyz⟩
  goesOn hmem := by
    rcases List.mem_append.1 hmem with hmem | hmem
    · exact h.goesOn hmem
    · exact branch_ne_done _ _ _ (List.mem_singleton.1 hmem).symm

theorem length_optionals (greedy : Bool) (body : List Instr) :
    ∀ n : Nat, (optionals greedy body n).length = (body.length + 1) * n
  | 0 => rfl
  | n + 1 => by
    rw [optionals, List.length_cons, List.length_append, length_optionals greedy body n, Nat.mul_succ]
    omega

theorem optionals (greedy : Bool) (h : Implements text c R) :
    ∀ n : Nat, Implements text (Pattern.optionals greedy c n) fun p q => ∃ m ≤ n, Times R m p q
  | 0 => nil.congr fun p q => by
    constructor
    · rintro rfl
      exact ⟨0, Nat.le_refl 0, rfl⟩
    · rintro ⟨m, hm, hpq⟩
      obtain rfl : m = 0 := Nat.le_zero.1 hm
      exact Eq.symm hpq
  | n + 1 => by
    have hlength : (c.length + 1) * (n + 1) = (c ++ Pattern.optionals greedy c n).length + 1 := by
      rw [List.length_append, length_optionals, Nat.mul_succ]
      omega
    rw [Pattern.optionals, hlength]
    refine (optional greedy (h.append (h.optionals greedy n))).congr fun p q => ?_
    constructor
    · rintro (rfl | ⟨x, hx, m, hm, hxq⟩)
      · exact ⟨0, Nat.zero_le _, rfl⟩
      · exact ⟨m + 1, Nat.succ_le_succ hm, x, hx, hxq⟩
    · rintro ⟨m, hm, hpq⟩
      cases m with
      | zero => exact Or.inl (Eq.symm hpq)
      | succ m =>
        obtain ⟨x, hx, hxq⟩ := hpq
        exact Or.inr ⟨x, hx, m, Nat.le_of_succ_le_succ hm, hxq⟩

/-- **The program of a repetition repeats its body.** -/
theorem repeated (least : Nat) (most : Option Nat) (greedy : Bool) (h : Implements text c R) :
    Implements text (Pattern.repeated c least most greedy) (Repeats R least most) := by
  cases most with
  | some m =>
    refine ((h.times least).append (h.optionals greedy (m - least))).congr fun p q => ?_
    constructor
    · rintro ⟨x, hpx, k, hk, hxq⟩
      exact ⟨least + k, Nat.le_add_right _ _, by rintro _ ⟨⟩; omega, hpx.append hxq⟩
    · rintro ⟨n, hleast, hmost, hpq⟩
      have hmax : n ≤ max least m := hmost m rfl
      obtain ⟨k, rfl⟩ := Nat.exists_eq_add_of_le hleast
      obtain ⟨x, hpx, hxq⟩ := Times.add_iff.1 hpq
      exact ⟨x, hpx, k, by omega, hxq⟩
  | none =>
    cases least with
    | zero =>
      refine (optional greedy (h.plus greedy)).congr fun p q => ?_
      constructor
      · rintro (rfl | ⟨n, hn⟩)
        · exact ⟨0, Nat.le_refl 0, fun _ hm => (by cases hm), rfl⟩
        · exact ⟨n + 1, Nat.zero_le _, fun _ hm => (by cases hm), hn⟩
      · rintro ⟨n, -, -, hpq⟩
        cases n with
        | zero => exact Or.inl (Eq.symm hpq)
        | succ n => exact Or.inr ⟨n, hpq⟩
    | succ least =>
      refine ((h.times least).append (h.plus greedy)).congr fun p q => ?_
      constructor
      · rintro ⟨x, hpx, k, hxq⟩
        exact ⟨least + (k + 1), by omega, fun _ hm => (by cases hm), hpx.append hxq⟩
      · rintro ⟨n, hleast, -, hpq⟩
        obtain ⟨k, rfl⟩ := Nat.exists_eq_add_of_le hleast
        rw [Nat.succ_add, ← Nat.add_succ] at hpq
        obtain ⟨x, hpx, hxq⟩ := Times.add_iff.1 hpq
        exact ⟨x, hpx, k, hxq⟩

end Implements

mutual

/-- **The program of a pattern takes what the pattern does.** -/
theorem implements_code (text : Array Char) : ∀ t : Tree, Implements text t.code (t.Takes text)
  | .set s => by
    rw [Tree.code]
    exact (Implements.take s).congr fun p q => by rw [Tree.Takes]
  | .class s _ => by
    rw [Tree.code]
    exact (Implements.take s).congr fun p q => by rw [Tree.Takes]
  | .look l asciiWords => by
    rw [Tree.code]
    exact (Implements.look l asciiWords).congr fun p q => by rw [Tree.Takes]
  | .seq items => by
    rw [Tree.code]
    exact (implements_codes text items).congr fun p q => by rw [Tree.Takes]
  | .alt branches => by
    rw [Tree.code]
    exact (implements_alternatives text branches).congr fun p q => by rw [Tree.Takes]
  | .repeat body least most greedy => by
    rw [Tree.code]
    exact ((implements_code text body).repeated least most greedy).congr fun p q => by rw [Tree.Takes]
  | .capture index body => by
    rw [Tree.code]
    refine ((Implements.save _).append ((implements_code text body).append (Implements.save _))).congr fun p q => ?_
    rw [Tree.Takes]
    constructor
    · rintro ⟨_, rfl, _, h, rfl⟩
      exact h
    · intro h
      exact ⟨p, rfl, q, h, rfl⟩
  | .group body => by
    rw [Tree.code]
    exact (implements_code text body).congr fun p q => by rw [Tree.Takes]
  | .empty => by
    rw [Tree.code]
    exact Implements.nil.congr fun p q => by rw [Tree.Takes]
  | .setting => by
    rw [Tree.code]
    exact Implements.nil.congr fun p q => by rw [Tree.Takes]

theorem implements_codes (text : Array Char) : ∀ ts : List Tree, Implements text (codes ts).flatten (TakesAll text ts)
  | [] => by
    rw [codes]
    exact Implements.nil.congr fun p q => by rw [TakesAll]
  | t :: ts => by
    rw [codes, List.flatten_cons]
    exact ((implements_code text t).append (implements_codes text ts)).congr fun p q => by rw [TakesAll]

theorem implements_alternatives (text : Array Char) :
    ∀ ts : List Tree, Implements text (alternatives (codes ts)) (TakesOne text ts)
  | [] => by
    rw [codes, alternatives]
    exact Implements.nil.congr fun p q => by rw [TakesOne]
  | [t] => by
    rw [codes, codes, alternatives]
    exact (implements_code text t).congr fun p q => by rw [TakesOne]
  | t :: u :: ts => by
    have h := implements_alternatives text (u :: ts)
    rw [codes, alternatives]
    · exact ((implements_code text t).either h).congr fun p q => (takesOne_cons text t u ts p q).symm
    · simp [codes]

end

/-- **From the first address of a program moves lead to its end exactly when the pattern takes the text from there.** -/
theorem succeeds_program_iff (t : Tree) (text : Array Char) (start : Nat) :
    Succeeds t.program.toArray text (0, start) ↔ ∃ stop, t.Takes text start stop := by
  let front : List Instr := .save 0 :: (t.code ++ [.save 1])
  have hfront : Implements text front (t.Takes text) := by
    refine ((Implements.save 0).append ((implements_code text t).append (Implements.save 1))).congr fun p q => ?_
    constructor
    · rintro ⟨_, rfl, _, h, rfl⟩
      exact h
    · intro h
      exact ⟨p, rfl, q, h, rfl⟩
  have hprogram : t.program = front ++ [.done] := by simp [Tree.program, front]
  have hat : CodeAt t.program.toArray 0 front := by
    rw [hprogram]
    exact codeAt_toArray [] front [.done]
  constructor
  · rintro ⟨y, ⟨n, hn⟩, hdone⟩
    have hbeyond : 0 + front.length ≤ y.1 := by
      rw [Nat.zero_add]
      refine Nat.not_lt.1 fun hlt => hfront.goesOn ?_
      rw [List.getElem?_toArray, hprogram, List.getElem?_append_left hlt] at hdone
      exact List.mem_of_getElem? hdone
    obtain ⟨stop, -, -, hstop, -⟩ := hfront.leaves hat hn hbeyond
    exact ⟨stop, hstop⟩
  · rintro ⟨stop, hstop⟩
    refine ⟨(0 + front.length, stop), hfront.reaches hat hstop, ?_⟩
    simp [hprogram]

/-- **A compiled pattern matches a text exactly when the pattern takes a part of the text.** -/
theorem isMatch_of_compileWith? {flags : Flags} {pattern : List Char} {p : Compiled}
    (h : compileWith? flags pattern = some p) :
    ∃ source, read? flags pattern = some source ∧ source.tree.weight ≤ weightLimit ∧ ∀ text : List Char,
      p.isMatch text = true ↔ ∃ start ≤ text.length, ∃ stop, source.tree.Takes text.toArray start stop := by
  obtain ⟨source, hsource, hp⟩ := Option.bind_eq_some_iff.1 h
  split at hp
  · rename_i hweight
    obtain rfl := Option.some.inj hp
    refine ⟨source, hsource, hweight, fun text => ?_⟩
    rw [Compiled.isMatch_iff]
    simp only [succeeds_program_iff]
  · cases hp

end Pattern
end RowSql
