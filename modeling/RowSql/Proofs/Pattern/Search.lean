import RowSql.Pattern.Search
/-!
# Search — what a search finds

A thread is at a point, an address of the program with a place of the text, and an instruction moves it.  A
search succeeds exactly when moves lead from the first address, at one of the places where it starts, to an end
(`searchFrom_isSome_iff`).  One half holds as all threads are reached by moves.  For the other half a search
keeps an invariant (`Known`): from a point that was tried, moves lead to points that were tried or are threads,
and none of them is an end.  So when no thread is left, the points that were tried are closed under moves.  They
stay tried over the places where a search starts.
-/
namespace RowSql
namespace Pattern

/-- A relation a number of times in a row. -/
def Times {α : Type} (R : α → α → Prop) : Nat → α → α → Prop
  | 0, a, b => a = b
  | n + 1, a, c => ∃ b, R a b ∧ Times R n b c

theorem Times.append {α : Type} {R : α → α → Prop} :
    ∀ {m n : Nat} {a b c : α}, Times R m a b → Times R n b c → Times R (m + n) a c
  | 0, n, a, b, c, hab, hbc => by
    obtain rfl : a = b := hab
    rw [Nat.zero_add]
    exact hbc
  | m + 1, n, a, b, c, ⟨x, hax, hxb⟩, hbc => by
    rw [Nat.succ_add]
    exact ⟨x, hax, hxb.append hbc⟩

/-- An address of the program with a place of the text. -/
abbrev Point := Nat × Nat

def Thread.point (t : Thread) : Point := (t.address, t.place)

/-- The points that an instruction leads to. -/
def Instr.next (text : Array Char) (i : Instr) (x : Point) : List Point := (step text i ⟨x.1, x.2, []⟩).map Thread.point

/-- A condition holds at a place of a text. -/
def Look.holdsAt (text : Array Char) (l : Look) (asciiWords : Bool) (place : Nat) : Bool :=
  l.holds asciiWords (if place = 0 then none else text[place - 1]?) text[place]?

theorem step_look (text : Array Char) (l : Look) (asciiWords : Bool) (t : Thread) :
    step text (.look l asciiWords) t =
      if l.holdsAt text asciiWords t.place then [⟨t.address + 1, t.place, t.slots⟩] else [] := rfl

/-- What a thread remembers does not say where it goes. -/
theorem map_point_step (text : Array Char) (i : Instr) (t : Thread) :
    (step text i t).map Thread.point = i.next text t.point := by
  cases i with
  | take s =>
    simp only [Instr.next, step, Thread.point]
    cases text[t.place]? with
    | none => rfl
    | some c => by_cases hc : s.contains c = true <;> simp [hc, Thread.point]
  | look l asciiWords =>
    simp only [Instr.next, step_look, Thread.point]
    by_cases hl : l.holdsAt text asciiWords t.place = true <;> simp [hl, Thread.point]
  | save slot => rfl
  | split a b => rfl
  | jump d => rfl
  | done => rfl

namespace Instr

variable {text : Array Char} {x y : Point}

theorem mem_next_take {s : CharSet} :
    y ∈ next text (.take s) x ↔ ∃ c, text[x.2]? = some c ∧ s.contains c = true ∧ y = (x.1 + 1, x.2 + 1) := by
  simp only [next, step]
  cases text[x.2]? with
  | none => simp
  | some c => by_cases hc : s.contains c = true <;> simp [hc, Thread.point]

theorem mem_next_look {l : Look} {asciiWords : Bool} :
    y ∈ next text (.look l asciiWords) x ↔ l.holdsAt text asciiWords x.2 = true ∧ y = (x.1 + 1, x.2) := by
  simp only [next, step_look]
  by_cases hl : l.holdsAt text asciiWords x.2 = true <;> simp [hl, Thread.point]

theorem mem_next_save {slot : Nat} : y ∈ next text (.save slot) x ↔ y = (x.1 + 1, x.2) := by
  simp [next, step, Thread.point]

theorem mem_next_split {a b : Int} :
    y ∈ next text (.split a b) x ↔ y = ((x.1 + a).toNat, x.2) ∨ y = ((x.1 + b).toNat, x.2) := by
  simp [next, step, Thread.point]

theorem mem_next_jump {d : Int} : y ∈ next text (.jump d) x ↔ y = ((x.1 + d).toNat, x.2) := by
  simp [next, step, Thread.point]

theorem not_mem_next_done : y ∉ next text .done x := by simp [next, step]

theorem next_place_le {i : Instr} (hx : x.2 ≤ text.size) (hy : y ∈ i.next text x) : y.2 ≤ text.size := by
  cases i with
  | take s =>
    obtain ⟨c, hc, -, rfl⟩ := mem_next_take.1 hy
    exact (Array.getElem?_eq_some_iff.1 hc).1
  | look l asciiWords =>
    obtain ⟨-, rfl⟩ := mem_next_look.1 hy
    exact hx
  | save slot =>
    rw [mem_next_save.1 hy]
    exact hx
  | split a b => obtain rfl | rfl := mem_next_split.1 hy <;> exact hx
  | jump d =>
    rw [mem_next_jump.1 hy]
    exact hx
  | done => exact absurd hy not_mem_next_done

end Instr

theorem length_step_le (text : Array Char) (i : Instr) (t : Thread) : (step text i t).length ≤ 2 := by
  have hone : ∀ (holds : Bool) (u : Thread), (if holds then [u] else []).length ≤ 2 := by
    intro holds u
    cases holds <;> simp
  cases i with
  | take s =>
    simp only [step]
    split
    · exact hone _ _
    · exact Nat.zero_le 2
  | look l asciiWords => exact hone _ _
  | save slot => exact Nat.le_succ 1
  | split a b => exact Nat.le_refl 2
  | jump d => exact Nat.le_succ 1
  | done => exact Nat.zero_le 2

section

variable (program : Array Instr) (text : Array Char)

/-- An instruction of the program leads from a point to another. -/
def Moves (x y : Point) : Prop := ∃ i, program[x.1]? = some i ∧ y ∈ i.next text x

def Reaches (x y : Point) : Prop := ∃ n, Times (Moves program text) n x y

/-- Moves lead from a point to an end. -/
def Succeeds (x : Point) : Prop := ∃ y, Reaches program text x y ∧ program[y.1]? = some .done

end

variable {program : Array Instr} {text : Array Char}

theorem Succeeds.of_moves {x y : Point} (hxy : Moves program text x y) (hy : Succeeds program text y) :
    Succeeds program text x := by
  obtain ⟨z, ⟨n, hn⟩, hz⟩ := hy
  exact ⟨z, ⟨n + 1, y, hxy, hn⟩, hz⟩

theorem Moves.place_le {x y : Point} (hx : x.2 ≤ text.size) (hxy : Moves program text x y) : y.2 ≤ text.size := by
  obtain ⟨i, -, hy⟩ := hxy
  exact Instr.next_place_le hx hy

/-- The threads that a thread leads to; none where there is no instruction. -/
def follow (program : Array Instr) (text : Array Char) (t : Thread) : List Thread :=
  (program[t.address]?).elim [] fun i => step text i t

theorem moves_iff_follow {t : Thread} {y : Point} :
    Moves program text t.point y ↔ ∃ u ∈ follow program text t, u.point = y := by
  rw [follow, Moves]
  cases hi : program[t.address]? with
  | none => simp [Thread.point, hi]
  | some i =>
    rw [Option.elim_some, ← List.mem_map, map_point_step]
    simp [Thread.point, hi]

theorem length_follow_le (t : Thread) : (follow program text t).length ≤ 2 := by
  rw [follow]
  cases program[t.address]? with
  | none => exact Nat.zero_le 2
  | some i => exact length_step_le text i t

/-! ## What was tried -/

/-- The mark of a point is not fresh.  This is so too for a point that is outside of the program. -/
def Tried (text : Array Char) (seen : ByteArray) (x : Point) : Prop := seen[x.1 * (text.size + 1) + x.2]? ≠ some 0

/-- How many marks are fresh. -/
def fresh (seen : ByteArray) : Nat := seen.data.count 0

theorem getElem?_eq_data (b : ByteArray) (i : Nat) : b[i]? = b.data[i]? := rfl

theorem getElem?_set! (seen : ByteArray) (i j : Nat) (v : UInt8) :
    (seen.set! i v)[j]? = if i = j ∧ i < seen.size then some v else seen[j]? := by
  have hset : (seen.set! i v).data = seen.data.setIfInBounds i v := rfl
  rw [getElem?_eq_data, getElem?_eq_data, hset, Array.getElem?_setIfInBounds, ByteArray.size_data]
  by_cases hij : i = j
  · subst hij
    by_cases hi : i < seen.size <;> simp [hi]
  · simp [hij]

theorem fresh_set! {seen : ByteArray} {i : Nat} (h : seen[i]? = some 0) : fresh (seen.set! i 1) + 1 = fresh seen := by
  rw [getElem?_eq_data] at h
  obtain ⟨hi, hzero⟩ := Array.getElem?_eq_some_iff.1 h
  have hset : (seen.set! i 1).data = seen.data.set i 1 hi := by
    rw [ByteArray.set!, Array.set!_eq_setIfInBounds, Array.setIfInBounds, dif_pos hi]
  have hpos : 0 < seen.data.count 0 := Array.count_pos_iff.2 (Array.mem_of_getElem hzero)
  have hone : ((1 : UInt8) == 0) = false := by decide
  rw [fresh, fresh, hset, Array.count_set, hzero, hone, if_pos (beq_self_eq_true 0), if_neg Bool.false_ne_true]
  omega

theorem pair_inj {width : Nat} {x y : Point} (hx : x.2 < width) (hy : y.2 < width)
    (h : x.1 * width + x.2 = y.1 * width + y.2) : x = y := by
  have hplace : x.2 = y.2 := by
    have hmod : (x.1 * width + x.2) % width = (y.1 * width + y.2) % width := congrArg (· % width) h
    rwa [Nat.mul_add_mod', Nat.mul_add_mod', Nat.mod_eq_of_lt hx, Nat.mod_eq_of_lt hy] at hmod
  have haddress : x.1 = y.1 := by
    rw [hplace] at h
    exact Nat.eq_of_mul_eq_mul_right (Nat.zero_lt_of_lt hx) (Nat.add_right_cancel h)
  exact Prod.ext haddress hplace

/-- The mark that a thread leaves. -/
def mark (text : Array Char) (seen : ByteArray) (x : Point) : ByteArray := seen.set! (x.1 * (text.size + 1) + x.2) 1

theorem tried_mark (seen : ByteArray) {x y : Point} (hx : x.2 ≤ text.size) (hy : y.2 ≤ text.size) :
    Tried text (mark text seen x) y ↔ y = x ∨ Tried text seen y := by
  rw [Tried, mark, getElem?_set!]
  split
  · rename_i h
    have hyx : y = x := (pair_inj (Nat.lt_succ_of_le hx) (Nat.lt_succ_of_le hy) h.1).symm
    simp [hyx]
  · rename_i h
    constructor
    · exact Or.inr
    · rintro (rfl | hy)
      · have hout : ¬ y.1 * (text.size + 1) + y.2 < seen.size := fun hlt => h ⟨rfl, hlt⟩
        rw [getElem?_neg seen _ hout]
        exact fun h => by cases h
      · exact hy

section

variable {fuel : Nat} {t : Thread} {threads : List Thread} {seen : ByteArray}

theorem run_nil (program : Array Instr) (text : Array Char) (fuel : Nat) (seen : ByteArray) :
    run program text fuel [] seen = (none, seen) := by
  cases fuel <;> simp [run]

theorem run_tried (ht : Tried text seen t.point) :
    run program text (fuel + 1) (t :: threads) seen = run program text fuel threads seen := by
  rw [run]
  exact if_pos (bne_iff_ne.2 ht)

theorem run_done (ht : ¬ Tried text seen t.point) (hdone : program[t.address]? = some .done) :
    run program text (fuel + 1) (t :: threads) seen = (some t.slots, seen) := by
  rw [run, hdone]
  exact if_neg fun h => ht (bne_iff_ne.1 h)

theorem run_step (ht : ¬ Tried text seen t.point) (hdone : program[t.address]? ≠ some .done) :
    run program text (fuel + 1) (t :: threads) seen =
      run program text fuel (follow program text t ++ threads) (mark text seen t.point) := by
  have hfresh : ¬ (seen[t.address * (text.size + 1) + t.place]? != some 0) = true := fun h => ht (bne_iff_ne.1 h)
  rw [run, if_neg hfresh, follow]
  cases hi : program[t.address]? with
  | none => rfl
  | some i => cases i with
    | done => exact absurd hi hdone
    | _ => rfl

end

/-- **A search that succeeds has a thread from which moves lead to an end.** -/
theorem succeeds_of_run : ∀ {fuel : Nat} {threads : List Thread} {seen : ByteArray} {slots : Slots},
    (run program text fuel threads seen).1 = some slots → ∃ t ∈ threads, Succeeds program text t.point
  | 0, _, _, _, h => by
    rw [run] at h
    cases h
  | fuel + 1, [], _, _, h => by
    rw [run_nil] at h
    cases h
  | fuel + 1, t :: threads, seen, slots, h => by
    by_cases htried : Tried text seen t.point
    · rw [run_tried htried] at h
      obtain ⟨u, hu, hs⟩ := succeeds_of_run h
      exact ⟨u, List.mem_cons_of_mem t hu, hs⟩
    · by_cases hdone : program[t.address]? = some .done
      · exact ⟨t, List.mem_cons_self, t.point, ⟨0, rfl⟩, hdone⟩
      · rw [run_step htried hdone] at h
        obtain ⟨u, hu, hs⟩ := succeeds_of_run h
        rcases List.mem_append.1 hu with hnext | hrest
        · exact ⟨t, List.mem_cons_self, hs.of_moves (moves_iff_follow.2 ⟨u, hnext, rfl⟩)⟩
        · exact ⟨u, List.mem_cons_of_mem t hrest, hs⟩

/-- **What a search knows between two steps**: from a point that was tried, moves lead to points that were tried or are
threads, and none of them is an end. -/
structure Known (program : Array Instr) (text : Array Char) (threads : List Thread) (seen : ByteArray) : Prop where
  inText : ∀ t ∈ threads, t.point.2 ≤ text.size
  goesOn : ∀ x : Point, x.2 ≤ text.size → Tried text seen x → program[x.1]? ≠ some .done
  closed : ∀ x y : Point, x.2 ≤ text.size → Tried text seen x → Moves program text x y →
    Tried text seen y ∨ ∃ t ∈ threads, t.point = y

namespace Known

variable {t : Thread} {threads : List Thread} {seen : ByteArray}

/-- A thread at a point that was tried adds nothing. -/
theorem skip (h : Known program text (t :: threads) seen) (ht : Tried text seen t.point) :
    Known program text threads seen where
  inText u hu := h.inText u (List.mem_cons_of_mem t hu)
  goesOn := h.goesOn
  closed x y hx htried hmove := by
    rcases h.closed x y hx htried hmove with hy | ⟨u, hu, rfl⟩
    · exact Or.inl hy
    · rcases List.mem_cons.1 hu with rfl | hu
      · exact Or.inl ht
      · exact Or.inr ⟨u, hu, rfl⟩

/-- **A step keeps what a search knows**: the thread is marked, and what it leads to are threads. -/
theorem step (h : Known program text (t :: threads) seen) (hdone : program[t.address]? ≠ some .done) :
    Known program text (follow program text t ++ threads) (mark text seen t.point) where
  inText u hu := by
    have htext : t.point.2 ≤ text.size := h.inText t List.mem_cons_self
    rcases List.mem_append.1 hu with hnext | hrest
    · exact Moves.place_le htext (moves_iff_follow.2 ⟨u, hnext, rfl⟩)
    · exact h.inText u (List.mem_cons_of_mem t hrest)
  goesOn x hx htried := by
    rcases (tried_mark seen (h.inText t List.mem_cons_self) hx).1 htried with rfl | hseen
    · exact hdone
    · exact h.goesOn x hx hseen
  closed x y hx htried hmove := by
    have htext : t.point.2 ≤ text.size := h.inText t List.mem_cons_self
    have hmark := tried_mark seen htext (hmove.place_le hx)
    rcases (tried_mark seen htext hx).1 htried with rfl | hseen
    · obtain ⟨u, hu, rfl⟩ := moves_iff_follow.1 hmove
      exact Or.inr ⟨u, List.mem_append_left threads hu, rfl⟩
    · rcases h.closed x y hx hseen hmove with hseen | ⟨u, hu, rfl⟩
      · exact Or.inl (hmark.2 (Or.inr hseen))
      · rcases List.mem_cons.1 hu with rfl | hu
        · exact Or.inl (hmark.2 (Or.inl rfl))
        · exact Or.inr ⟨u, List.mem_append_right _ hu, rfl⟩

/-- Where no thread is left, moves lead from no point that was tried to an end. -/
theorem not_succeeds (h : Known program text [] seen) :
    ∀ {x : Point}, x.2 ≤ text.size → Tried text seen x → ¬ Succeeds program text x := by
  have hrun : ∀ (n : Nat) (x y : Point), x.2 ≤ text.size → Tried text seen x → Times (Moves program text) n x y →
      program[y.1]? ≠ some .done := by
    intro n
    induction n with
    | zero =>
      intro x y hx htried hxy
      obtain rfl : x = y := hxy
      exact h.goesOn x hx htried
    | succ n ih =>
      rintro x y hx htried ⟨z, hmove, hzy⟩
      rcases h.closed x z hx htried hmove with hseen | ⟨u, hu, -⟩
      · exact ih z y (hmove.place_le hx) hseen hzy
      · cases hu
  rintro x hx htried ⟨y, ⟨n, hn⟩, hdone⟩
  exact hrun n x y hx htried hn hdone

end Known

/-- **A search that fails has tried all its threads**, and then knows what it knew with no thread left. -/
theorem known_of_run : ∀ {fuel : Nat} {threads : List Thread} {seen : ByteArray}, Known program text threads seen →
    2 * fresh seen + threads.length < fuel → (run program text fuel threads seen).1 = none →
    Known program text [] (run program text fuel threads seen).2 ∧
      (∀ x : Point, x.2 ≤ text.size → (Tried text seen x ∨ ∃ t ∈ threads, t.point = x) →
        Tried text (run program text fuel threads seen).2 x)
  | 0, _, _, _, hfuel, _ => absurd hfuel (Nat.not_lt_zero _)
  | fuel + 1, [], seen, h, _, _ => by
    rw [run_nil]
    refine ⟨h, fun x _ hx => ?_⟩
    rcases hx with hx | ⟨t, ht, -⟩
    · exact hx
    · cases ht
  | fuel + 1, t :: threads, seen, h, hfuel, hnone => by
    rw [List.length_cons] at hfuel
    by_cases htried : Tried text seen t.point
    · rw [run_tried htried] at hnone ⊢
      obtain ⟨hknown, hall⟩ := known_of_run (h.skip htried) (by omega) hnone
      refine ⟨hknown, fun x hx hor => hall x hx ?_⟩
      rcases hor with hseen | ⟨u, hu, rfl⟩
      · exact Or.inl hseen
      · rcases List.mem_cons.1 hu with rfl | hu
        · exact Or.inl htried
        · exact Or.inr ⟨u, hu, rfl⟩
    · have hdone : program[t.address]? ≠ some .done := by
        intro hdone
        rw [run_done htried hdone] at hnone
        cases hnone
      rw [run_step htried hdone] at hnone ⊢
      have hmeasure : 2 * fresh (mark text seen t.point) + (follow program text t ++ threads).length < fuel := by
        have hfresh : fresh (mark text seen t.point) + 1 = fresh seen := fresh_set! (Classical.not_not.1 htried)
        have hlength : (follow program text t).length ≤ 2 := length_follow_le t
        rw [List.length_append]
        omega
      obtain ⟨hknown, hall⟩ := known_of_run (h.step hdone) hmeasure hnone
      refine ⟨hknown, fun x hx hor => hall x hx ?_⟩
      have hmark := tried_mark seen (h.inText t List.mem_cons_self) hx
      rcases hor with hseen | ⟨u, hu, rfl⟩
      · exact Or.inl (hmark.2 (Or.inr hseen))
      · rcases List.mem_cons.1 hu with rfl | hu
        · exact Or.inl (hmark.2 (Or.inl rfl))
        · exact Or.inr ⟨u, List.mem_append_right _ hu, rfl⟩

theorem Known.start {seen : ByteArray} (h : Known program text [] seen) {t : Thread} (ht : t.point.2 ≤ text.size) :
    Known program text [t] seen where
  inText u hu := by
    rw [List.mem_singleton.1 hu]
    exact ht
  goesOn := h.goesOn
  closed x y hx htried hmove := by
    rcases h.closed x y hx htried hmove with hy | ⟨u, hu, -⟩
    · exact Or.inl hy
    · cases hu

/-- Before a search nothing was tried, up to points outside of the program. -/
theorem known_replicate (program : Array Instr) (text : Array Char) :
    Known program text [] ⟨Array.replicate (program.size * (text.size + 1)) 0⟩ := by
  have hout : ∀ x : Point, x.2 ≤ text.size →
      Tried text ⟨Array.replicate (program.size * (text.size + 1)) 0⟩ x → program[x.1]? = none := by
    intro x hx htried
    refine Array.getElem?_eq_none (Nat.not_lt.1 fun hlt => htried ?_)
    have hle : (x.1 + 1) * (text.size + 1) ≤ program.size * (text.size + 1) := Nat.mul_le_mul_right _ hlt
    rw [Nat.add_mul] at hle
    have hpair : x.1 * (text.size + 1) + x.2 < program.size * (text.size + 1) := by omega
    rw [getElem?_eq_data, Array.getElem?_replicate, if_pos hpair]
  refine ⟨fun t ht => absurd ht List.not_mem_nil, fun x hx htried => ?_, fun x y hx htried hmove => ?_⟩
  · rw [hout x hx htried]
    exact fun h => by cases h
  · obtain ⟨i, hi, -⟩ := hmove
    rw [hout x hx htried] at hi
    cases hi

/-- **A search over some places succeeds exactly when moves lead from the first address, at one of them, to an end.** -/
theorem searchFrom_isSome_iff : ∀ {count place : Nat} {seen : ByteArray}, Known program text [] seen →
    place + count ≤ text.size + 1 →
    ((searchFrom program text count place seen).isSome = true ↔
      ∃ start, place ≤ start ∧ start < place + count ∧ Succeeds program text (0, start))
  | 0, place, seen, _, _ => by
    constructor
    · intro h
      cases h
    · rintro ⟨start, hle, hlt, -⟩
      exact absurd hlt (Nat.not_lt.2 hle)
  | count + 1, place, seen, h, hcount => by
    have hplace : place ≤ text.size := by omega
    rw [searchFrom]
    rcases hrun : run program text (2 * seen.size + 2) [⟨0, place, []⟩] seen with ⟨found, seen'⟩
    cases found with
    | some slots =>
      obtain ⟨t, ht, hs⟩ := succeeds_of_run (congrArg Prod.fst hrun)
      rw [List.mem_singleton.1 ht] at hs
      exact ⟨fun _ => ⟨place, Nat.le_refl place, by omega, hs⟩, fun _ => rfl⟩
    | none =>
      have hmeasure : 2 * fresh seen + [Thread.mk 0 place []].length < 2 * seen.size + 2 := by
        have hle : fresh seen ≤ seen.size := Array.count_le_size
        rw [List.length_singleton]
        omega
      obtain ⟨hknown, hall⟩ := known_of_run (h.start (t := ⟨0, place, []⟩) hplace) hmeasure (congrArg Prod.fst hrun)
      rw [hrun] at hknown hall
      have hfails : ¬ Succeeds program text (0, place) :=
        hknown.not_succeeds hplace (hall (0, place) hplace (Or.inr ⟨_, List.mem_singleton_self _, rfl⟩))
      rw [searchFrom_isSome_iff hknown (by omega)]
      constructor
      · rintro ⟨start, hle, hlt, hs⟩
        exact ⟨start, by omega, by omega, hs⟩
      · rintro ⟨start, hle, hlt, hs⟩
        have hne : start ≠ place := fun heq => hfails (heq ▸ hs)
        exact ⟨start, by omega, by omega, hs⟩

/-- **A text holds a match exactly when moves lead from the first address, at one of its places, to an end.** -/
theorem Compiled.isMatch_iff (p : Compiled) (text : List Char) :
    p.isMatch text = true ↔ ∃ start ≤ text.length, Succeeds p.program text.toArray (0, start) := by
  rw [Compiled.isMatch, Compiled.find?, searchFrom_isSome_iff (known_replicate p.program text.toArray) (by simp)]
  simp only [List.size_toArray, Nat.zero_le, true_and, Nat.sub_zero, Nat.zero_add, Nat.lt_succ_iff]

end Pattern
end RowSql
