import RowSql.Bytes.Streams
/-!
# Streams — what a step does to the cursors

A step acts on one cursor: the bytes and all other cursors stay as they are, and every position stays one of 64
bits (`step_lawful`, and `lawful_of_run` for the steps of any run).  What a cursor reads from some position on
is the bytes from there, in order, whatever the other cursors do in between (`flatten_readBy`), so positive
reads come to an empty one, and then all bytes were read.
-/
namespace RowSql

/-- The step can be asked for: a position to seek is a number of 64 bits. -/
def StreamStep.inRange : StreamStep → Bool
  | .seekStart n => n < positionLimit
  | _ => true

/-- The number of cursors that a step adds. -/
def StreamStep.added : StreamStep → Nat
  | .fresh => 1
  | .clone => 1
  | _ => 0

/-- The bytes of an answer. -/
def StreamAnswer.bytes? : StreamAnswer → Option (List UInt8)
  | .bytes bs => some bs
  | _ => none

namespace Streams

/-- **Steps that can be asked for**, where there are `count` cursors: each acts on a cursor that is there by then. -/
def playable : Nat → List (Nat × StreamStep) → Bool
  | _, [] => true
  | count, (cursor, st) :: rest => cursor < count && st.inRange && playable (count + st.added) rest

/-- A seek to a place, which is left where it was if the place is no position. -/
def Sought (s : Streams) (cursor : Nat) (place : Int) (a : StreamAnswer) (s' : Streams) : Prop :=
  if 0 ≤ place ∧ place < positionLimit then a = .count place.toNat ∧ (s'.position cursor : Int) = place
  else a = .badSeek ∧ s'.position cursor = s.position cursor

/-- **What a step does where it acts**, and what it gives. -/
def Acts (s : Streams) (cursor : Nat) (a : StreamAnswer) (s' : Streams) : StreamStep → Prop
  | .read n =>
    let stop := min (s.position cursor + n) s.bytes.length
    let bs := (s.bytes.take stop).drop (s.position cursor)
    a = .bytes bs ∧ s'.position cursor = s.position cursor + bs.length
  | .seekStart n => a = .count n ∧ s'.position cursor = n
  | .seekEnd d => Sought s cursor (s.bytes.length + d) a s'
  | .seekCurrent d => Sought s cursor (s.position cursor + d) a s'
  | .length => a = .count s.bytes.length ∧ s'.position cursor = s.position cursor
  | .fresh =>
    a = .cursor s.positions.length ∧ s'.position cursor = s.position cursor ∧ s'.position s.positions.length = 0
  | .clone =>
    a = .cursor s.positions.length ∧ s'.position cursor = s.position cursor ∧
      s'.position s.positions.length = s.position cursor

/-- **What a step does**, where it acts and elsewhere. -/
structure Lawful (s : Streams) (cursor : Nat) (st : StreamStep) (a : StreamAnswer) (s' : Streams) : Prop where
  bytes : s'.bytes = s.bytes
  acts : Acts s cursor a s' st
  others : ∀ i, i < s.positions.length → i ≠ cursor → s'.position i = s.position i
  count : s'.positions.length = s.positions.length + st.added
  inRange : ∀ p ∈ s'.positions, p < positionLimit

/-- The positions are of 64 bits, and so is the end. -/
structure InRange (s : Streams) : Prop where
  bytes : s.bytes.length < positionLimit
  positions : ∀ p ∈ s.positions, p < positionLimit

section

variable (s : Streams) (cursor position : Nat)

@[simp]
theorem moveTo_bytes : (s.moveTo cursor position).bytes = s.bytes := rfl

@[simp]
theorem moveTo_length : (s.moveTo cursor position).positions.length = s.positions.length := List.length_set

theorem moveTo_position (h : cursor < s.positions.length) : (s.moveTo cursor position).position cursor = position := by
  simp [moveTo, Streams.position, h]

theorem moveTo_position_of_ne {i : Nat} (h : i ≠ cursor) : (s.moveTo cursor position).position i = s.position i := by
  simp [moveTo, Streams.position, List.getElem?_set_ne h.symm]

theorem mem_moveTo {p : Nat} (h : p ∈ (s.moveTo cursor position).positions) : p = position ∨ p ∈ s.positions :=
  (List.mem_or_eq_of_mem_set h).symm

end

theorem position_mem {s : Streams} {cursor : Nat} (h : cursor < s.positions.length) :
    s.position cursor ∈ s.positions := by
  simp [position, h]

/-- A cursor that is moved, and nothing else. -/
theorem lawful_moveTo {s : Streams} (hs : s.InRange) {cursor position : Nat} {st : StreamStep} {a : StreamAnswer}
    (hadded : st.added = 0) (hposition : position < positionLimit)
    (hacts : Acts s cursor a (s.moveTo cursor position) st) :
    Lawful s cursor st a (s.moveTo cursor position) where
  bytes := rfl
  acts := hacts
  others := fun _ _ hne => moveTo_position_of_ne s cursor position hne
  count := by rw [moveTo_length, hadded, Nat.add_zero]
  inRange := by
    intro p hp
    rcases mem_moveTo s cursor position hp with rfl | hold
    · exact hposition
    · exact hs.positions p hold

/-- Nothing is moved. -/
theorem lawful_self {s : Streams} (hs : s.InRange) {cursor : Nat} {st : StreamStep} {a : StreamAnswer}
    (hadded : st.added = 0) (hacts : Acts s cursor a s st) : Lawful s cursor st a s where
  bytes := rfl
  acts := hacts
  others := fun _ _ _ => rfl
  count := by rw [hadded, Nat.add_zero]
  inRange := hs.positions

/-- One cursor more, at a position that is one. -/
theorem lawful_add {s : Streams} (hs : s.InRange) {cursor position : Nat} {st : StreamStep}
    (hcursor : cursor < s.positions.length) (hadded : st.added = 1) (hposition : position < positionLimit)
    (hacts : (s.add position).1.position cursor = s.position cursor →
      (s.add position).1.position s.positions.length = position →
      Acts s cursor (s.add position).2 (s.add position).1 st) :
    Lawful s cursor st (s.add position).2 (s.add position).1 := by
  have hold : ∀ i, i < s.positions.length → (s.add position).1.position i = s.position i := by
    intro i hi
    rw [Streams.position, Streams.position, add, List.getElem?_append_left hi]
  have hnew : (s.add position).1.position s.positions.length = position := by simp [add, Streams.position]
  refine ⟨rfl, hacts (hold cursor hcursor) hnew, fun i hi _ => hold i hi, ?_, ?_⟩
  · rw [hadded]
    exact List.length_append
  · intro p hp
    rcases List.mem_append.1 hp with h | h
    · exact hs.positions p h
    · rw [List.mem_singleton.1 h]
      exact hposition

/-- A seek moves the cursor to a place that is a position, and else fails and moves nothing. -/
theorem lawful_seekFrom {s : Streams} (hs : s.InRange) {cursor base : Nat} {offset : Int} {st : StreamStep}
    (hcursor : cursor < s.positions.length) (hadded : st.added = 0)
    (hacts : ∀ a s', Sought s cursor (base + offset) a s' → Acts s cursor a s' st) :
    Lawful s cursor st (s.seekFrom cursor base offset).2 (s.seekFrom cursor base offset).1 := by
  unfold seekFrom target?
  by_cases h : 0 ≤ (base : Int) + offset ∧ (base : Int) + offset < positionLimit
  · rw [if_pos h]
    refine lawful_moveTo hs hadded (by omega) (hacts _ _ ?_)
    rw [Sought, if_pos h, moveTo_position s cursor _ hcursor]
    exact ⟨rfl, Int.toNat_of_nonneg h.1⟩
  · rw [if_neg h]
    refine lawful_self hs hadded (hacts _ _ ?_)
    rw [Sought, if_neg h]
    exact ⟨rfl, rfl⟩

theorem bytesAt_eq (s : Streams) (position n : Nat) :
    s.bytesAt position n = (s.bytes.take (min (position + n) s.bytes.length)).drop position := by
  rw [bytesAt, List.take_drop, List.take_eq_take_min]

theorem length_bytesAt (s : Streams) (position n : Nat) :
    (s.bytesAt position n).length = min n (s.bytes.length - position) := by
  rw [bytesAt, List.length_take, List.length_drop]

/-- **One step**, of a cursor that is there. -/
theorem step_lawful {s : Streams} (hs : s.InRange) {cursor : Nat} (hcursor : cursor < s.positions.length)
    {st : StreamStep}
    (hst : st.inRange = true) : Lawful s cursor st (s.step cursor st).2 (s.step cursor st).1 := by
  have hp := hs.positions _ (position_mem hcursor)
  cases st with
  | read n =>
    have hbytes := hs.bytes
    have hlength := length_bytesAt s (s.position cursor) n
    refine lawful_moveTo hs rfl (by omega) ⟨?_, ?_⟩
    · rw [← bytesAt_eq]
      rfl
    · rw [moveTo_position s cursor _ hcursor, ← bytesAt_eq]
  | seekStart n => exact lawful_moveTo hs rfl (of_decide_eq_true hst) ⟨rfl, moveTo_position s cursor _ hcursor⟩
  | seekEnd d => exact lawful_seekFrom hs hcursor rfl fun _ _ h => h
  | seekCurrent d => exact lawful_seekFrom hs hcursor rfl fun _ _ h => h
  | length => exact lawful_self hs rfl ⟨rfl, rfl⟩
  | fresh => exact lawful_add hs hcursor rfl (by decide) fun hold hnew => ⟨rfl, hold, hnew⟩
  | clone => exact lawful_add hs hcursor rfl hp fun hold hnew => ⟨rfl, hold, hnew⟩

theorem Lawful.next {s s' : Streams} (hs : s.InRange) {cursor : Nat} {st : StreamStep} {a : StreamAnswer}
    (h : Lawful s cursor st a s') : s'.InRange := ⟨h.bytes ▸ hs.bytes, h.inRange⟩

/-! ## Runs -/

theorem run_cons (s : Streams) (cursor : Nat) (st : StreamStep) (rest : List (Nat × StreamStep)) :
    s.run ((cursor, st) :: rest) =
      (((s.step cursor st).1.run rest).1, (s.step cursor st).2 :: ((s.step cursor st).1.run rest).2) := rfl

theorem run_append (s : Streams) : ∀ before after : List (Nat × StreamStep),
    s.run (before ++ after) = (((s.run before).1.run after).1, (s.run before).2 ++ ((s.run before).1.run after).2)
  | [], after => rfl
  | (cursor, st) :: before, after => by
    rw [List.cons_append, run_cons, run_cons, run_append _ before after]
    rfl

theorem length_run (s : Streams) : ∀ steps : List (Nat × StreamStep), (s.run steps).2.length = steps.length
  | [] => rfl
  | (cursor, st) :: rest => by rw [run_cons, List.length_cons, length_run _ rest, List.length_cons]

/-- **After any steps** the bytes are what they were, the positions are in range, and what is left of the steps
can be asked for. -/
theorem run_playable {after : List (Nat × StreamStep)} : ∀ {before : List (Nat × StreamStep)} {s : Streams}, s.InRange →
    playable s.positions.length (before ++ after) = true →
    (s.run before).1.bytes = s.bytes ∧ (s.run before).1.InRange ∧
    playable (s.run before).1.positions.length after = true
  | [], s, hs, h => ⟨rfl, hs, h⟩
  | (cursor, st) :: before, s, hs, h => by
    rw [List.cons_append, playable, Bool.and_eq_true, Bool.and_eq_true, decide_eq_true_eq] at h
    obtain ⟨⟨hcursor, hst⟩, hrest⟩ := h
    have hstep := step_lawful hs hcursor hst
    rw [← hstep.count] at hrest
    obtain ⟨hbytes, hrun⟩ := run_playable (hstep.next hs) hrest
    exact ⟨hbytes.trans hstep.bytes, hrun⟩

theorem start_inRange {bytes : List UInt8} (h : bytes.length < positionLimit) : (start bytes).InRange := by
  refine ⟨h, fun p hp => ?_⟩
  rw [List.mem_singleton.1 hp]
  decide

/-! ## Reading in chunks -/

/-- **Some bytes in chunks**, each of which was asked for with a positive size. -/
inductive Chunks : List UInt8 → List (List UInt8) → Prop where
  | nil (bs : List UInt8) : Chunks bs []
  | cons {bs : List UInt8} {chunks : List (List UInt8)} (n : Nat) (hn : 0 < n) (h : Chunks (bs.drop n) chunks) :
      Chunks bs (bs.take n :: chunks)

theorem Chunks.flatten_isPrefix {bs : List UInt8} {chunks : List (List UInt8)} (h : Chunks bs chunks) :
    chunks.flatten <+: bs := by
  induction h with
  | nil bs => exact List.nil_prefix
  | @cons bs chunks n hn h ih =>
    rw [List.flatten_cons]
    conv => rhs; rw [← List.take_append_drop n bs]
    exact List.prefix_append_right_inj _ |>.2 ih

/-- An empty chunk comes after all bytes. -/
theorem Chunks.flatten_eq {bs : List UInt8} {chunks : List (List UInt8)} (h : Chunks bs chunks) (hempty : [] ∈ chunks) :
    chunks.flatten = bs := by
  induction h with
  | nil bs => cases hempty
  | @cons bs chunks n hn h ih =>
    rw [List.flatten_cons]
    by_cases hbs : bs = []
    · subst hbs
      have hrest := h.flatten_isPrefix
      rw [List.drop_nil, List.prefix_nil] at hrest
      rw [hrest, List.take_nil, List.append_nil]
    · have htake : bs.take n ≠ [] := by
        intro hnil
        rcases List.take_eq_nil_iff.1 hnil with h0 | h0
        · omega
        · exact hbs h0
      rw [ih ((List.mem_cons.1 hempty).resolve_left htake.symm), List.take_append_drop]

theorem Chunks.length_le {bs : List UInt8} {chunks : List (List UInt8)} (h : Chunks bs chunks) (hempty : [] ∉ chunks) :
    chunks.length ≤ bs.length := by
  induction h with
  | nil bs => exact Nat.zero_le _
  | @cons bs chunks n hn h ih =>
    rw [List.mem_cons, not_or] at hempty
    have hrest := ih hempty.2
    have hbs : bs ≠ [] := fun hnil => hempty.1 (by rw [hnil, List.take_nil])
    have hpos := List.length_pos_iff.2 hbs
    rw [List.length_drop] at hrest
    rw [List.length_cons]
    omega

/-- What one cursor read in some steps. -/
def readBy (cursor : Nat) (steps : List (Nat × StreamStep)) (answers : List StreamAnswer) : List (List UInt8) :=
  (steps.zip answers).filterMap fun p => if p.1.1 = cursor then p.2.bytes? else none

/-- **What a cursor reads in some steps is the bytes from its position on**, whatever the other cursors do in
between. -/
theorem chunks_readBy {cursor : Nat} : ∀ {steps : List (Nat × StreamStep)} {s : Streams}, s.InRange →
    cursor < s.positions.length → playable s.positions.length steps = true →
    (∀ step ∈ steps, step.1 = cursor → ∃ n, 0 < n ∧ step.2 = .read n) →
    Chunks (s.bytes.drop (s.position cursor)) (readBy cursor steps (s.run steps).2)
  | [], s, _, _, _, _ => .nil _
  | (c, st) :: steps, s, hs, hcursor, hsteps, hreads => by
    rw [playable, Bool.and_eq_true, Bool.and_eq_true, decide_eq_true_eq] at hsteps
    obtain ⟨⟨hc, hst⟩, hrest⟩ := hsteps
    have hstep := step_lawful hs hc hst
    rw [← hstep.count] at hrest
    have hmore : cursor < (s.step c st).1.positions.length := by
      rw [hstep.count]
      omega
    have ih := chunks_readBy (hstep.next hs) hmore hrest fun step hmem => hreads step (List.mem_cons_of_mem _ hmem)
    rw [hstep.bytes] at ih
    rw [run_cons]
    by_cases hmine : c = cursor
    · subst hmine
      obtain ⟨n, hn, rfl⟩ := hreads _ List.mem_cons_self rfl
      have hread : readBy c ((c, .read n) :: steps) ((s.step c (.read n)).2 :: ((s.step c (.read n)).1.run steps).2) =
          (s.bytes.drop (s.position c)).take n :: readBy c steps ((s.step c (.read n)).1.run steps).2 := by
        simp [readBy, step, StreamAnswer.bytes?, bytesAt]
      have hplace : s.bytes.drop ((s.step c (.read n)).1.position c) = (s.bytes.drop (s.position c)).drop n := by
        rw [hstep.acts.2, ← bytesAt_eq, length_bytesAt, List.drop_drop]
        rcases Nat.le_total n (s.bytes.length - s.position c) with hle | hle
        · rw [Nat.min_eq_left hle]
        · rw [Nat.min_eq_right hle, List.drop_eq_nil_of_le (by omega), List.drop_eq_nil_of_le (by omega)]
      rw [hread]
      exact .cons n hn (hplace ▸ ih)
    · rw [hstep.others cursor hcursor (Ne.symm hmine)] at ih
      have hskip : readBy cursor ((c, st) :: steps) ((s.step c st).2 :: ((s.step c st).1.run steps).2) =
          readBy cursor steps ((s.step c st).1.run steps).2 := by
        simp [readBy, hmine]
      rw [hskip]
      exact ih

/-- **Any number of cursors over one list of bytes.**  At every moment of a run the bytes are the given ones,
and the next step does what it does where it acts and nothing elsewhere.  A cursor at the start that reads with
positive sizes from then on, while other cursors do anything, comes to an empty read within one read more than
there are bytes; and once it came to one, it has read all bytes in order. -/
theorem run_lawful {bytes : List UInt8} {steps : List (Nat × StreamStep)} (hbytes : bytes.length < positionLimit)
    (hsteps : playable 1 steps = true) :
    (∀ before cursor st after, steps = before ++ (cursor, st) :: after →
      let s := ((start bytes).run before).1
      s.bytes = bytes ∧ cursor < s.positions.length ∧ Lawful s cursor st (s.step cursor st).2 (s.step cursor st).1 ∧
        ((start bytes).run steps).2[before.length]? = some (s.step cursor st).2) ∧
    ∀ before after cursor, steps = before ++ after →
      let s := ((start bytes).run before).1
      cursor < s.positions.length → s.position cursor = 0 →
      (∀ step ∈ after, step.1 = cursor → ∃ n, 0 < n ∧ step.2 = .read n) →
      let chunks := readBy cursor after (s.run after).2
      (bytes.length < chunks.length → [] ∈ chunks) ∧ ([] ∈ chunks → chunks.flatten = bytes) := by
  have hstart := start_inRange hbytes
  constructor
  · rintro before cursor st after rfl s
    obtain ⟨hsame, hs, hrest⟩ := run_playable hstart hsteps
    rw [playable, Bool.and_eq_true, Bool.and_eq_true, decide_eq_true_eq] at hrest
    refine ⟨hsame, hrest.1.1, step_lawful hs hrest.1.1 hrest.1.2, ?_⟩
    rw [run_append, List.getElem?_append_right (Nat.le_of_eq (length_run _ before)), length_run, Nat.sub_self]
    rfl
  · rintro before after cursor rfl s hcursor hposition hreads chunks
    obtain ⟨hsame, hs, hrest⟩ := run_playable hstart hsteps
    have hchunks : Chunks bytes chunks := by
      have h := chunks_readBy hs hcursor hrest hreads
      rwa [hsame, hposition, List.drop_zero] at h
    refine ⟨fun hmany => ?_, hchunks.flatten_eq⟩
    exact Decidable.byContradiction fun hempty => absurd (hchunks.length_le hempty) (by omega)

/-- Steps of three cursors, of which the last one reads. -/
def mixedSteps : List (Nat × StreamStep) :=
  [(0, .seekEnd 4), (0, .seekCurrent (-100)), (0, .clone), (1, .read 3), (1, .fresh), (2, .read 2), (0, .seekStart 1),
   (2, .read 9), (1, .seekCurrent (-9)), (2, .read 1)]

/-- A cursor beyond the end that is not moved, and five bytes in three reads between other steps. -/
theorem run_lawful_mixedSteps :
    playable 1 mixedSteps = true ∧
    (let s := ((start [1, 2, 3, 4, 5]).run (mixedSteps.take 1)).1
    s.position 0 = 9 ∧ Lawful s 0 (.seekCurrent (-100)) .badSeek s) ∧
    (let s := ((start [1, 2, 3, 4, 5]).run (mixedSteps.take 5)).1
    [] ∈ readBy 2 (mixedSteps.drop 5) (s.run (mixedSteps.drop 5)).2 ∧
      (readBy 2 (mixedSteps.drop 5) (s.run (mixedSteps.drop 5)).2).flatten = [1, 2, 3, 4, 5]) := by
  have hsteps : playable 1 mixedSteps = true := by decide
  obtain ⟨hstep, hchunks⟩ := @run_lawful [1, 2, 3, 4, 5] mixedSteps (by decide) hsteps
  obtain ⟨-, -, hlawful, -⟩ := hstep (mixedSteps.take 1) 0 (.seekCurrent (-100)) (mixedSteps.drop 2) rfl
  have hreads : ∀ step ∈ mixedSteps.drop 5, step.1 = 2 → ∃ n, 0 < n ∧ step.2 = .read n := by
    simp [mixedSteps]
  obtain ⟨-, hall⟩ := hchunks (mixedSteps.take 5) (mixedSteps.drop 5) 2 rfl (by decide) (by decide) hreads
  have hfails : ((start [1, 2, 3, 4, 5]).run (mixedSteps.take 1)).1.step 0 (.seekCurrent (-100)) =
      (((start [1, 2, 3, 4, 5]).run (mixedSteps.take 1)).1, .badSeek) := by decide
  rw [hfails] at hlawful
  have hempty : [] ∈ readBy 2 (mixedSteps.drop 5)
      (((start [1, 2, 3, 4, 5]).run (mixedSteps.take 5)).1.run (mixedSteps.drop 5)).2 := by decide
  exact ⟨hsteps, ⟨by decide, hlawful⟩, hempty, hall hempty⟩

end Streams
end RowSql
