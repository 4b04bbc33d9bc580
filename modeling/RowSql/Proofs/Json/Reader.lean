import RowSql.Proofs.Json.Objects
import RowSql.Proofs.Json.Tokens
/-!
# Reader — documents that were written

A document without floats, whose objects are in ascending order of keys and whose whole numbers are of a 64-bit
range, is read back from its compact text if it nests no deeper than the reader goes (`parse_render`).  The
induction is on the document: a value is read wherever it stands, if what stands behind it can follow a value
(`Reads`), and the elements after the first one are read up to the closing bracket.
-/
namespace RowSql
namespace Json

/-! ## Documents that their text gives back -/

mutual

/-- **A document that its text gives back.** -/
def Exact : Json → Prop
  | .null => True
  | .bool _ => True
  | .int n => -9223372036854775808 ≤ n ∧ n < 18446744073709551616
  | .float _ => False
  | .text _ => True
  | .array items => ExactItems items
  | .object members => Ascending members ∧ ExactMembers members

def ExactItems : List Json → Prop
  | [] => True
  | j :: js => Exact j ∧ ExactItems js

def ExactMembers : List (String × Json) → Prop
  | [] => True
  | (_, j) :: ms => Exact j ∧ ExactMembers ms

end

mutual

/-- **How many levels of arrays and objects a document nests.** -/
def depth : Json → Nat
  | .array items => depthItems items + 1
  | .object members => depthMembers members + 1
  | _ => 0

def depthItems : List Json → Nat
  | [] => 0
  | j :: js => max (depth j) (depthItems js)

def depthMembers : List (String × Json) → Nat
  | [] => 0
  | (_, j) :: ms => max (depth j) (depthMembers ms)

end

/-! ## Reading wherever a value stands -/

/-- A character that begins a value: no blank, and no bracket that ends an array. -/
def Begins (ch : Char) : Prop := Cursor.isBlank ch = false ∧ (ch == ']') = false

instance (ch : Char) : Decidable (Begins ch) := inferInstanceAs (Decidable (_ ∧ _))

/-- **A reader reads a text as `a`**, wherever it stands before all that can follow a value. -/
structure Reads (read : Reader Json) (text : List Char) (a : Json) : Prop where
  begins : ∃ ch more, text = ch :: more ∧ Begins ch
  reads : ∀ (c : Cursor) (tail : List Char), Follows tail → c.rest = text ++ tail →
    ∃ c', read c = .ok (a, c') ∧ c'.rest = tail

variable {element : Reader Json} {text tail : List Char} {a : Json} {c : Cursor}

/-! ## Arrays -/

theorem items_close (fuel : Nat) (first : Bool) (taken : List Json) (h : c.rest = ']' :: tail) :
    ∃ c', items element (fuel + 1) first taken c = .ok (taken.reverse, c') ∧ c'.rest = tail := by
  refine ⟨c.skip ']' tail, ?_, Cursor.rest_skip _ _ _⟩
  rw [items, Cursor.skipBlanks_eq h rfl]
  simp [h]

theorem items_first (hread : Reads element text a) (fuel : Nat) (ht : Follows tail) (h : c.rest = text ++ tail) :
    ∃ c', items element (fuel + 1) true [] c = items element fuel false [a] c' ∧ c'.rest = tail := by
  obtain ⟨ch, more, rfl, hblank, hclose⟩ := hread.begins
  obtain ⟨c', hstep, htail⟩ := hread.reads c tail ht h
  refine ⟨c', ?_, htail⟩
  rw [items, Cursor.skipBlanks_eq h hblank]
  simp [h, hclose, hstep, bind, Except.bind]

theorem items_next (hread : Reads element text a) (fuel : Nat) (taken : List Json) (ht : Follows tail)
    (h : c.rest = ',' :: (text ++ tail)) :
    ∃ c', items element (fuel + 1) false taken c = items element fuel false (a :: taken) c' ∧ c'.rest = tail := by
  obtain ⟨ch, more, rfl, hblank, hclose⟩ := hread.begins
  have hafter : (c.skip ',' (ch :: more ++ tail)).rest = ch :: more ++ tail := Cursor.rest_skip _ _ _
  obtain ⟨c', hstep, htail⟩ := hread.reads _ tail ht hafter
  refine ⟨c', ?_, htail⟩
  rw [items, Cursor.skipBlanks_eq h rfl]
  simp only [h, bind, Except.bind]
  rw [Cursor.skipBlanks_eq hafter hblank, hstep]
  simp [hclose]

theorem follows_renderItems (vs : List Json) : Follows (renderItems vs ++ tail) := by
  cases vs with
  | nil => exact follows_cons (.inr (.inl rfl)) _
  | cons v vs => exact follows_cons (.inl rfl) _

theorem length_lt_renderItems : ∀ vs : List Json, vs.length < (renderItems vs).length
  | [] => by decide
  | v :: vs => by
    have := length_lt_renderItems vs
    simp only [renderItems, List.length_cons, List.length_append]
    omega

/-- **The elements after those taken are read up to the closing bracket.** -/
theorem items_renderItems : ∀ (vs : List Json) (fuel : Nat) (taken : List Json) {c : Cursor},
    (∀ v ∈ vs, Reads element v.render v) → vs.length < fuel → c.rest = renderItems vs ++ tail →
    ∃ c', items element fuel false taken c = .ok (taken.reverse ++ vs, c') ∧ c'.rest = tail
  | _, 0, _, _, _, hf, _ => absurd hf (Nat.not_lt_zero _)
  | [], fuel + 1, taken, c, _, _, h => by
    rw [List.append_nil]
    exact items_close fuel false taken h
  | v :: vs, fuel + 1, taken, c, hvs, hf, h => by
    have h' : c.rest = ',' :: (v.render ++ (renderItems vs ++ tail)) := by
      rw [h, renderItems, List.cons_append, List.append_assoc]
    obtain ⟨c', hstep, hc'⟩ := items_next (hvs v List.mem_cons_self) fuel taken (follows_renderItems vs) h'
    obtain ⟨c'', hread, htail⟩ := items_renderItems vs fuel (v :: taken)
      (fun w hw => hvs w (List.mem_cons_of_mem _ hw)) (Nat.lt_of_succ_lt_succ hf) hc'
    exact ⟨c'', by rw [hstep, hread, List.reverse_cons, List.append_assoc, List.singleton_append], htail⟩

/-! ## Objects -/

theorem memberAt_quote (hread : Reads element text a) {k : String} (ht : Follows tail)
    (h : c.rest = quote k ++ ':' :: (text ++ tail)) :
    ∃ c', memberAt element c = .ok ((k, a), c') ∧ c'.rest = tail := by
  have hkey : '"' :: (c.skip '"' c.rest.tail).rest = quote k ++ ':' :: (text ++ tail) := by
    rw [Cursor.rest_skip, h]
    rfl
  obtain ⟨c', hquoted, hcolon⟩ := quotedText_quote hkey
  obtain ⟨c'', hstep, htail⟩ := hread.reads (c'.skip ':' (text ++ tail)) tail ht (Cursor.rest_skip _ _ _)
  refine ⟨c'', ?_, htail⟩
  rw [memberAt, hquoted]
  simp only [bind, Except.bind]
  rw [Cursor.skipBlanks_eq hcolon rfl]
  simp [hcolon, hstep]

theorem members_close (fuel : Nat) (first : Bool) (taken : List (String × Json)) (h : c.rest = '\x7d' :: tail) :
    ∃ c', members element (fuel + 1) first taken c = .ok (taken, c') ∧ c'.rest = tail := by
  refine ⟨c.skip '\x7d' tail, ?_, Cursor.rest_skip _ _ _⟩
  rw [members, Cursor.skipBlanks_eq h rfl]
  simp [h]

theorem members_first (hread : Reads element text a) (fuel : Nat) {k : String} (ht : Follows tail)
    (h : c.rest = quote k ++ ':' :: (text ++ tail)) :
    ∃ c', members element (fuel + 1) true [] c = members element fuel false [(k, a)] c' ∧ c'.rest = tail := by
  obtain ⟨c', hstep, htail⟩ := memberAt_quote hread ht h
  have hquote : c.rest = '"' :: (k.toList.flatMap escapeChar ++ ['"'] ++ ':' :: (text ++ tail)) := h
  refine ⟨c', ?_, htail⟩
  rw [members, Cursor.skipBlanks_eq hquote rfl]
  simp [hquote, hstep, bind, Except.bind, insert]

theorem members_next (hread : Reads element text a) (fuel : Nat) {taken : List (String × Json)} {k : String}
    (htaken : ∀ p ∈ taken, p.1 < k) (ht : Follows tail) (h : c.rest = ',' :: (quote k ++ ':' :: (text ++ tail))) :
    ∃ c', members element (fuel + 1) false taken c = members element fuel false (taken ++ [(k, a)]) c' ∧
      c'.rest = tail := by
  have hafter : (c.skip ',' (quote k ++ ':' :: (text ++ tail))).rest = quote k ++ ':' :: (text ++ tail) :=
    Cursor.rest_skip _ _ _
  have hquote : (c.skip ',' (quote k ++ ':' :: (text ++ tail))).rest =
      '"' :: (k.toList.flatMap escapeChar ++ ['"'] ++ ':' :: (text ++ tail)) := hafter
  obtain ⟨c', hstep, htail⟩ := memberAt_quote hread ht hafter
  refine ⟨c', ?_, htail⟩
  rw [members, Cursor.skipBlanks_eq h rfl]
  simp only [h, bind, Except.bind]
  rw [Cursor.skipBlanks_eq hquote rfl, hquote]
  simp [hstep, insert_append k a htaken]

theorem follows_renderMembers (ms : List (String × Json)) : Follows (renderMembers ms ++ tail) := by
  cases ms with
  | nil => exact follows_cons (.inr (.inr rfl)) _
  | cons m ms => exact follows_cons (.inl rfl) _

theorem length_lt_renderMembers : ∀ ms : List (String × Json), ms.length < (renderMembers ms).length
  | [] => by decide
  | (k, v) :: ms => by
    have := length_lt_renderMembers ms
    simp only [renderMembers, List.length_cons, List.length_append]
    omega

/-- **The members after those taken are read up to the closing brace**, and keep their order. -/
theorem members_renderMembers : ∀ (ms : List (String × Json)) (fuel : Nat) (taken : List (String × Json)) {c : Cursor},
    Ascending (taken ++ ms) → (∀ m ∈ ms, Reads element m.2.render m.2) → ms.length < fuel →
    c.rest = renderMembers ms ++ tail →
    ∃ c', members element fuel false taken c = .ok (taken ++ ms, c') ∧ c'.rest = tail
  | _, 0, _, _, _, _, hf, _ => absurd hf (Nat.not_lt_zero _)
  | [], fuel + 1, taken, c, _, _, _, h => by
    rw [List.append_nil]
    exact members_close fuel false taken h
  | (k, v) :: ms, fuel + 1, taken, c, horder, hms, hf, h => by
    have htaken : ∀ p ∈ taken, p.1 < k := fun p hp =>
      (List.pairwise_append.1 horder).2.2 p hp (k, v) List.mem_cons_self
    -- the member goes behind those taken, where the order has room for it
    have h' : c.rest = ',' :: (quote k ++ ':' :: (v.render ++ (renderMembers ms ++ tail))) := by
      rw [h, renderMembers]
      simp only [List.cons_append, List.append_assoc]
    rw [← List.singleton_append, ← List.append_assoc] at horder ⊢
    obtain ⟨c', hstep, hc'⟩ := members_next (hms (k, v) List.mem_cons_self) fuel htaken (follows_renderMembers ms) h'
    obtain ⟨c'', hread, htail⟩ := members_renderMembers ms fuel (taken ++ [(k, v)]) horder
      (fun m hm => hms m (List.mem_cons_of_mem _ hm)) (Nat.lt_of_succ_lt_succ hf) hc'
    exact ⟨c'', hstep.trans hread, htail⟩

/-! ## Numbers -/

theorem digit_ne {d : Char} (hd : d.isDigit = true) : Begins d ∧ d ≠ 'n' ∧ d ≠ 't' ∧ d ≠ 'f' ∧ d ≠ '-' := by
  have hne : ∀ ch : Char, ch.isDigit = false → (d == ch) = false := fun ch hch =>
    beq_eq_false_iff_ne.2 fun he => by rw [he, hch] at hd; exact absurd hd (by decide)
  refine ⟨⟨?_, hne ']' rfl⟩, ?_⟩
  · simp only [Cursor.isBlank, hne ' ' rfl, hne '\n' rfl, hne '\t' rfl, hne '\r' rfl, Bool.or_self]
  · exact ⟨ne_of_beq_false (hne 'n' rfl), ne_of_beq_false (hne 't' rfl), ne_of_beq_false (hne 'f' rfl),
      ne_of_beq_false (hne '-' rfl)⟩

/-! ## Documents -/

/-- **A value that its first character announces** is read if `read` reads what stands behind the character. -/
theorem reads_of_first {depth : Nat} {ch : Char} {more : List Char} (read : Reader Json) (hch : Begins ch)
    (hvalue : ∀ (c : Cursor) (rest : List Char), c.skipBlanks = c → c.rest = ch :: rest →
      value depth c = read (c.skip ch rest))
    (hread : ∀ (c : Cursor) (tail : List Char), Follows tail → c.rest = more ++ tail →
      ∃ c', read c = .ok (a, c') ∧ c'.rest = tail) :
    Reads (value depth) (ch :: more) a := by
  refine ⟨⟨ch, more, rfl, hch⟩, fun c tail ht h => ?_⟩
  rw [hvalue c (more ++ tail) (Cursor.skipBlanks_eq h hch.1) h]
  exact hread _ tail ht (Cursor.rest_skip _ _ _)

theorem reads_word {depth : Nat} {ch : Char} {more : List Char} (hch : Begins ch)
    (hvalue : ∀ (c : Cursor) (rest : List Char), c.skipBlanks = c → c.rest = ch :: rest →
      value depth c = (word more (c.skip ch rest)).map (a, ·)) :
    Reads (value depth) (ch :: more) a := by
  refine reads_of_first (fun c => (word more c).map (a, ·)) hch hvalue fun c tail _ h => ?_
  obtain ⟨c', hword, htail⟩ := word_append h
  exact ⟨c', by rw [hword]; rfl, htail⟩

theorem reads_null (depth : Nat) : Reads (value depth) Json.null.render .null :=
  reads_word (by decide) fun c rest hblanks h => by
    unfold value
    rw [hblanks]
    simp only [h]
    rfl

theorem reads_bool (b : Bool) (depth : Nat) : Reads (value depth) (Json.bool b).render (.bool b) := by
  cases b
  all_goals
    refine reads_word (by decide) fun c rest hblanks h => ?_
    unfold value
    rw [hblanks]
    simp only [h]
    rfl

/-- **A whole number of the signed or the unsigned range is read back from its text.** -/
theorem reads_int {n : Int} (hn : (Json.int n).Exact) (depth : Nat) :
    Reads (value depth) (Json.int n).render (.int n) := by
  obtain ⟨hlow, hhigh⟩ := hn
  have hlimit : n.natAbs < significandLimit := by
    unfold significandLimit
    omega
  rw [render, Text.toList_toString]
  split
  · rename_i hsign
    obtain ⟨d, ds, hds⟩ : ∃ d ds, Nat.toDigits 10 n.natAbs = d :: ds :=
      List.exists_cons_of_ne_nil Nat.toDigits_ne_nil
    have hd : d.isDigit = true :=
      Nat.isDigit_of_mem_toDigits (by decide) (by decide) (hds ▸ List.mem_cons_self)
    have hvalue : (n.natAbs : Int) = n := Int.natAbs_of_nonneg hsign
    obtain ⟨hbegins, hnull, htrue, hfalse, hminus⟩ := digit_ne hd
    -- the reader looks at the first digit, and takes it again with the number
    refine ⟨⟨d, ds, hds, hbegins⟩, fun c tail ht h => ?_⟩
    obtain ⟨c', hread, htail⟩ := number_toDigits ht false nofun nofun hlimit h
    refine ⟨c', ?_, htail⟩
    rw [hds] at h
    unfold value
    rw [Cursor.skipBlanks_eq h hbegins.1]
    simp [h, hnull, htrue, hfalse, hminus, hd, hread, hvalue]
  · rename_i hsign
    have hpos : 0 < n.natAbs := by omega
    have hvalue : -(n.natAbs : Int) = n := by omega
    refine reads_of_first (number true) (by decide) (fun c rest hblanks h => ?_) fun c tail ht h => ?_
    · unfold value
      rw [hblanks]
      simp only [h]
      rfl
    · obtain ⟨c', hread, htail⟩ := number_toDigits ht true (fun _ => hpos) (fun _ => by omega) hlimit h
      exact ⟨c', by rw [hread, if_pos rfl, hvalue], htail⟩

theorem reads_text (s : String) (depth : Nat) : Reads (value depth) (Json.text s).render (.text s) := by
  refine reads_of_first (fun c => (quotedText c).map fun p => (.text p.1, p.2)) (by decide)
    (fun c rest hblanks h => ?_) fun c tail _ h => ?_
  · unfold value
    rw [hblanks]
    simp only [h]
    rfl
  · obtain ⟨c', hquoted, htail⟩ := quotedText_quote (congrArg ('"' :: ·) h : '"' :: c.rest = quote s ++ tail)
    exact ⟨c', by rw [hquoted]; rfl, htail⟩

theorem items_render {vs : List Json} (hvs : ∀ v ∈ vs, Reads element v.render v)
    (h : '[' :: c.rest = (Json.array vs).render ++ tail) :
    ∃ c', items element (c.rest.length + 1) true [] c = .ok (vs, c') ∧ c'.rest = tail := by
  cases vs with
  | nil => exact items_close _ true [] (List.cons.inj h).2
  | cons v vs =>
    have hrest : c.rest = v.render ++ (renderItems vs ++ tail) := by
      rw [render, List.cons_append, List.append_assoc] at h
      exact (List.cons.inj h).2
    have hfuel : vs.length < c.rest.length := by
      have := length_lt_renderItems vs
      rw [hrest]
      simp only [List.length_append]
      omega
    obtain ⟨c₁, hfirst, hc₁⟩ := items_first (hvs v List.mem_cons_self) c.rest.length (follows_renderItems vs) hrest
    obtain ⟨c', hmore, htail⟩ := items_renderItems vs _ [v] (fun w hw => hvs w (List.mem_cons_of_mem _ hw)) hfuel hc₁
    exact ⟨c', hfirst.trans hmore, htail⟩

theorem members_render {ms : List (String × Json)} (horder : Ascending ms)
    (hms : ∀ m ∈ ms, Reads element m.2.render m.2) (h : '\x7b' :: c.rest = (Json.object ms).render ++ tail) :
    ∃ c', members element (c.rest.length + 1) true [] c = .ok (ms, c') ∧ c'.rest = tail := by
  match ms with
  | [] => exact members_close _ true [] (List.cons.inj h).2
  | (k, v) :: ms =>
    have hrest : c.rest = quote k ++ ':' :: (v.render ++ (renderMembers ms ++ tail)) := by
      rw [render] at h
      simp only [List.cons_append, List.append_assoc] at h
      exact (List.cons.inj h).2
    have hfuel : ms.length < c.rest.length := by
      have := length_lt_renderMembers ms
      rw [hrest]
      simp only [List.length_append, List.length_cons]
      omega
    obtain ⟨c₁, hfirst, hc₁⟩ :=
      members_first (hms (k, v) List.mem_cons_self) c.rest.length (follows_renderMembers ms) hrest
    obtain ⟨c', hmore, htail⟩ :=
      members_renderMembers ms _ [(k, v)] horder (fun m hm => hms m (List.mem_cons_of_mem _ hm)) hfuel hc₁
    exact ⟨c', hfirst.trans hmore, htail⟩

/-- **An array whose elements are read is read**, one level up. -/
theorem reads_array {depth : Nat} {vs : List Json} (hvs : ∀ v ∈ vs, Reads (value depth) v.render v) :
    Reads (value (depth + 1)) (Json.array vs).render (.array vs) := by
  obtain ⟨more, hmore⟩ : ∃ more, (Json.array vs).render = '[' :: more := by cases vs <;> exact ⟨_, rfl⟩
  rw [hmore]
  refine reads_of_first
    (fun c => (items (value depth) (c.rest.length + 1) true [] c).map fun p => (.array p.1, p.2)) (by decide)
    (fun c rest hblanks h => ?_) fun c tail _ h => ?_
  · unfold value
    rw [hblanks]
    simp only [h, Cursor.rest_skip]
    rfl
  · obtain ⟨c', hread, htail⟩ := items_render hvs (by rw [hmore, h]; rfl)
    exact ⟨c', by rw [hread]; rfl, htail⟩

/-- **An object in ascending order whose values are read is read**, one level up. -/
theorem reads_object {depth : Nat} {ms : List (String × Json)} (horder : Ascending ms)
    (hms : ∀ m ∈ ms, Reads (value depth) m.2.render m.2) :
    Reads (value (depth + 1)) (Json.object ms).render (.object ms) := by
  obtain ⟨more, hmore⟩ : ∃ more, (Json.object ms).render = '\x7b' :: more := by
    match ms with
    | [] => exact ⟨_, rfl⟩
    | (k, v) :: ms => exact ⟨_, rfl⟩
  rw [hmore]
  refine reads_of_first
    (fun c => (members (value depth) (c.rest.length + 1) true [] c).map fun p => (.object p.1, p.2))
    (by decide) (fun c rest hblanks h => ?_) fun c tail _ h => ?_
  · unfold value
    rw [hblanks]
    simp only [h, Cursor.rest_skip]
    rfl
  · obtain ⟨c', hread, htail⟩ := members_render horder hms (by rw [hmore, h]; rfl)
    exact ⟨c', by rw [hread]; rfl, htail⟩

mutual

/-- **A document is read back from its compact text**, at any level that leaves it room. -/
theorem reads_render : ∀ (j : Json) (depth : Nat), j.Exact → j.depth ≤ depth → Reads (value depth) j.render j
  | .null, depth, _, _ => reads_null depth
  | .bool b, depth, _, _ => reads_bool b depth
  | .int _, depth, hj, _ => reads_int hj depth
  | .float _, _, hj, _ => absurd hj id
  | .text s, depth, _, _ => reads_text s depth
  | .array vs, depth + 1, hj, hd => reads_array (reads_items vs depth hj (Nat.le_of_succ_le_succ hd))
  | .object ms, depth + 1, hj, hd => reads_object hj.1 (reads_members ms depth hj.2 (Nat.le_of_succ_le_succ hd))

theorem reads_items : ∀ (vs : List Json) (depth : Nat), ExactItems vs → depthItems vs ≤ depth →
    ∀ v ∈ vs, Reads (value depth) v.render v
  | [], _, _, _ => nofun
  | j :: js, depth, ⟨hj, hjs⟩, hd => by
    rw [depthItems, Nat.max_le] at hd
    rintro v (_ | ⟨_, hv⟩)
    · exact reads_render j depth hj hd.1
    · exact reads_items js depth hjs hd.2 v hv

theorem reads_members : ∀ (ms : List (String × Json)) (depth : Nat), ExactMembers ms → depthMembers ms ≤ depth →
    ∀ m ∈ ms, Reads (value depth) m.2.render m.2
  | [], _, _, _ => nofun
  | (k, j) :: ms, depth, ⟨hj, hms⟩, hd => by
    rw [depthMembers, Nat.max_le] at hd
    rintro m (_ | ⟨_, hm⟩)
    · exact reads_render j depth hj hd.1
    · exact reads_members ms depth hms hd.2 m hm

end

/-- **A document is what its compact text spells**, if it nests no deeper than the reader goes. -/
theorem parse_render {j : Json} (hj : j.Exact) (hd : j.depth ≤ depthLimit) : parse j.render = .ok j := by
  obtain ⟨c', hread, hrest⟩ := (reads_render j depthLimit hj hd).reads (Cursor.start j.render) [] follows_nil
    (List.append_nil _).symm
  have hblanks : c'.skipBlanks.rest = [] := by
    unfold Cursor.skipBlanks
    rw [hrest]
    rfl
  simp [parse, hread, hblanks, bind, Except.bind]

end Json
end RowSql
