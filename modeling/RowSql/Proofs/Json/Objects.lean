import RowSql.Json
/-!
# Objects — members in ascending order

`Json.insert` keeps the members of an object in ascending order (`ascending_insert`) and changes what is found
under one key only (`member?_insert`).  So members that are in order make up the object as they stand
(`ofPairs_eq`), and members in any order are found by their keys (`member?_ofPairs`).
-/
namespace RowSql
namespace Json

/-- **The keys of members are in ascending order**, each once. -/
def Ascending {α : Type} (members : List (String × α)) : Prop := members.Pairwise fun p q => p.1 < q.1

/-! ## One member -/

/-- A member behind all that are there is the last. -/
theorem insert_append (k : String) (v : Json) : ∀ {taken : List (String × Json)}, (∀ p ∈ taken, p.1 < k) →
    insert k v taken = taken ++ [(k, v)]
  | [], _ => rfl
  | (j, w) :: rest, h => by
    have hj : j < k := h (j, w) List.mem_cons_self
    have hne : (k == j) = false := beq_eq_false_iff_ne.2 fun he => String.lt_irrefl k (he ▸ hj)
    rw [insert, if_neg (String.lt_asymm hj), hne, insert_append k v fun p hp => h p (List.mem_cons_of_mem _ hp)]
    rfl

theorem mem_insert {k : String} {v : Json} {p : String × Json} : ∀ {ms : List (String × Json)}, p ∈ insert k v ms →
    p = (k, v) ∨ p ∈ ms
  | [], h => .inl (List.mem_singleton.1 h)
  | (j, w) :: rest, h => by
    rw [insert] at h
    split at h
    · exact (List.mem_cons.1 h).imp_right id
    split at h
    · exact (List.mem_cons.1 h).imp_right (List.mem_cons_of_mem _)
    · rcases List.mem_cons.1 h with rfl | h
      · exact .inr List.mem_cons_self
      · exact (mem_insert h).imp_right (List.mem_cons_of_mem _)

/-- **A member that is set keeps the order.** -/
theorem ascending_insert (k : String) (v : Json) :
    ∀ {ms : List (String × Json)}, Ascending ms → Ascending (insert k v ms)
  | [], _ => List.pairwise_singleton _ _
  | (j, w) :: rest, h => by
    obtain ⟨hj, hrest⟩ := List.pairwise_cons.1 h
    rw [insert]
    split
    · rename_i hk
      refine List.pairwise_cons.2 ⟨fun p hp => ?_, h⟩
      rcases List.mem_cons.1 hp with rfl | hp
      · exact hk
      · exact String.lt_trans hk (hj p hp)
    split
    · rename_i hk
      obtain rfl : k = j := by simpa using hk
      exact List.pairwise_cons.2 ⟨hj, hrest⟩
    · rename_i hnot hne
      have hk : j < k := Decidable.byContradiction fun hnot' =>
        hne (beq_iff_eq.2 (String.le_antisymm (String.not_lt.1 hnot') (String.not_lt.1 hnot)))
      refine List.pairwise_cons.2 ⟨fun p hp => ?_, ascending_insert k v hrest⟩
      rcases mem_insert hp with rfl | hp
      · exact hk
      · exact hj p hp

theorem member?_cons (name k : String) (v : Json) (ms : List (String × Json)) :
    member? name (.object ((k, v) :: ms)) = if k = name then some v else member? name (.object ms) := by
  simp only [member?, List.find?_cons]
  by_cases h : k = name
  · rw [if_pos h, beq_iff_eq.2 h]
    rfl
  · rw [if_neg h, beq_false_of_ne h]

/-- **Setting a member changes what is found under its key**, and nothing else. -/
theorem member?_insert (name k : String) (v : Json) : ∀ ms : List (String × Json),
    member? name (.object (insert k v ms)) = if k = name then some v else member? name (.object ms)
  | [] => member?_cons name k v []
  | (j, w) :: rest => by
    rw [insert]
    split
    · exact member?_cons name k v _
    split
    · rename_i hk
      obtain rfl : k = j := by simpa using hk
      rw [member?_cons, member?_cons]
      split <;> rfl
    · rename_i hne
      rw [member?_cons, member?_cons, member?_insert name k v rest]
      by_cases hj : j = name
      · have hk : k ≠ name := fun hk => hne (beq_iff_eq.2 (hk.trans hj.symm))
        rw [if_pos hj, if_neg hk, if_pos hj]
      · rw [if_neg hj, if_neg hj]

/-! ## Lists of members -/

theorem foldl_insert_of_ascending : ∀ (ms taken : List (String × Json)), Ascending (taken ++ ms) →
    ms.foldl (fun ms p => insert p.1 p.2 ms) taken = taken ++ ms
  | [], taken, _ => (List.append_nil taken).symm
  | (k, v) :: ms, taken, h => by
    have htaken : ∀ p ∈ taken, p.1 < k := fun p hp => (List.pairwise_append.1 h).2.2 p hp (k, v) List.mem_cons_self
    rw [← List.singleton_append, ← List.append_assoc] at h ⊢
    rw [List.foldl_append, List.foldl_cons, List.foldl_nil, insert_append k v htaken]
    exact foldl_insert_of_ascending ms _ h

/-- **Members in order make up the object as they stand.** -/
theorem ofPairs_eq {ms : List (String × Json)} (h : Ascending ms) : ofPairs ms = .object ms :=
  congrArg Json.object (foldl_insert_of_ascending ms [] h)

theorem foldl_insert_ascending : ∀ (pairs : List (String × Json)) {taken : List (String × Json)}, Ascending taken →
    Ascending (pairs.foldl (fun ms p => insert p.1 p.2 ms) taken)
  | [], _, h => h
  | p :: pairs, _, h => foldl_insert_ascending pairs (ascending_insert p.1 p.2 h)

theorem mem_foldl_insert {m : String × Json} : ∀ (pairs taken : List (String × Json)),
    m ∈ pairs.foldl (fun ms p => insert p.1 p.2 ms) taken → m ∈ taken ∨ m ∈ pairs
  | [], _, h => .inl h
  | p :: pairs, taken, h => by
    rcases mem_foldl_insert pairs _ h with h | h
    · rcases mem_insert h with rfl | h
      · exact .inr List.mem_cons_self
      · exact .inl h
    · exact .inr (List.mem_cons_of_mem _ h)

theorem member?_foldl_insert {name : String} {v : Json} : ∀ (pairs taken : List (String × Json)),
    (∀ p ∈ pairs, p.1 = name → p.2 = v) → ((∃ p ∈ pairs, p.1 = name) ∨ member? name (.object taken) = some v) →
    member? name (.object (pairs.foldl (fun ms p => insert p.1 p.2 ms) taken)) = some v
  | [], _, _, h => h.resolve_left nofun
  | p :: pairs, taken, hall, h => by
    refine member?_foldl_insert pairs (insert p.1 p.2 taken) (fun q hq => hall q (List.mem_cons_of_mem _ hq)) ?_
    rw [member?_insert]
    by_cases hp : p.1 = name
    · exact .inr (by rw [if_pos hp, hall p List.mem_cons_self hp])
    · rw [if_neg hp]
      refine h.imp_left fun ⟨q, hq, hname⟩ => ⟨q, ?_, hname⟩
      rcases List.mem_cons.1 hq with rfl | hq
      · exact absurd hname hp
      · exact hq

/-- An object of members in any order has them in order, and has no others. -/
theorem ofPairs_ascending (pairs : List (String × Json)) :
    ∃ ms, ofPairs pairs = .object ms ∧ Ascending ms ∧ ∀ m ∈ ms, m ∈ pairs :=
  ⟨_, rfl, foldl_insert_ascending pairs List.Pairwise.nil, fun _ hm =>
    (mem_foldl_insert pairs [] hm).resolve_left List.not_mem_nil⟩

/-- **A key of members that agree on it is found with its value**, whatever the order. -/
theorem member?_ofPairs {name : String} {v : Json} {pairs : List (String × Json)}
    (hall : ∀ p ∈ pairs, p.1 = name → p.2 = v) (hname : ∃ p ∈ pairs, p.1 = name) :
    member? name (ofPairs pairs) = some v :=
  member?_foldl_insert pairs [] hall (.inl hname)

end Json
end RowSql
