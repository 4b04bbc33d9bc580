import RowSql.Function
import RowSql.Proofs.Value.Sameness
/-!
# ArraySets — arrays as sets in order

The loop behind the set operations keeps the elements that are not the same as one before them
(`distinctFrom_eq_zipIdx`).  Without floats sameness is an equivalence, and so the loop passes a filter that
same elements pass alike (`distinctFrom_filter`), and what was seen before it can be left out after it
(`distinctFrom_append_seen`).  The laws of the set operations are read off these two.
-/
namespace RowSql
namespace ArrayFunction

open Value (same FloatFreeItems)

/-- **The first occurrences**: the elements that none of the elements before them is the same as. -/
def firstOccurrences (items : List Value) : List Value :=
  (items.zipIdx.filter fun p => !has (items.take p.2) p.1).map Prod.fst

variable {seen vs : List Value} {v : Value}

theorem has_append (s t : List Value) (v : Value) : has (s ++ t) v = (has s v || has t v) := List.any_append

theorem has_singleton (w v : Value) : has [w] v = same w v := by rw [has, List.any_cons, List.any_nil, Bool.or_false]

/-! ## What the loop keeps -/

theorem distinctFrom_cons_of_has (h : has seen v = true) : distinctFrom seen (v :: vs) = distinctFrom seen vs :=
  if_pos h

theorem distinctFrom_cons_of_new (h : has seen v = false) :
    distinctFrom seen (v :: vs) = v :: distinctFrom (seen ++ [v]) vs := if_neg (Bool.eq_false_iff.1 h)

theorem distinctFrom_sublist : ∀ seen vs : List Value, (distinctFrom seen vs).Sublist vs
  | _, [] => List.Sublist.slnil
  | seen, v :: vs => by
    cases h : has seen v with
    | true =>
      rw [distinctFrom_cons_of_has h]
      exact (distinctFrom_sublist seen vs).cons v
    | false =>
      rw [distinctFrom_cons_of_new h]
      exact (distinctFrom_sublist (seen ++ [v]) vs).cons_cons v

theorem has_of_mem_distinctFrom : ∀ {vs seen : List Value}, v ∈ distinctFrom seen vs → has seen v = false
  | [], _, hv => by cases hv
  | w :: vs, seen, hv => by
    cases h : has seen w with
    | true =>
      rw [distinctFrom_cons_of_has h] at hv
      exact has_of_mem_distinctFrom hv
    | false =>
      rw [distinctFrom_cons_of_new h] at hv
      rcases List.mem_cons.1 hv with rfl | hrest
      · exact h
      · have hboth := has_of_mem_distinctFrom hrest
        rw [has_append, Bool.or_eq_false_iff] at hboth
        exact hboth.1

/-- No two elements that are kept are the same. -/
theorem distinctFrom_pairwise : ∀ seen vs : List Value, (distinctFrom seen vs).Pairwise fun v w => same v w = false
  | _, [] => List.Pairwise.nil
  | seen, v :: vs => by
    cases h : has seen v with
    | true =>
      rw [distinctFrom_cons_of_has h]
      exact distinctFrom_pairwise seen vs
    | false =>
      rw [distinctFrom_cons_of_new h]
      refine List.pairwise_cons.2 ⟨fun w hw => ?_, distinctFrom_pairwise (seen ++ [v]) vs⟩
      have hboth := has_of_mem_distinctFrom hw
      rw [has_append, has_singleton, Bool.or_eq_false_iff] at hboth
      exact hboth.2

theorem distinctFrom_append : ∀ seen a b : List Value,
    distinctFrom seen (a ++ b) = distinctFrom seen a ++ distinctFrom (seen ++ distinctFrom seen a) b
  | seen, [], b => by rw [distinctFrom, List.nil_append, List.nil_append, List.append_nil]
  | seen, v :: a, b => by
    rw [List.cons_append]
    cases h : has seen v with
    | true => rw [distinctFrom_cons_of_has h, distinctFrom_cons_of_has h, distinctFrom_append seen a b]
    | false =>
      rw [distinctFrom_cons_of_new h, distinctFrom_cons_of_new h, distinctFrom_append (seen ++ [v]) a b,
        List.cons_append, ← List.append_cons]

/-- The loop asks of what was seen only whether it has the elements to come. -/
theorem distinctFrom_congr : ∀ {vs s t : List Value}, (∀ v ∈ vs, has s v = has t v) →
    distinctFrom s vs = distinctFrom t vs
  | [], _, _, _ => rfl
  | v :: vs, s, t, h => by
    have hrest : ∀ w ∈ vs, has s w = has t w := fun w hw => h w (List.mem_cons_of_mem v hw)
    have hadded : ∀ w ∈ vs, has (s ++ [v]) w = has (t ++ [v]) w :=
      fun w hw => by rw [has_append, has_append, hrest w hw]
    rw [distinctFrom, distinctFrom, h v List.mem_cons_self, distinctFrom_congr hrest, distinctFrom_congr hadded]

theorem firsts_eq_nil_iff : ∀ {items : List Value}, firsts items = [] ↔ items = []
  | [] => Iff.rfl
  | v :: vs => by simp [firsts, distinctFrom, has]

/-! ## Without floats -/

theorem has_iff (hvs : FloatFreeItems vs) (hv : v.FloatFree) : has vs v = true ↔ v.content ∈ vs.map Value.content := by
  rw [has, List.any_eq_true, List.mem_map]
  exact exists_congr fun w => and_congr_right fun hw => Value.same_iff (Value.floatFreeItems_iff.1 hvs w hw) hv

theorem has_congr {w : Value} (hvs : FloatFreeItems vs) (hv : v.FloatFree) (hw : w.FloatFree)
    (h : v.content = w.content) :
    has vs v = has vs w := by
  rw [Bool.eq_iff_iff, has_iff hvs hv, has_iff hvs hw, h]

/-- What is the same as something that was seen need not be remembered. -/
theorem has_append_singleton {w : Value} (hseen : FloatFreeItems seen) (hv : v.FloatFree) (hw : w.FloatFree)
    (h : has seen v = true) : has (seen ++ [v]) w = has seen w := by
  have hsame : same v w = true → has seen w = true := fun hvw => by
    rwa [← has_congr hseen hv hw ((Value.same_iff hv hw).1 hvw)]
  rw [has_append, has_singleton, Bool.eq_iff_iff, Bool.or_eq_true]
  exact or_iff_left_of_imp hsame

theorem distinctFrom_append_singleton (hseen : FloatFreeItems seen) (hv : v.FloatFree) (hvs : FloatFreeItems vs)
    (h : has seen v = true) : distinctFrom (seen ++ [v]) vs = distinctFrom seen vs :=
  distinctFrom_congr fun w hw => has_append_singleton hseen hv (Value.floatFreeItems_iff.1 hvs w hw) h

/-- The loop loses nothing: what was there is the same as something that is kept. -/
theorem has_append_distinctFrom (hv : v.FloatFree) : ∀ {vs seen : List Value}, FloatFreeItems seen → FloatFreeItems vs →
    has (seen ++ distinctFrom seen vs) v = has (seen ++ vs) v
  | [], _, _, _ => rfl
  | w :: vs, seen, hseen, ⟨hw, hvs⟩ => by
    rw [List.append_cons seen w vs]
    cases h : has seen w with
    | true =>
      rw [distinctFrom_cons_of_has h, has_append (seen ++ [w]), has_append_singleton hseen hw hv h, ← has_append,
        has_append_distinctFrom hv hseen hvs]
    | false =>
      rw [distinctFrom_cons_of_new h, List.append_cons, has_append_distinctFrom hv (hseen.append hw.singleton) hvs]

theorem has_firsts (hv : v.FloatFree) (hvs : FloatFreeItems vs) : has (firsts vs) v = has vs v :=
  has_append_distinctFrom hv Value.floatFreeItems_nil hvs

/-- **What the loop keeps are first occurrences**, also behind what was before. -/
theorem distinctFrom_eq_zipIdx : ∀ {vs seen : List Value}, FloatFreeItems seen → FloatFreeItems vs →
    distinctFrom seen vs =
      ((vs.zipIdx seen.length).filter fun p => !has ((seen ++ vs).take p.2) p.1).map Prod.fst
  | [], _, _, _ => rfl
  | v :: vs, seen, hseen, ⟨hv, hvs⟩ => by
    -- The hypothesis is about all that stands before, so `v` joins it although the loop may leave it out.
    have hrest := distinctFrom_eq_zipIdx (hseen.append hv.singleton) hvs
    rw [List.length_append, List.length_singleton, List.append_assoc, List.singleton_append] at hrest
    rw [List.zipIdx_cons]
    cases h : has seen v with
    | true =>
      rw [distinctFrom_cons_of_has h, List.filter_cons_of_neg (by simp [h]), ← hrest,
        distinctFrom_append_singleton hseen hv hvs h]
    | false => rw [distinctFrom_cons_of_new h, List.filter_cons_of_pos (by simp [h]), List.map_cons, ← hrest]

theorem firsts_eq (hvs : FloatFreeItems vs) : firsts vs = firstOccurrences vs :=
  distinctFrom_eq_zipIdx Value.floatFreeItems_nil hvs

/-- **What was seen before the loop can be left out after it.** -/
theorem distinctFrom_append_seen {s : List Value} (hs : FloatFreeItems s) : ∀ {vs t : List Value}, FloatFreeItems t →
    FloatFreeItems vs → distinctFrom (s ++ t) vs = (distinctFrom t vs).filter fun v => !has s v
  | [], _, _, _ => rfl
  | v :: vs, t, ht, ⟨hv, hvs⟩ => by
    have hadded := distinctFrom_append_seen hs (ht.append hv.singleton) hvs
    rw [← List.append_assoc] at hadded
    have hhas : has (s ++ t) v = (has s v || has t v) := has_append s t v
    cases htv : has t v with
    | true =>
      rw [htv, Bool.or_true] at hhas
      rw [distinctFrom_cons_of_has htv, distinctFrom_cons_of_has hhas, distinctFrom_append_seen hs ht hvs]
    | false =>
      rw [htv, Bool.or_false] at hhas
      rw [distinctFrom_cons_of_new htv]
      cases hsv : has s v with
      | true =>
        -- Only the loop without `s` keeps `v` and remembers it; the filter drops it.
        rw [hsv] at hhas
        rw [distinctFrom_cons_of_has hhas, List.filter_cons_of_neg (by simp [hsv]), ← hadded,
          distinctFrom_append_singleton (hs.append ht) hv hvs hhas]
      | false =>
        rw [hsv] at hhas
        rw [distinctFrom_cons_of_new hhas, List.filter_cons_of_pos (by simp [hsv]), hadded]

/-- A filter **respects** sameness if same elements pass it alike. -/
def Respects (p : Value → Bool) : Prop := ∀ v w : Value, v.FloatFree → w.FloatFree → v.content = w.content → p v = p w

theorem respects_has (hvs : FloatFreeItems vs) : Respects (has vs) := fun _ _ => has_congr hvs

theorem Respects.not {p : Value → Bool} (hp : Respects p) : Respects fun v => !p v :=
  fun v w hv hw h => congrArg (!·) (hp v w hv hw h)

theorem has_filter {p : Value → Bool} (hp : Respects p) (hvs : FloatFreeItems vs) (hv : v.FloatFree)
    (hpv : p v = true) :
    has (vs.filter p) v = has vs v := by
  rw [has, has, List.any_filter, Bool.eq_iff_iff, List.any_eq_true, List.any_eq_true]
  refine exists_congr fun w => and_congr_right fun hw => ?_
  rw [Bool.and_eq_true]
  refine and_iff_right_of_imp fun hsame => ?_
  have hw := Value.floatFreeItems_iff.1 hvs w hw
  rw [hp w v hw hv ((Value.same_iff hw hv).1 hsame), hpv]

/-- **The loop passes a filter that same elements pass alike.** -/
theorem distinctFrom_filter {p : Value → Bool} (hp : Respects p) : ∀ {vs seen : List Value}, FloatFreeItems seen →
    FloatFreeItems vs → distinctFrom (seen.filter p) (vs.filter p) = (distinctFrom seen vs).filter p
  | [], _, _, _ => rfl
  | v :: vs, seen, hseen, ⟨hv, hvs⟩ => by
    have hskipped := distinctFrom_filter hp hseen hvs
    have hkept := distinctFrom_filter hp (hseen.append hv.singleton) hvs
    rw [List.filter_append] at hkept
    cases hpv : p v with
    | true =>
      have hhas := has_filter hp hseen hv hpv
      rw [List.filter_cons_of_pos hpv, List.filter_nil] at hkept
      rw [List.filter_cons_of_pos hpv]
      cases h : has seen v with
      | true => rw [distinctFrom_cons_of_has h, distinctFrom_cons_of_has (hhas.trans h), hskipped]
      | false =>
        rw [distinctFrom_cons_of_new h, distinctFrom_cons_of_new (hhas.trans h), List.filter_cons_of_pos hpv, hkept]
    | false =>
      have hdrop : ¬ p v = true := Bool.eq_false_iff.1 hpv
      rw [List.filter_cons_of_neg hdrop, List.filter_nil, List.append_nil] at hkept
      rw [List.filter_cons_of_neg hdrop]
      cases h : has seen v with
      | true => rw [distinctFrom_cons_of_has h, hskipped]
      | false => rw [distinctFrom_cons_of_new h, List.filter_cons_of_neg hdrop, hkept]

theorem firsts_filter {p : Value → Bool} (hp : Respects p) (hvs : FloatFreeItems vs) :
    firsts (vs.filter p) = (firsts vs).filter p :=
  distinctFrom_filter hp Value.floatFreeItems_nil hvs

/-! ## The laws -/

variable {a b : List Value}

theorem firsts_append (ha : FloatFreeItems a) (hb : FloatFreeItems b) :
    firsts (a ++ b) = firsts a ++ (firsts b).filter fun v => !has a v := by
  have hseen : distinctFrom (firsts a) b = distinctFrom a b :=
    distinctFrom_congr fun v hv => has_firsts (Value.floatFreeItems_iff.1 hb v hv) ha
  have hleft := distinctFrom_append_seen ha Value.floatFreeItems_nil hb
  rw [List.append_nil] at hleft
  rw [firsts, distinctFrom_append, List.nil_append]
  exact congrArg (firsts a ++ ·) (hseen.trans hleft)

theorem exceptOf_eq (ha : a ≠ []) (hb : b ≠ []) :
    exceptOf a b = if (firsts (a.filter fun v => !has b v)).isEmpty then .null
      else .array (firsts (a.filter fun v => !has b v)) := by
  cases a with
  | nil => exact absurd rfl ha
  | cons v a =>
    cases b with
    | nil => exact absurd rfl hb
    | cons w b => rfl

theorem exceptOf_eq_null_iff : exceptOf a b = .null ↔ a = [] ∨ b = [] ∨ ∀ v ∈ a, has b v = true := by
  by_cases ha : a = []
  · subst ha
    simp [exceptOf]
  by_cases hb : b = []
  · subst hb
    simp [exceptOf]
  rw [exceptOf_eq ha hb, or_iff_right ha, or_iff_right hb]
  split
  · rename_i hempty
    rw [List.isEmpty_iff, firsts_eq_nil_iff, List.filter_eq_nil_iff] at hempty
    simpa using hempty
  · rename_i hrest
    rw [List.isEmpty_iff, firsts_eq_nil_iff, List.filter_eq_nil_iff] at hrest
    simpa using hrest

end ArrayFunction

namespace Function

open ArrayFunction (has firsts firstOccurrences)

/-- **The laws of arrays as sets**, for arrays without floats.  The distinct elements are the first occurrences,
no two of them the same.  Each of them is either in the intersection or among the others, which are what the
difference gives where neither array is empty, nothing for none; both are in the order of the distinct elements.
The union is the distinct elements followed by the distinct ones of the second array that the first one has
not. -/
theorem array_set_laws {a b : List Value} (ha : (Value.array a).FloatFree) (hb : (Value.array b).FloatFree)
    (context : Context) :
    ∃ distinct distinct' both union except,
      (Function.array .distinct).apply context [.array a] = .ok (.array distinct) ∧
      (Function.array .distinct).apply context [.array b] = .ok (.array distinct') ∧
      (Function.array .intersect).apply context [.array a, .array b] = .ok (.array both) ∧
      (Function.array .union).apply context [.array a, .array b] = .ok (.array union) ∧
      (Function.array .except).apply context [.array a, .array b] = .ok except ∧
      distinct = firstOccurrences a ∧ distinct.Sublist a ∧ distinct.Pairwise (fun v w => v.same w = false) ∧
      both.Sublist distinct ∧ (∀ v ∈ distinct, v ∈ both ↔ has b v = true) ∧
      (a ≠ [] → b ≠ [] → ∃ others, (except = .array others ∨ except = .null ∧ others = []) ∧
        others.Sublist distinct ∧ ∀ v ∈ distinct, v ∈ both ↔ v ∉ others) ∧
      union = distinct ++ distinct'.filter (fun v => !has a v) ∧
      (except = .null ↔ a = [] ∨ b = [] ∨ ∀ v ∈ a, has b v = true) := by
  have hrespects := ArrayFunction.respects_has hb
  refine ⟨firsts a, firsts b, firsts (a.filter (has b)), firsts (a ++ b), ArrayFunction.exceptOf a b,
    apply_of_present _ _ (by simp) rfl, apply_of_present _ _ (by simp) rfl,
    apply_of_present _ _ (by simp) rfl, apply_of_present _ _ (by simp) rfl,
    apply_of_present _ _ (by simp) rfl, ArrayFunction.firsts_eq ha, ArrayFunction.distinctFrom_sublist [] a,
    ArrayFunction.distinctFrom_pairwise [] a, ?_, ?_, fun hnea hneb =>
      ⟨firsts (a.filter fun v => !has b v), ?_, ?_, ?_⟩,
    ArrayFunction.firsts_append ha hb, ArrayFunction.exceptOf_eq_null_iff⟩
  · rw [ArrayFunction.firsts_filter hrespects ha]
    exact List.filter_sublist
  · intro v hv
    rw [ArrayFunction.firsts_filter hrespects ha, List.mem_filter, and_iff_right hv]
  · rw [ArrayFunction.exceptOf_eq hnea hneb]
    split
    · rename_i hempty
      exact .inr ⟨rfl, List.isEmpty_iff.1 hempty⟩
    · exact .inl rfl
  · rw [ArrayFunction.firsts_filter hrespects.not ha]
    exact List.filter_sublist
  · intro v hv
    rw [ArrayFunction.firsts_filter hrespects ha, ArrayFunction.firsts_filter hrespects.not ha, List.mem_filter,
      List.mem_filter, and_iff_right hv, and_iff_right hv, Bool.not_eq_true', Bool.not_eq_false]

/-- One comes twice, as a word and as a decimal, and nothing and an inner array are in both arrays. -/
theorem array_set_laws_innerArray :
    (Value.array [.int 1, .null, .decimal ⟨10, 1⟩, .array [.int 2]]).FloatFree ∧
    (Value.array [.array [.decimal ⟨20, 1⟩], .null, .int 5]).FloatFree ∧
    ∃ distinct both others : List Value,
      (Function.array .distinct).apply default [.array [.int 1, .null, .decimal ⟨10, 1⟩, .array [.int 2]]] =
        .ok (.array distinct) ∧
      (∀ v ∈ distinct, v ∈ both ↔ has [.array [.decimal ⟨20, 1⟩], .null, .int 5] v = true) ∧
      both.Sublist distinct ∧ others.Sublist distinct ∧ ∀ v ∈ distinct, v ∈ both ↔ v ∉ others := by
  have ha : (Value.array [.int 1, .null, .decimal ⟨10, 1⟩, .array [.int 2]]).FloatFree :=
    ⟨trivial, trivial, trivial, ⟨trivial, trivial⟩, trivial⟩
  have hb : (Value.array [.array [.decimal ⟨20, 1⟩], .null, .int 5]).FloatFree :=
    ⟨⟨trivial, trivial⟩, trivial, trivial, trivial⟩
  obtain ⟨distinct, _, both, _, _, hdistinct, -, -, -, -, -, -, -, hboth, hin, hothers, -⟩ :=
    array_set_laws ha hb default
  obtain ⟨others, -, hsublist, hout⟩ := hothers (by simp) (by simp)
  exact ⟨ha, hb, distinct, both, others, hdistinct, hin, hboth, hsublist, hout⟩

example : ArrayFunction.exceptOf [.int 1, .null, .decimal ⟨10, 1⟩, .int 2, .int 1] [.decimal ⟨20, 1⟩] =
    .array [.int 1, .null] := by
  rfl

end Function
end RowSql
