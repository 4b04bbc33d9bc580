import Mathlib.Data.List.Nodup
/-!
# Keys — entries under keys

Of entries whose keys are distinct, each is found under its key (`DistinctKeys.lookup_eq_some_iff`), whatever
their order.
-/
namespace RowSql

variable {α : Type} {entries : List (String × α)} {key : String} {v : α}

/-- **Each key stands once** among entries. -/
def DistinctKeys (entries : List (String × α)) : Prop := (entries.map Prod.fst).Nodup

instance (entries : List (String × α)) : Decidable (DistinctKeys entries) :=
  inferInstanceAs (Decidable (entries.map Prod.fst).Nodup)

theorem distinctKeys_cons {entry : String × α} :
    DistinctKeys (entry :: entries) ↔ (∀ w, (entry.1, w) ∉ entries) ∧ DistinctKeys entries := by
  simp [DistinctKeys]

theorem DistinctKeys.perm (h : DistinctKeys entries) {others : List (String × α)} (hperm : entries.Perm others) :
    DistinctKeys others := (hperm.map Prod.fst).nodup_iff.1 h

theorem DistinctKeys.reverse (h : DistinctKeys entries) : DistinctKeys entries.reverse :=
  h.perm entries.reverse_perm.symm

theorem DistinctKeys.lookup_eq_some_iff : ∀ {entries : List (String × α)}, DistinctKeys entries →
    (entries.lookup key = some v ↔ (key, v) ∈ entries)
  | [], _ => by simp
  | (k, w) :: entries, h => by
    obtain ⟨hk, hentries⟩ := distinctKeys_cons.1 h
    rw [List.lookup_cons, List.mem_cons, Prod.mk.injEq]
    by_cases hkey : key = k
    · subst hkey
      simp [hk v, eq_comm]
    · rw [beq_false_of_ne hkey]
      simp [hkey, hentries.lookup_eq_some_iff]

theorem lookup_eq_none_iff_forall : entries.lookup key = none ↔ ∀ w, (key, w) ∉ entries := by
  rw [List.lookup_eq_none_iff]
  constructor
  · intro h w hw
    simpa using h _ hw
  · rintro h ⟨k, w⟩ hw
    by_cases hk : key = k
    · subst hk
      exact absurd hw (h w)
    · simp [hk]

end RowSql
