/-!
# Outcome — results of computations that may fail

A computation in steps succeeds when each of its steps does (`bind_eq_ok`).  Two computations agree when both
fail with the same fault or both succeed with related results, and computations in steps agree when their steps
do (`Agree.bind`).  Where only the kind of a fault counts, they agree by that kind (`AgreeBy`).
-/
namespace RowSql

/-- **Two steps that succeed are a first that succeeds and then a second that does.** -/
theorem bind_eq_ok {ε α β : Type} {x : Except ε α} {f : α → Except ε β} {b : β} :
    x >>= f = .ok b ↔ ∃ a, x = .ok a ∧ f a = .ok b := by
  cases x <;> simp [bind, Except.bind]

theorem bind_eq_error {ε α β : Type} {x : Except ε α} {f : α → Except ε β} {e : ε} :
    x >>= f = .error e ↔ x = .error e ∨ ∃ a, x = .ok a ∧ f a = .error e := by
  cases x <;> simp [bind, Except.bind]

theorem map_eq_ok {ε α β : Type} {x : Except ε α} {f : α → β} {b : β} : f <$> x = .ok b ↔ ∃ a, x = .ok a ∧ f a = b := by
  cases x <;> simp [Functor.map, Except.map]

theorem mapError_eq_ok {ε ε' α : Type} {x : Except ε α} {f : ε → ε'} {a : α} : x.mapError f = .ok a ↔ x = .ok a := by
  cases x with
  | error e => exact ⟨nofun, nofun⟩
  | ok b => exact ⟨fun | rfl => rfl, fun | rfl => rfl⟩

/-- **Two computations agree**: both fail with the same fault, or both succeed and their results are related. -/
def Agree {ε α β : Type} (R : α → β → Prop) : Except ε α → Except ε β → Prop
  | .ok a, .ok b => R a b
  | .error e, .error f => e = f
  | _, _ => False

/-- **Two computations agree by a kind of faults**: both fail with faults of one kind, or both succeed and their
results are related. -/
def AgreeBy {ε κ α β : Type} (kind : ε → κ) (R : α → β → Prop) : Except ε α → Except ε β → Prop
  | .ok a, .ok b => R a b
  | .error e, .error f => kind e = kind f
  | _, _ => False

variable {ε κ α β γ δ : Type} {kind : ε → κ} {R : α → β → Prop} {S : γ → δ → Prop}

namespace AgreeBy

/-- **Computations in two steps agree when the first steps do, and the second steps do on related results.** -/
theorem bind {x : Except ε α} {y : Except ε β} {f : α → Except ε γ} {g : β → Except ε δ} (h : AgreeBy kind R x y)
    (hk : ∀ a b, R a b → AgreeBy kind S (f a) (g b)) : AgreeBy kind S (x >>= f) (y >>= g) := by
  cases x with
  | error e => cases y with
    | error e' => exact h
    | ok b => exact h.elim
  | ok a => cases y with
    | error e' => exact h.elim
    | ok b => exact hk a b h

theorem map {x : Except ε α} {y : Except ε β} {f : α → γ} {g : β → δ} (h : AgreeBy kind R x y)
    (hk : ∀ a b, R a b → S (f a) (g b)) : AgreeBy kind S (x.map f) (y.map g) :=
  h.bind hk

theorem imp {T : α → β → Prop} {x : Except ε α} {y : Except ε β} (h : AgreeBy kind R x y)
    (hk : ∀ a b, y = .ok b → R a b → T a b) : AgreeBy kind T x y := by
  cases x with
  | error e => cases y with
    | error f => exact h
    | ok b => exact h.elim
  | ok a => cases y with
    | error f => exact h.elim
    | ok b => exact hk a b rfl h

theorem symm {x : Except ε α} {y : Except ε β} (h : AgreeBy kind R x y) : AgreeBy kind (flip R) y x := by
  cases x with
  | error e => cases y with
    | error f => exact Eq.symm h
    | ok b => exact h.elim
  | ok a => cases y with
    | error f => exact h.elim
    | ok b => exact h

theorem trans {T : β → γ → Prop} {U : α → γ → Prop} {x : Except ε α} {y : Except ε β} {z : Except ε γ}
    (hxy : AgreeBy kind R x y) (hyz : AgreeBy kind T y z) (h : ∀ a b c, R a b → T b c → U a c) :
    AgreeBy kind U x z := by
  cases x <;> cases y <;> cases z <;> first | exact hxy.elim | exact hyz.elim | skip
  · exact Eq.trans hxy hyz
  · exact h _ _ _ hxy hyz

end AgreeBy

namespace Agree

theorem iff_agreeBy_id {x : Except ε α} {y : Except ε β} : Agree R x y ↔ AgreeBy id R x y := by
  cases x <;> cases y <;> rfl

theorem error (e : ε) : Agree R (.error e) (.error e) := rfl

theorem refl {P : α → α → Prop} (h : ∀ a, P a a) (x : Except ε α) : Agree P x x := by
  cases x with
  | error e => exact error e
  | ok a => exact h a

theorem bind {x : Except ε α} {y : Except ε β} {f : α → Except ε γ} {g : β → Except ε δ} (h : Agree R x y)
    (hk : ∀ a b, R a b → Agree S (f a) (g b)) : Agree S (x >>= f) (y >>= g) :=
  iff_agreeBy_id.2 ((iff_agreeBy_id.1 h).bind fun a b hab => iff_agreeBy_id.1 (hk a b hab))

theorem by_kind (kind : ε → κ) {x : Except ε α} {y : Except ε β} (h : Agree R x y) : AgreeBy kind R x y := by
  cases x with
  | error e => cases y with
    | error f => exact congrArg kind h
    | ok b => exact h.elim
  | ok a => cases y with
    | error f => exact h.elim
    | ok b => exact h

end Agree
end RowSql
