import RowSql.Proofs.Expr.Operands
/-!
# Nulls — where nothing comes from and where it goes

In a tree of operators that all want their operands, a value at the root needs a value at every expression of the tree
(`present_of_within`); so nothing at one leaf leaves nothing, or a fault, at the root.
-/
namespace RowSql

/-- **A step that goes on had something to go on with.** -/
theorem Value.ifPresent_eq_ok {v w : Value} {rest : Eval Value} (hw : w.isNull = false)
    (h : v.ifPresent rest = .ok w) : v.isNull = false ∧ rest = .ok w := by
  unfold Value.ifPresent at h
  cases hv : v.isNull with
  | true =>
    rw [hv, if_pos rfl] at h
    cases h
    cases hw
  | false => exact ⟨rfl, by simpa [hv] using h⟩

namespace Expr

/-- **An operator that wants a value of each of its operands**, or a leaf. -/
def isStrictNode : Expr → Bool
  | .literal _ => true
  | .column _ _ => true
  | .param _ => true
  | .arith _ _ _ => true
  | .neg _ => true
  | .compare _ _ _ => true
  | .not _ => true
  | .between _ _ _ _ => true
  | .like _ _ _ _ => true
  | .concat _ _ => true
  | .cast _ _ => true
  | .call f _ => f.isStrict
  | _ => false

/-- **A tree of leaves under operators that all want their operands.** -/
def Strict (e : Expr) : Prop := ∀ x, Within x e → x.isStrictNode = true

theorem strict_of_operands {e : Expr} (hs : e.isStrictNode = true) (ha : ∀ a ∈ e.operands, Strict a) : Strict e := by
  rintro x (_ | ⟨hm, hx⟩)
  · exact hs
  · exact ha _ hm x hx

/-- The expression has a value, and it is there. -/
def Present (context : Context) (row : List Value) (e : Expr) : Prop :=
  ∃ v, e.eval context row = .ok v ∧ v.isNull = false

/-- **A function with the strict rule that has a value had all its arguments.** -/
theorem present_of_strict_call {f : Function} (hf : f.isStrict = true) {context : Context} {row : List Value}
    {args : List Expr} (h : Present context row (.call f args)) : ∀ a ∈ args, Present context row a := by
  obtain ⟨v, hv, hn⟩ := h
  have hc : f ≠ .choice := by rintro rfl; cases hf
  have hp : f ≠ .firstPresent := by rintro rfl; cases hf
  rw [eval_call hc hp] at hv
  obtain ⟨vs, hvs, hv⟩ := bind_eq_ok.1 hv
  have hall : ∀ w ∈ vs, w.isNull = false := by
    unfold Function.apply at hv
    rw [hf, Bool.true_and] at hv
    split at hv
    · cases hv; cases hn
    · rename_i hany
      intro w hw
      rw [Bool.not_eq_true, List.any_eq_false] at hany
      simpa using hany w hw
  intro a ha
  obtain ⟨i, hi, rfl⟩ := List.mem_iff_getElem.1 ha
  have hargs := (evalAll_eq_ok context row args vs).1 hvs
  have hlen := hargs.length_eq
  exact ⟨vs[i], hargs.get hi (by omega), hall _ (List.getElem_mem _)⟩

/-- **A step that wants a value and goes on to one had a value.** -/
theorem present_of_step {context : Context} {row : List Value} {e : Expr} {rest : Value → Eval Value} {w : Value}
    (hw : w.isNull = false) (h : (eval context row e >>= fun v => v.ifPresent (rest v)) = .ok w) :
    Present context row e ∧ ∃ v, rest v = .ok w := by
  obtain ⟨v, hv, h⟩ := bind_eq_ok.1 h
  obtain ⟨hn, hr⟩ := Value.ifPresent_eq_ok hw h
  exact ⟨⟨v, hv, hn⟩, v, hr⟩

/-- **An operator of two operands that wants both had both.** -/
theorem present_of_steps {context : Context} {row : List Value} {l r : Expr} {rest : Value → Value → Eval Value}
    {w : Value} (hw : w.isNull = false)
    (h : (eval context row l >>= fun a => a.ifPresent (eval context row r >>= fun b => b.ifPresent (rest a b))) =
      .ok w) :
    ∀ e ∈ [l, r], Present context row e := by
  obtain ⟨hl, a, h⟩ := present_of_step hw h
  obtain ⟨hr, -⟩ := present_of_step hw h
  simp [hl, hr]

/-- **An operator of one value that makes nothing of nothing had the value.** -/
theorem present_of_map {context : Context} {row : List Value} {e : Expr} {rest : Value → Eval Value}
    (hrest : rest .null = .ok .null) {w : Value} (hw : w.isNull = false) (h : eval context row e >>= rest = .ok w) :
    ∀ a ∈ [e], Present context row a := by
  obtain ⟨v, hv, h⟩ := bind_eq_ok.1 h
  have hn : v.isNull = false := by
    cases hn : v.isNull with
    | false => rfl
    | true =>
      rw [Value.eq_null_of_isNull hn, hrest] at h
      cases h
      cases hw
  intro a ha
  rw [List.mem_singleton] at ha
  exact ha ▸ ⟨v, hv, hn⟩

/-- **An operator that wants its operands and has a value had a value of each of them.** -/
theorem present_operands {context : Context} {row : List Value} {e : Expr} (hs : e.isStrictNode = true)
    (h : Present context row e) : ∀ a ∈ e.operands, Present context row a := by
  obtain ⟨v, hv, hn⟩ := h
  cases e with
  | call f args => exact present_of_strict_call hs ⟨v, hv, hn⟩
  | literal _ | column _ _ | param _ => intro a ha; cases ha
  | and _ _ | or _ _ | isNull _ _ | inList _ _ _ | caseWhen _ _ | caseOf _ _ _ => cases hs
  | arith _ l r | compare _ l r | concat l r =>
    rw [eval] at hv
    exact present_of_steps hn hv
  | like l r _ _ =>
    rw [eval_like] at hv
    exact present_of_steps hn hv
  | between e low high negated =>
    rw [eval] at hv
    obtain ⟨he, a, hv⟩ := present_of_step hn hv
    have hbounds := present_of_steps hn hv
    intro b hb
    rcases List.mem_cons.1 hb with rfl | hb
    · exact he
    · exact hbounds b hb
  | cast e type =>
    rw [eval] at hv
    obtain ⟨he, -⟩ := present_of_step hn hv
    intro a ha
    rw [operands, List.mem_singleton] at ha
    exact ha ▸ he
  | neg e =>
    rw [eval] at hv
    exact present_of_map (by rfl) hn hv
  | not e =>
    rw [eval] at hv
    exact present_of_map (by rfl) hn hv

/-- **In a tree of such operators, a value at the root needs a value at every expression of the tree.** -/
theorem present_of_within {context : Context} {row : List Value} {x e : Expr} (hx : Within x e) :
    Strict e → Present context row e → Present context row x := by
  induction hx with
  | self => exact fun _ h => h
  | operand ha hx ih =>
    intro hs h
    exact ih (fun y hy => hs y (.operand ha hy)) (present_operands (hs _ (.self _)) h _ ha)

/-- **Nothing anywhere in a tree is nothing at its root, unless there is a fault**, where the tree has literals,
columns and parameters as its leaves and only operators and functions over them that want all their operands.  A
leaf that has no value is such a place. -/
theorem eval_of_null_within {e : Expr} (hs : e.Strict) (context : Context) (row : List Value)
    (hn : ∃ x, Within x e ∧ x.eval context row = .ok .null) :
    e.eval context row = .ok .null ∨ ∃ fault, e.eval context row = .error fault := by
  obtain ⟨x, hx, hnull⟩ := hn
  cases he : e.eval context row with
  | error fault => exact .inr ⟨fault, rfl⟩
  | ok v =>
    refine .inl ?_
    cases hv : v.isNull with
    | true => rw [Value.eq_null_of_isNull hv]
    | false =>
      obtain ⟨w, hw, hp⟩ := present_of_within hx hs ⟨v, he, hv⟩
      rw [hnull] at hw
      cases hw
      cases hp

/-- The first column in upper case, and the region after it. -/
def nameAndRegion : Expr := .concat (.call (.text .upper) [.column 0 .text]) (.param "region")

theorem eval_of_null_within_nameAndRegion :
    nameAndRegion.Strict ∧ (Within (.param "region") nameAndRegion ∧
      eval ⟨default, []⟩ [.text "ada"] (.param "region") = .ok .null) ∧
    (nameAndRegion.eval ⟨default, []⟩ [.text "ada"] = .ok .null ∨
      ∃ fault, nameAndRegion.eval ⟨default, []⟩ [.text "ada"] = .error fault) := by
  have hleaf : ∀ e : Expr, e.isStrictNode = true → e.operands = [] → Strict e := fun e he ho =>
    strict_of_operands he (by rw [ho]; intro a ha; cases ha)
  have hupper : Strict (.call (.text .upper) [.column 0 .text]) := by
    refine strict_of_operands rfl fun a ha => ?_
    rw [operands, List.mem_singleton] at ha
    exact ha ▸ hleaf _ rfl rfl
  have hs : nameAndRegion.Strict := by
    refine strict_of_operands rfl fun a ha => ?_
    simp only [nameAndRegion, operands, List.mem_cons, List.not_mem_nil, or_false] at ha
    rcases ha with rfl | rfl
    · exact hupper
    · exact hleaf _ rfl rfl
  have hw : Within (.param "region") nameAndRegion := .operand (List.mem_cons_of_mem _ List.mem_cons_self) (.self _)
  exact ⟨hs, ⟨hw, rfl⟩, eval_of_null_within hs ⟨default, []⟩ [.text "ada"] ⟨_, hw, rfl⟩⟩

end Expr
end RowSql
