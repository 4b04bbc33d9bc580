import RowSql.Expr.Eval
import RowSql.Proofs.Pattern.Like
/-!
# Like — comparisons with patterns

A comparison gives whether the text of the value is in the language of the pattern, which a negated one turns
around; a literal pattern, which is made ready beforehand, gives what a pattern of the same text that is
evaluated on the row does (`eval_like_eq_matches`).  A pattern that is too heavy is a fault in both cases
(`eval_like_heavy`).
-/
namespace RowSql
namespace Expr

variable {context : Context} {row : List Value} {e pattern : Expr} {v w : Value}

/-- A comparison of two values that are there compares their texts. -/
theorem eval_like_present (hv : eval context row e = .ok v) (hw : eval context row pattern = .ok w)
    (hvn : v.isNull = false) (hwn : w.isNull = false) (negated ignoreCase : Bool) :
    eval context row (.like e pattern negated ignoreCase) = v.like w negated ignoreCase := by
  rw [eval_like, hv, hw]
  simp [bind, Except.bind, Value.ifPresent, hvn, hwn]

theorem eval_like_literal (hv : eval context row e = .ok v) (hw : eval context row pattern = .ok w)
    (hvn : v.isNull = false) (hwn : w.isNull = false) (negated ignoreCase : Bool) :
    eval context row (.like e (.literal (.text w.render)) negated ignoreCase) =
      eval context row (.like e pattern negated ignoreCase) := by
  have hliteral : eval context row (.literal (.text w.render)) = .ok (.text w.render) := by rw [eval]
  rw [eval_like_present hv hw hvn hwn, eval_like_present hv hliteral hvn rfl, Value.like, Value.like]
  rfl

/-- **A comparison gives whether the text matches the pattern**, and a negated one whether it does not.  The
result is the same for a literal pattern, which does not wait for the row. -/
theorem eval_like_eq_matches (hv : eval context row e = .ok v) (hw : eval context row pattern = .ok w)
    (hvn : v.isNull = false)
    (hwn : w.isNull = false) (hweight : (Like.tree false w.render.toList).weight ≤ Pattern.weightLimit)
    (negated : Bool) :
    eval context row (.like e pattern negated false) =
        .ok (.bool (decide (Like.Matches w.render.toList v.render.toList) != negated)) ∧
      eval context row (.like e (.literal (.text w.render)) negated false) =
        eval context row (.like e pattern negated false) := by
  refine ⟨?_, eval_like_literal hv hw hvn hwn negated false⟩
  obtain ⟨p, hp⟩ := Option.isSome_iff_exists.1 ((Like.compile?_isSome_iff false w.render.toList).2 hweight)
  have hmatch : p.isMatch v.render.toList = decide (Like.Matches w.render.toList v.render.toList) := by
    rw [Bool.eq_iff_iff, decide_eq_true_iff]
    exact Like.isMatch_iff hp v.render.toList
  rw [eval_like_present hv hw hvn hwn, Value.like, hp, ← hmatch]
  rfl

/-- A computed pattern with a run, any character, a dot, an escaped percent sign and a backslash at the end. -/
theorem eval_like_eq_matches_computed :
    Like.Matches "%_b.\\%\\".toList "\n\nxb.%\\".toList ∧
      eval default [] (.like (.literal (.text "\n\nxb.%\\"))
        (.concat (.literal (.text "%_b")) (.literal (.text ".\\%\\"))) true false) = .ok (.bool false) := by
  have htext : eval default [] (.literal (.text "\n\nxb.%\\")) = .ok (.text "\n\nxb.%\\") := by rw [eval]
  have hpattern : eval default [] (.concat (.literal (.text "%_b")) (.literal (.text ".\\%\\"))) =
      .ok (.text "%_b.\\%\\") := by
    rw [eval, eval, eval]
    rfl
  have hmatches : Like.Matches "%_b.\\%\\".toList "\n\nxb.%\\".toList := by decide
  have hweight : (Like.tree false (Value.text "%_b.\\%\\").render.toList).weight ≤ Pattern.weightLimit := by
    rw [Value.render]
    exact Nat.le_trans (Like.weight_tree_le _) (by decide)
  have heval := (eval_like_eq_matches htext hpattern rfl rfl hweight true).1
  rw [Value.render, Value.render, decide_eq_true hmatches] at heval
  exact ⟨hmatches, heval⟩

/-- **A pattern that is too heavy is a fault**, which names it. -/
theorem eval_like_heavy (hv : eval context row e = .ok v) (hw : eval context row pattern = .ok w)
    (hvn : v.isNull = false)
    (hwn : w.isNull = false) {ignoreCase : Bool}
    (hweight : Pattern.weightLimit < (Like.tree ignoreCase w.render.toList).weight)
    (negated : Bool) : eval context row (.like e pattern negated ignoreCase) = .error (.badPattern w.render) := by
  have hnone : Like.compile? ignoreCase w.render.toList = none := by
    rw [← Option.not_isSome_iff_eq_none, Like.compile?_isSome_iff]
    exact Nat.not_le.2 hweight
  rw [eval_like_present hv hw hvn hwn, Value.like, hnone]

end Expr
end RowSql
