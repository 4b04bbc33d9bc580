import RowSql.Function
import RowSql.Proofs.Text.Parts
/-!
# Pieces — taking a text apart and putting it together

The pieces of a text between the occurrences of a separator are asked for one by one (`splitIndexOf_eq`).  Put
together again they make up the text, in both ways in which texts are joined, by arguments and by an array,
which are one (`joinOf_eq`).
-/
namespace RowSql
namespace TextFunction

/-- **The pieces of a text** between the occurrences of a separator. -/
def piecesOf (separator s : String) : List String := (Text.split separator.toList s.toList).map String.ofList

theorem piecesOf_ne_nil (separator s : String) : piecesOf separator s ≠ [] := by
  unfold piecesOf
  rw [ne_eq, List.map_eq_nil_iff]
  exact Text.splitFrom_ne_nil _ _ _

variable {separator : String}

theorem toList_ne_nil (h : separator ≠ "") : separator.toList ≠ [] := by
  intro hnil
  exact h (String.toList_eq_nil_iff.1 hnil)

theorem splitIndexOf_eq (h : separator ≠ "") (s : String) (i : Whole) :
    splitIndexOf (.text s) (.text separator) (.int i) =
      if i.toInt < 0 then .null else .ofText? (piecesOf separator s)[i.toInt.toNat]? := by
  have hempty : separator.isEmpty = false := by
    rw [← Bool.not_eq_true, String.isEmpty_iff]
    exact h
  unfold splitIndexOf piecesOf
  simp only [Value.toText?_text, Value.toWhole?_int, hempty, Bool.false_or, decide_eq_true_eq, List.getElem?_map]

/-- **No piece contains the separator.** -/
theorem not_infix_of_mem_piecesOf (h : separator ≠ "") {s p : String} (hp : p ∈ piecesOf separator s) :
    ¬ separator.toList <:+: p.toList := by
  obtain ⟨cs, hcs, rfl⟩ := List.mem_map.1 hp
  rw [String.toList_ofList]
  exact Text.not_infix_of_mem_split (toList_ne_nil h) hcs

/-- **The pieces make up the text.** -/
theorem intercalate_piecesOf (h : separator ≠ "") (s : String) :
    String.intercalate separator (piecesOf separator s) = s := by
  have hlists : (piecesOf separator s).map String.toList = Text.split separator.toList s.toList := by
    unfold piecesOf
    rw [List.map_map]
    exact List.map_id'' (fun cs => String.toList_ofList) _
  rw [← String.toList_inj, String.toList_intercalate, hlists, ← Text.join_eq_intercalate,
    Text.join_split (toList_ne_nil h)]

end TextFunction

namespace ArrayFunction

/-- **Joining an array** joins the texts of its elements that are there. -/
theorem joinOf_eq (items : List Value) (delimiter : String) :
    joinOf items delimiter none =
      String.intercalate delimiter ((items.filter fun v => !v.isNull).map Value.render) := by
  have hparts : (items.filterMap fun v => if v.isNull then none else some v.render) =
      (items.filter fun v => !v.isNull).map Value.render := by
    rw [← List.filterMap_eq_map, List.filterMap_filter]
    refine congrArg (List.filterMap · items) (funext fun v => ?_)
    cases v.isNull <;> rfl
  unfold joinOf
  rw [hparts]

end ArrayFunction

namespace Function

open TextFunction (piecesOf)

theorem apply_join (context : Context) (items : List Value) (separator : Value) :
    (Function.array .join).apply context [.array items, separator] =
      (Function.text .concatWith).apply context (separator :: items) := by
  have hjoin : (Function.array .join).apply context [.array items, separator] =
      .ok (ArrayFunction.apply .join [.array items, separator]) := rfl
  have hconcat : (Function.text .concatWith).apply context (separator :: items) =
      .ok (TextFunction.apply .concatWith (separator :: items)) := rfl
  rw [hjoin, hconcat, ArrayFunction.apply, TextFunction.apply]
  cases separator.toText? with
  | none => rfl
  | some d =>
    have hnone : ([] : List Value).head?.bind Value.toText? = none := rfl
    dsimp only
    rw [hnone, ArrayFunction.joinOf_eq]

theorem apply_concatWith_texts (context : Context) (separator : String) (pieces : List String) :
    (Function.text .concatWith).apply context (.text separator :: pieces.map Value.text) =
      .ok (.text (String.intercalate separator pieces)) := by
  have hpresent : (pieces.map Value.text).filter (fun v => !v.isNull) = pieces.map Value.text := by
    refine List.filter_eq_self.2 fun v hv => ?_
    obtain ⟨p, -, rfl⟩ := List.mem_map.1 hv
    rfl
  have hrender : (pieces.map Value.text).map Value.render = pieces := by
    rw [List.map_map]
    exact List.map_id'' (fun _ => rfl) _
  have happly : (Function.text .concatWith).apply context (.text separator :: pieces.map Value.text) =
      .ok (.text (String.intercalate separator
        (((pieces.map Value.text).filter fun v => !v.isNull).map Value.render))) := rfl
  rw [happly, hpresent, hrender]

/-- **Joining undoes splitting.**  For a separator that is not empty, a text has pieces, at least one: the
function that splits gives each of them at its index, and nothing at any other word.  None contains the
separator, and joined by it, as arguments or as an array, they make up the text.  Joining an array is joining
its elements as arguments, whatever they and the separator are. -/
theorem join_undoes_split (context : Context) :
    (∀ s separator : String, separator ≠ "" → ∃ pieces : List String, pieces ≠ [] ∧
      (∀ (i : Whole) (n : Nat) (p : String), i.toInt = n → pieces[n]? = some p →
        (Function.text .splitIndex).apply context [.text s, .text separator, .int i] = .ok (.text p)) ∧
      (∀ i : Whole, ¬ (0 ≤ i.toInt ∧ i.toInt < pieces.length) →
        (Function.text .splitIndex).apply context [.text s, .text separator, .int i] = .ok .null) ∧
      (∀ p ∈ pieces, ¬ separator.toList <:+: p.toList) ∧
      (Function.text .concatWith).apply context (.text separator :: pieces.map Value.text) = .ok (.text s) ∧
      ∃ a, (Function.array .build).apply context (pieces.map Value.text) = .ok a ∧
        (Function.array .join).apply context [a, .text separator] = .ok (.text s)) ∧
    ∀ (separator : Value) (values : List Value), ∃ a, (Function.array .build).apply context values = .ok a ∧
      (Function.array .join).apply context [a, separator] =
        (Function.text .concatWith).apply context (separator :: values) := by
  refine ⟨fun s separator h => ?_, fun separator values => ⟨.array values, rfl, apply_join context values separator⟩⟩
  have hsplit (i : Whole) : (Function.text .splitIndex).apply context [.text s, .text separator, .int i] =
      .ok (if i.toInt < 0 then .null else .ofText? (piecesOf separator s)[i.toInt.toNat]?) := by
    rw [← TextFunction.splitIndexOf_eq h]
    exact apply_of_present _ _ (by simp [Value.isNull]) rfl
  have hconcat : (Function.text .concatWith).apply context (.text separator :: (piecesOf separator s).map Value.text) =
      .ok (.text s) := by
    rw [apply_concatWith_texts, TextFunction.intercalate_piecesOf h]
  refine ⟨piecesOf separator s, TextFunction.piecesOf_ne_nil _ _, fun i n p hi hp => ?_, fun i hi => ?_,
    fun p hp => TextFunction.not_infix_of_mem_piecesOf h hp, hconcat, _, rfl, ?_⟩
  · have hn : i.toInt.toNat = n := by omega
    rw [hsplit, if_neg (by omega), hn, hp]
    rfl
  · rw [hsplit]
    by_cases hneg : i.toInt < 0
    · rw [if_pos hneg]
    · rw [if_neg hneg, List.getElem?_eq_none (by omega)]
      rfl
  · exact (apply_join context _ _).trans hconcat

/-- A separator that overlaps itself, at both ends of the text. -/
theorem join_undoes_split_overlapping :
    "aba" ≠ "" ∧ ∃ pieces : List String, ∃ p : String, (0 : Whole).toInt = (0 : Nat) ∧ pieces[0]? = some p ∧
      (Function.text .splitIndex).apply default [.text "ababaxaba", .text "aba", .int 0] = .ok (.text p) ∧
      ¬ (0 ≤ (-1 : Whole).toInt ∧ (-1 : Whole).toInt < pieces.length) ∧
      (Function.text .splitIndex).apply default [.text "ababaxaba", .text "aba", .int (-1)] = .ok .null ∧
      p ∈ pieces ∧ ¬ "aba".toList <:+: p.toList ∧
      (Function.text .concatWith).apply default (.text "aba" :: pieces.map Value.text) = .ok (.text "ababaxaba") := by
  have hne : "aba" ≠ "" := by decide
  have hbelow : (-1 : Whole).toInt = -1 := rfl
  obtain ⟨pieces, hpieces, hin, hout, hfree, hconcat, -⟩ := (join_undoes_split default).1 "ababaxaba" "aba" hne
  obtain ⟨p, ps, rfl⟩ := List.exists_cons_of_ne_nil hpieces
  have houtside : ¬ (0 ≤ (-1 : Whole).toInt ∧ (-1 : Whole).toInt < (p :: ps).length) := by
    rw [hbelow]
    omega
  exact ⟨hne, p :: ps, p, rfl, rfl, hin 0 0 p rfl rfl, houtside, hout (-1) houtside, List.mem_cons_self,
    hfree p List.mem_cons_self, hconcat⟩

example : piecesOf "aba" "ababaxaba" = ["", "bax", ""] := by decide

end Function
end RowSql
