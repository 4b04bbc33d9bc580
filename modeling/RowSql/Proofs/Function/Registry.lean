import RowSql.Function.Registry
/-!
# Registry — what is found after any registrations

The table of names is the list of the forms written out: every name that a form lists, with the position of the
form (`register_indexed` for one registration, `ofForms_eq` for any number of them).  So a search through the
table is one through the forms in the order of their registration (`named_indexed`), and the first form that has
the name and accepts the number of arguments is the one that is found (`resolve_foldl_register`).
-/
namespace RowSql

/-- The form lists a name that is this one up to the case of ASCII letters. -/
def Form.hasName {α : Type} (f : Form α) (name : String) : Bool :=
  f.names.any fun n => Text.sameIgnoringCase n.toList name.toList

theorem functionKey_beq (m n : String) :
    (functionKey m == functionKey n) = Text.sameIgnoringCase m.toList n.toList := by
  rw [Bool.eq_iff_iff, beq_iff_eq, Text.sameIgnoringCase, beq_iff_eq]
  exact String.ofList_inj

namespace Registry

variable {α : Type}

/-- The names of some forms with the positions of the forms. -/
def tableOf (forms : List (Form α)) : List (String × Nat) :=
  forms.zipIdx.flatMap fun p => p.1.names.map fun n => (functionKey n, p.2)

theorem lt_of_mem_tableOf {forms : List (Form α)} {entry : String × Nat} (h : entry ∈ tableOf forms) :
    entry.2 < forms.length := by
  obtain ⟨p, hp, hentry⟩ := List.mem_flatMap.1 h
  obtain ⟨n, -, rfl⟩ := List.mem_map.1 hentry
  exact List.snd_lt_of_mem_zipIdx hp

/-- The registry of some forms, its table written out. -/
def indexed (forms : List (Form α)) : Registry α := ⟨forms, tableOf forms, fun _ => lt_of_mem_tableOf⟩

/-- **One registration keeps the table that of the forms.** -/
theorem register_indexed (forms : List (Form α)) (f : Form α) :
    (indexed forms).register f = indexed (forms ++ [f]) := by
  have htable : tableOf (forms ++ [f]) = tableOf forms ++ f.names.map fun n => (functionKey n, forms.length) := by
    simp [tableOf, List.zipIdx_append]
  simp only [register, indexed, htable]

theorem foldl_register_indexed (before : List (Form α)) :
    ∀ calls : List (Form α), calls.foldl register (indexed before) = indexed (before ++ calls)
  | [] => by rw [List.foldl_nil, List.append_nil]
  | f :: calls => by
    rw [List.foldl_cons, register_indexed, foldl_register_indexed (before ++ [f]) calls, List.append_assoc,
      List.singleton_append]

/-- **After any registrations the table is that of the forms**, in the order of their registration. -/
theorem ofForms_eq (forms : List (Form α)) : ofForms forms = indexed forms := foldl_register_indexed [] forms

theorem named_eq_filterMap (r : Registry α) (name : String) :
    r.named name = r.table.filterMap fun entry => if entry.1 == functionKey name then r.forms[entry.2]? else none := by
  have hvalue : ∀ entry : { entry // entry ∈ r.table },
      (if entry.1.1 == functionKey name then some (r.forms.get ⟨entry.1.2, r.inRange entry.1 entry.2⟩) else none) =
        if entry.1.1 == functionKey name then r.forms[entry.1.2]? else none := by
    intro entry
    rw [List.getElem?_eq_getElem (r.inRange entry.1 entry.2), List.get_eq_getElem]
  rw [named, funext hvalue]
  conv => rhs; rw [← List.attach_map_subtype_val r.table, List.filterMap_map]
  rfl

/-- **The forms of a name stand in the order of their registration**, each once for every time that it lists the
name. -/
theorem named_indexed (forms : List (Form α)) (name : String) :
    (indexed forms).named name =
      forms.flatMap fun f => (f.names.filter fun n => Text.sameIgnoringCase n.toList name.toList).map fun _ => f := by
  have hplace : ∀ p ∈ forms.zipIdx,
      (p.1.names.map fun n => (functionKey n, p.2)).filterMap
          (fun entry => if entry.1 == functionKey name then forms[entry.2]? else none) =
        (p.1.names.filter fun n => Text.sameIgnoringCase n.toList name.toList).map fun _ => p.1 := by
    intro p hp
    rw [List.filterMap_map, ← List.filterMap_eq_map, ← List.filterMap_eq_filter, List.filterMap_filterMap]
    congr 1
    funext n
    rw [Function.comp_apply, functionKey_beq, List.mem_zipIdx_iff_getElem?.1 hp]
    by_cases hn : Text.sameIgnoringCase n.toList name.toList = true <;> simp [hn, Option.guard]
  calc (indexed forms).named name
    _ = forms.zipIdx.flatMap fun p =>
          (p.1.names.filter fun n => Text.sameIgnoringCase n.toList name.toList).map fun _ => p.1 := by
      have htable : (indexed forms).table =
        forms.zipIdx.flatMap fun p => p.1.names.map fun n => (functionKey n, p.2) := rfl
      rw [named_eq_filterMap, htable, List.filterMap_flatMap]
      rw [List.flatMap_def, List.flatMap_def]
      exact congrArg List.flatten (List.map_congr_left hplace)
    _ = _ := by
      conv => rhs; rw [← List.zipIdx_map_fst 0 forms, List.flatMap_map]

theorem find?_named (forms : List (Form α)) (name : String) (p : Form α → Bool) :
    ((indexed forms).named name).find? p = forms.find? fun f => f.hasName name && p f := by
  rw [named_indexed, List.find?_flatMap, ← List.findSome?_guard]
  congr 1
  funext f
  cases hp : p f with
  | false => simp [hp, Option.guard]
  | true =>
    cases hn : f.hasName name with
    | false =>
      have hnone : (f.names.filter fun n => Text.sameIgnoringCase n.toList name.toList) = [] :=
        List.filter_eq_nil_iff.2 (List.any_eq_false.1 hn)
      simp [hnone, hn, Option.guard]
    | true =>
      obtain ⟨n, hmem, hsame⟩ := List.any_eq_true.1 hn
      have hne : (f.names.filter fun n => Text.sameIgnoringCase n.toList name.toList) ≠ [] :=
        List.ne_nil_of_mem (List.mem_filter.2 ⟨hmem, hsame⟩)
      obtain ⟨m, rest, hcons⟩ := List.exists_cons_of_ne_nil hne
      simp [hcons, hn, hp, Option.guard]

theorem contains_indexed (forms : List (Form α)) (name : String) :
    (indexed forms).contains name = true ↔ ∃ f ∈ forms, f.hasName name = true := by
  rw [contains, List.any_eq_true]
  constructor
  · rintro ⟨entry, hmem, hkey⟩
    obtain ⟨p, hp, hentry⟩ := List.mem_flatMap.1 hmem
    obtain ⟨n, hn, rfl⟩ := List.mem_map.1 hentry
    rw [functionKey_beq] at hkey
    exact ⟨p.1, List.fst_mem_of_mem_zipIdx hp, List.any_eq_true.2 ⟨n, hn, hkey⟩⟩
  · rintro ⟨f, hf, hname⟩
    obtain ⟨n, hn, hsame⟩ := List.any_eq_true.1 hname
    obtain ⟨i, hi, rfl⟩ := List.mem_iff_getElem.1 hf
    have hp : (forms[i], i) ∈ forms.zipIdx := List.mem_zipIdx_iff_getElem?.2 (List.getElem?_eq_getElem hi)
    refine ⟨(functionKey n, i), List.mem_flatMap.2 ⟨_, hp, List.mem_map.2 ⟨n, hn, rfl⟩⟩, ?_⟩
    rwa [functionKey_beq]

theorem named_eq_nil_iff (forms : List (Form α)) (name : String) :
    (indexed forms).named name = [] ↔ ∀ f ∈ forms, f.hasName name = false := by
  rw [named_indexed, List.flatMap_eq_nil_iff]
  refine forall₂_congr fun f _ => ?_
  rw [List.map_eq_nil_iff, List.filter_eq_nil_iff, Form.hasName, List.any_eq_false]

/-- **What is found of a name**: a fault if no form has it, and else the first of its forms that accepts the
arguments. -/
theorem resolve_cases (forms : List (Form α)) (name : String) (count : Nat) :
    ((indexed forms).contains name = false ∧ (indexed forms).resolve name count = .error (.unknownFunction name)) ∨
    ((indexed forms).contains name = true ∧
      ((∃ f, (forms.find? fun f => f.hasName name && f.arity.accepts count) = some f ∧
        (indexed forms).resolve name count = .ok f.body) ∨
      ((forms.find? fun f => f.hasName name && f.arity.accepts count) = none ∧
        ∃ expected, (indexed forms).resolve name count = .error (.badArity (functionKey name) count expected)))) := by
  have hnil : (indexed forms).named name = [] ↔ (indexed forms).contains name = false := by
    rw [named_eq_nil_iff, ← Bool.not_eq_true, contains_indexed]
    simp
  rw [resolve]
  split
  · rename_i hnamed
    exact .inl ⟨hnil.1 hnamed, rfl⟩
  · rename_i hnamed
    refine .inr ⟨Bool.not_eq_false _ ▸ fun h => hnamed (hnil.2 h), ?_⟩
    rw [← find?_named]
    split
    · rename_i f hfind
      exact .inl ⟨f, hfind, rfl⟩
    · rename_i hfind
      exact .inr ⟨hfind, _, rfl⟩

/-- The first form that has a name and accepts some arguments, among all that were registered. -/
theorem find?_eq_some_iff {forms : List (Form α)} {name : String} {count : Nat} {f : Form α} :
    (forms.find? fun f => f.hasName name && f.arity.accepts count) = some f ↔
      ∃ before after, forms = before ++ f :: after ∧ f.hasName name = true ∧ f.arity.accepts count = true ∧
        ∀ g ∈ before, g.hasName name = true → g.arity.accepts count = false := by
  rw [List.find?_eq_some_iff_append, Bool.and_eq_true]
  constructor
  · rintro ⟨⟨hname, haccepts⟩, before, after, rfl, hbefore⟩
    refine ⟨before, after, rfl, hname, haccepts, fun g hg hgname => ?_⟩
    simpa [hgname] using hbefore g hg
  · rintro ⟨before, after, rfl, hname, haccepts, hbefore⟩
    refine ⟨⟨hname, haccepts⟩, before, after, rfl, fun g hg => ?_⟩
    cases hgname : g.hasName name with
    | false => rfl
    | true => simp [hbefore g hg hgname]

section

variable (forms : List (Form α)) (name : String) (count : Nat)

theorem resolve_unknown_iff :
    (∃ unknown, (indexed forms).resolve name count = .error (.unknownFunction unknown)) ↔
      (indexed forms).contains name = false := by
  rcases resolve_cases forms name count with ⟨hfalse, hr⟩ | ⟨htrue, ⟨f, -, hr⟩ | ⟨-, expected, hr⟩⟩
  · exact ⟨fun _ => hfalse, fun _ => ⟨name, hr⟩⟩
  · simp [hr, htrue]
  · simp [hr, htrue]

theorem resolve_eq_ok_iff (body : α) :
    (indexed forms).resolve name count = .ok body ↔
      ∃ before f after, forms = before ++ f :: after ∧ f.hasName name = true ∧ f.arity.accepts count = true ∧
        f.body = body ∧
        ∀ g ∈ before, g.hasName name = true → g.arity.accepts count = false := by
  rcases resolve_cases forms name count with ⟨hfalse, hr⟩ | ⟨-, ⟨f, hfind, hr⟩ | ⟨hfind, expected, hr⟩⟩
  · rw [hr]
    refine ⟨nofun, ?_⟩
    rintro ⟨before, f, after, hsplit, hname, -⟩
    have htrue := (contains_indexed forms name).2 ⟨f, hsplit ▸ List.mem_append_cons_self, hname⟩
    rw [hfalse] at htrue
    cases htrue
  · rw [hr]
    constructor
    · rintro ⟨⟩
      obtain ⟨before, after, hsplit, hname, haccepts, hbefore⟩ := find?_eq_some_iff.1 hfind
      exact ⟨before, f, after, hsplit, hname, haccepts, rfl, hbefore⟩
    · rintro ⟨before, g, after, hsplit, hname, haccepts, rfl, hbefore⟩
      rw [find?_eq_some_iff.2 ⟨before, after, hsplit, hname, haccepts, hbefore⟩] at hfind
      cases hfind
      rfl
  · rw [hr]
    refine ⟨nofun, ?_⟩
    rintro ⟨before, g, after, hsplit, hname, haccepts, rfl, hbefore⟩
    rw [find?_eq_some_iff.2 ⟨before, after, hsplit, hname, haccepts, hbefore⟩] at hfind
    cases hfind

theorem resolve_badArity_iff :
    (∃ key given expected, (indexed forms).resolve name count = .error (.badArity key given expected)) ↔
      (∃ f ∈ forms, f.hasName name = true) ∧ ∀ f ∈ forms, f.hasName name = true → f.arity.accepts count = false := by
  rcases resolve_cases forms name count with ⟨hfalse, hr⟩ | ⟨htrue, ⟨f, hfind, hr⟩ | ⟨hfind, expected, hr⟩⟩
  · rw [← contains_indexed, hfalse, hr]
    simp
  · obtain ⟨before, after, hsplit, hname, haccepts, -⟩ := find?_eq_some_iff.1 hfind
    rw [hr]
    refine ⟨nofun, fun ⟨_, hnone⟩ => ?_⟩
    rw [hnone f (hsplit ▸ List.mem_append_cons_self) hname] at haccepts
    cases haccepts
  · refine ⟨fun _ => ⟨(contains_indexed forms name).1 htrue, fun f hf hname => ?_⟩, fun _ => ⟨_, _, expected, hr⟩⟩
    simpa [hname] using List.find?_eq_none.1 hfind f hf

end

/-- **What is found after any registrations.**  A name is unknown exactly if no registered form has it, up to
the case of ASCII letters.  Of a known name the body of the first form is found that has it and accepts the
number of arguments, and the number is refused exactly if none does.  The documentation is that of every form,
once and in the order of registration, and that of a category is the part of it in the category. -/
theorem resolve_foldl_register (calls : List (Form α)) (name : String) (count : Nat) :
    let r := calls.foldl register empty
    (r.contains name = true ↔ ∃ f ∈ calls, f.hasName name = true) ∧
    ((∃ unknown, r.resolve name count = .error (.unknownFunction unknown)) ↔ r.contains name = false) ∧
    (∀ body, r.resolve name count = .ok body ↔
      ∃ before f after, calls = before ++ f :: after ∧ f.hasName name = true ∧ f.arity.accepts count = true ∧
        f.body = body ∧
        ∀ g ∈ before, g.hasName name = true → g.arity.accepts count = false) ∧
    ((∃ key given expected, r.resolve name count = .error (.badArity key given expected)) ↔
      (∃ f ∈ calls, f.hasName name = true) ∧ ∀ f ∈ calls, f.hasName name = true → f.arity.accepts count = false) ∧
    r.docs none = calls.map Form.doc ∧
    ∀ c, r.docs (some c) = (calls.map Form.doc).filter fun d => d.category == c := by
  intro r
  have hr : r = indexed calls := ofForms_eq calls
  rw [hr]
  refine ⟨contains_indexed calls name, resolve_unknown_iff calls name count, resolve_eq_ok_iff calls name count,
    resolve_badArity_iff calls name count, ?_, fun c => rfl⟩
  simp [docs, indexed]

/-- A form is found by its names in other letters; letters that are not ASCII keep their case. -/
example :
    let forms : List (Form Nat) :=
      [⟨["länge"], .exactly 1, default, 1⟩, ⟨["upper", "ucase"], .exactly 1, default, 2⟩]
    let r := forms.foldl register empty
    (r.resolve "UPPER" 1).toOption = some 2 ∧ (r.resolve "uCase" 1).toOption = some 2 ∧
      r.contains "LÄNGE" = false := by
  decide +kernel

end Registry
end RowSql
