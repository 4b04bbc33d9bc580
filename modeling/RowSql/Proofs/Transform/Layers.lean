import RowSql.Proofs.Keys
import RowSql.Proofs.Transform.Clock
/-!
# Layers — parameters over parameters

A layer of parameters changes what is read of the names that it sets, and of no others (`param?_withParams_eq`);
from this one step, any number of layers is read from the last one back (`param?_foldl`).  The parameter of the
processing time is none that a layer sets.  An expression reads a context by its time and its parameters only,
so a transform gives one result in two contexts that are read alike (`recordTexts_of_params`), however they were
built (`layers_read`).
-/
namespace RowSql
namespace Context

/-- **The context of a time with layers of parameters**, each over those before. -/
def layered (time : Calendar.Moment) (layers : List (List (String × Value))) : Context :=
  layers.foldl withParams (start time)

/-- Two contexts are one up to the order in which their parameters are enumerated. -/
structure Reordered (c c' : Context) : Prop where
  time : c.time = c'.time
  params : c.params.Perm c'.params

variable {c : Context} {name : String}

/-! ## One layer -/

/-- The context with one parameter over those it has. -/
def put (c : Context) (p : String × Value) : Context :=
  { c with params := if p.1 == timeParam then c.params else set p.1 p.2 c.params }

theorem withParams_cons (c : Context) (p : String × Value) (layer : List (String × Value)) :
    c.withParams (p :: layer) = (c.put p).withParams layer := rfl

theorem param?_put (c : Context) (name : String) (p : String × Value) :
    (c.put p).param? name = if name = p.1 ∧ name ≠ timeParam then some p.2 else c.param? name := by
  unfold put param?
  by_cases htime : p.1 = timeParam
  · simp [htime]
  · by_cases hname : name = p.1
    · subst hname
      simp [htime, lookup_set]
    · simp [htime, hname, lookup_set]

/-- **What is read with a layer**: of the names that it sets their last values, and of others what was there before. -/
theorem param?_withParams_eq (name : String) : ∀ (layer : List (String × Value)) (c : Context),
    (c.withParams layer).param? name =
      if name = timeParam then c.param? name else (layer.reverse.lookup name).or (c.param? name)
  | [], c => by
    have hnil : c.withParams [] = c := rfl
    simp [hnil]
  | (n, v) :: layer, c => by
    rw [withParams_cons, param?_withParams_eq name layer, param?_put]
    by_cases htime : name = timeParam
    · simp [htime]
    · rw [if_neg htime, if_neg htime, List.reverse_cons, List.lookup_append, lookup_cons_eq, Option.or_assoc]
      by_cases hname : name = n
      · subst hname
        simp [htime]
      · simp [hname]

theorem map_fst_set (n : String) (v : Value) : ∀ ps : List (String × Value),
    (set n v ps).map Prod.fst = if n ∈ ps.map Prod.fst then ps.map Prod.fst else ps.map Prod.fst ++ [n]
  | [] => rfl
  | (m, w) :: ps => by
    rw [set]
    by_cases hm : m = n
    · simp [hm]
    · have hmem : n ∈ ((m, w) :: ps).map Prod.fst ↔ n ∈ ps.map Prod.fst := by simp [Ne.symm hm]
      rw [if_neg (by simpa using hm), List.map_cons, map_fst_set n v ps]
      by_cases hn : n ∈ ps.map Prod.fst
      · rw [if_pos hn, if_pos (hmem.2 hn), List.map_cons]
      · rw [if_neg hn, if_neg fun h => hn (hmem.1 h), List.map_cons, List.cons_append]

theorem distinctKeys_set {ps : List (String × Value)} (h : DistinctKeys ps) (n : String) (v : Value) :
    DistinctKeys (set n v ps) := by
  unfold DistinctKeys at *
  rw [map_fst_set]
  split
  · exact h
  · rename_i hn
    exact List.nodup_append.2 ⟨h, List.nodup_singleton n, fun m hm k hk => by
      rw [List.mem_singleton.1 hk]
      rintro rfl
      exact hn hm⟩

/-- **A layer keeps names distinct.** -/
theorem distinctKeys_withParams : ∀ (layer : List (String × Value)) {c : Context}, DistinctKeys c.params →
    DistinctKeys (c.withParams layer).params
  | [], _, h => h
  | p :: layer, c, h => by
    refine distinctKeys_withParams layer (c := c.put p) ?_
    unfold put
    dsimp only
    split
    · exact h
    · exact distinctKeys_set h _ _

theorem distinctKeys_start (time : Calendar.Moment) : DistinctKeys (start time).params := List.nodup_singleton _

/-! ## Any number of layers -/

theorem param?_foldl (hname : name ≠ timeParam) : ∀ (layers : List (List (String × Value))) (c : Context),
    (layers.foldl withParams c).param? name =
      (layers.reverse.findSome? fun layer => layer.reverse.lookup name).or (c.param? name)
  | [], c => rfl
  | layer :: layers, c => by
    rw [List.foldl_cons, param?_foldl hname layers, param?_withParams_eq, if_neg hname, List.reverse_cons,
      List.findSome?_append, List.findSome?_singleton, Option.or_assoc]

theorem timeParam_foldl : ∀ (layers : List (List (String × Value))) (c : Context),
    (layers.foldl withParams c).param? timeParam = c.param? timeParam
  | [], _ => rfl
  | layer :: layers, c => by rw [List.foldl_cons, timeParam_foldl layers, param?_withParams_eq, if_pos rfl]

theorem timeParam_start (time : Calendar.Moment) : (start time).param? timeParam = some (.text time.text) := by
  rw [start, param?, lookup_cons_eq, if_pos rfl]

theorem timeParam_layered (time : Calendar.Moment) (layers : List (List (String × Value))) :
    (layered time layers).param? timeParam = some (.text time.text) := by rw [layered, timeParam_foldl, timeParam_start]

theorem param?_layered (hname : name ≠ timeParam) (time : Calendar.Moment) (layers : List (List (String × Value))) :
    (layered time layers).param? name = layers.reverse.findSome? fun layer => layer.reverse.lookup name := by
  rw [layered, param?_foldl hname, param?_start hname, Option.or_none]

/-- **A name has the value of the last layer that sets it.** -/
theorem param?_layered_eq_some_iff {layers : List (List (String × Value))}
    (hlayers : ∀ layer ∈ layers, DistinctKeys layer)
    (hname : name ≠ timeParam) (time : Calendar.Moment) (v : Value) :
    (layered time layers).param? name = some v ↔
      ∃ before layer after, layers = before ++ layer :: after ∧ (name, v) ∈ layer ∧
        ∀ l ∈ after, ∀ w, (name, w) ∉ l := by
  have hset : ∀ layer ∈ layers, (layer.reverse.lookup name = some v ↔ (name, v) ∈ layer) := fun layer hl => by
    rw [(hlayers layer hl).reverse.lookup_eq_some_iff, List.mem_reverse]
  have hunset : ∀ layer : List (String × Value), layer.reverse.lookup name = none ↔ ∀ w, (name, w) ∉ layer :=
    fun layer => by
    rw [lookup_eq_none_iff_forall]
    simp
  rw [param?_layered hname, List.findSome?_eq_some_iff]
  constructor
  · rintro ⟨after, layer, before, hsplit, hv, hafter⟩
    have hlayers : layers = before.reverse ++ layer :: after.reverse := by
      rw [← List.reverse_inj, hsplit]
      simp
    refine ⟨before.reverse, layer, after.reverse, hlayers, (hset layer ?_).1 hv, fun l hl => (hunset l).1 (hafter l ?_)⟩
    · simp [hlayers]
    · exact List.mem_reverse.1 hl
  · rintro ⟨before, layer, after, rfl, hv, hafter⟩
    refine ⟨after.reverse, layer, before.reverse, by simp, (hset layer (by simp)).2 hv, fun l hl =>
      (hunset l).2 (hafter l ?_)⟩
    exact List.mem_reverse.1 hl

theorem param?_layered_eq_none_iff (hname : name ≠ timeParam) (time : Calendar.Moment)
    (layers : List (List (String × Value))) :
    (layered time layers).param? name = none ↔ ∀ layer ∈ layers, ∀ w, (name, w) ∉ layer := by
  rw [param?_layered hname, List.findSome?_eq_none_iff]
  simp [lookup_eq_none_iff_forall, -List.lookup_eq_none_iff]

/-- **Layering the parameters of a context of layers reads as layering those**, in whatever order they are
enumerated. -/
theorem param?_withParams_reordered {c : Context} {time : Calendar.Moment} {extra : List (String × Value)}
    (hc : Reordered c ((start time).withParams extra)) (below : Context) (name : String) :
    (below.withParams c.params).param? name = (below.withParams extra).param? name := by
  rw [param?_withParams_eq, param?_withParams_eq]
  by_cases htime : name = timeParam
  · rw [if_pos htime, if_pos htime]
  have hdistinct : DistinctKeys c.params :=
    (distinctKeys_withParams extra (distinctKeys_start time)).perm hc.params.symm
  have hread : c.params.reverse.lookup name = ((start time).withParams extra).params.lookup name := by
    refine Option.ext fun v => ?_
    rw [hdistinct.reverse.lookup_eq_some_iff, List.mem_reverse, hc.params.mem_iff,
      (distinctKeys_withParams extra (distinctKeys_start time)).lookup_eq_some_iff]
  have hextra : ((start time).withParams extra).param? name = extra.reverse.lookup name := by
    rw [param?_withParams_eq, if_neg htime, param?_start htime, Option.or_none]
  rw [if_neg htime, if_neg htime, hread, ← hextra]
  rfl

end Context

/-! ## Transforms -/

theorem Function.apply_of_time {context context' : Context} (h : context.time = context'.time) (f : Function)
    (vs : List Value) : f.apply context vs = f.apply context' vs := by
  cases f with
  | time f =>
    unfold apply body TimeFunction.apply
    rw [h]
  | _ => rfl

namespace Transform

open Context (Reordered layered start timeParam)

/-- **Contexts of one time whose parameters read alike give the texts of a record alike.** -/
theorem recordTexts_of_params {context context' : Context} (htime : context.time = context'.time)
    (hparams : ∀ name, context.param? name = context'.param? name) (t : Transform) (bytes : List UInt8) :
    recordTexts t context bytes = recordTexts t context' bytes := by
  have heval : ∀ (e : Expr) (cells : List Value), e.eval context cells = e.eval context' cells := fun e cells =>
    Expr.eval_of_readsAlike
      { column := fun _ _ _ => rfl
        param := fun name _ => hparams name
        call := fun f _ _ vs _ => f.apply_of_time htime vs }
  exact recordTexts_congr (fun column _ => heval column.expr) (fun e _ => heval e) bytes

theorem runIn_eq_run {context : Context} {time : Calendar.Moment} {extra : List (String × Value)}
    (hc : Reordered context ((start time).withParams extra)) (t : Transform) (bytes : List UInt8) :
    t.runIn context bytes = t.run time extra bytes := by
  have htime : context.time = time := hc.time
  rw [runIn, run, run, htime]
  have hparams := Context.param?_withParams_reordered hc ((start time).withParams t.params)
  exact recordTexts_of_params (by rfl) hparams t bytes

/-- **Parameters in layers**: a name has the value of the last layer that sets it and none without such a layer,
the parameter of the processing time is that time, and a transform that is given a context with parameters, in
whatever order it enumerates them, gives what it gives at that time with these: they are over its own ones, and
the time is over all. -/
theorem layers_read {layers : List (List (String × Value))} (hlayers : ∀ layer ∈ layers, DistinctKeys layer)
    (time : Calendar.Moment) :
    (∀ name v, name ≠ timeParam → ((layered time layers).param? name = some v ↔
      ∃ before layer after, layers = before ++ layer :: after ∧ (name, v) ∈ layer ∧ ∀ l ∈ after, ∀ w, (name, w) ∉ l)) ∧
    (∀ name, name ≠ timeParam → ((layered time layers).param? name = none ↔ ∀ layer ∈ layers, ∀ w, (name, w) ∉ layer)) ∧
    (layered time layers).param? timeParam = some (.text time.text) ∧
    ∀ (t : Transform) (extra : List (String × Value)) (bytes : List UInt8) (context : Context),
      Reordered context ((start time).withParams extra) →
        t.runIn context bytes = t.run time extra bytes ∧
        t.run time extra bytes = t.recordTexts (layered time [t.params, extra]) bytes :=
  ⟨fun _ v hname => Context.param?_layered_eq_some_iff hlayers hname time v,
    fun _ hname => Context.param?_layered_eq_none_iff hname time layers,
    Context.timeParam_layered time layers,
    fun t _ bytes _ hc => ⟨runIn_eq_run hc t bytes, rfl⟩⟩

def europe : List (String × Value) := [("region", .text "eu"), ("tier", .text "gold")]

/-- A layer that sets the processing time as well. -/
def states : List (String × Value) := [(timeParam, .text "never"), ("region", .text "us")]

/-- The parameters of a context with that layer, enumerated from the last one. -/
def stated : List (String × Value) := [("region", .text "us"), (timeParam, .text (default : Calendar.Moment).text)]

/-- Every record is one row, of which the region and the tier are written. -/
def regional : Transform where
  decoder := ⟨[], fun _ => .ok (.single [])⟩
  plan := { columns := [⟨"region", .param "region"⟩, ⟨"tier", .param "tier"⟩], condition := none }
  policy := .abort
  encoder := ⟨[], fun row => .ok ((row.get "region").render ++ (row.get "tier").render)⟩
  params := europe

theorem layers_read_regions :
    (∀ layer ∈ [europe, states], DistinctKeys layer) ∧
    ("region" ≠ timeParam ∧ (layered default [europe, states]).param? "region" = some (.text "us")) ∧
    ("rate" ≠ timeParam ∧ (layered default [europe, states]).param? "rate" = none) ∧
    (layered default [europe, states]).param? timeParam = some (.text (default : Calendar.Moment).text) ∧
    Reordered ⟨default, stated⟩ ((start default).withParams states) ∧
    regional.runIn ⟨default, stated⟩ [] = regional.run default states [] ∧
      regional.run default states [] = .ok ["usgold"] := by
  have hlayers : ∀ layer ∈ [europe, states], DistinctKeys layer := by decide
  have hparams : ((start default).withParams states).params = stated.reverse := rfl
  have hcontext : Reordered ⟨default, stated⟩ ((start default).withParams states) :=
    ⟨rfl, hparams ▸ stated.reverse_perm.symm⟩
  obtain ⟨hset, hunset, htime, hrun⟩ := layers_read hlayers default
  refine ⟨hlayers, ⟨by decide, ?_⟩, ⟨by decide, ?_⟩, htime, hcontext, (hrun regional states [] _ hcontext).1, rfl⟩
  · exact (hset "region" (.text "us") (by decide)).2 ⟨[europe], states, [], rfl, by simp [states], nofun⟩
  · exact (hunset "rate" (by decide)).2 (by simp [europe, states, timeParam])

end Transform
end RowSql
