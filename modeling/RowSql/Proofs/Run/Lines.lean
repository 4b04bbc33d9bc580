import Mathlib.Data.List.TakeWhile
import RowSql.Command
import RowSql.Proofs.Number.DecimalText
import RowSql.Proofs.Outcome
import RowSql.Proofs.Text.Utf8
import RowSql.Proofs.Transform.Clock
/-!
# Lines — runs over the lines of an input

The lines of a text are texts (`lines_encode`), so a run over a text goes through all of them up to one that the
program halts over, and what it writes is what each line that is not blank gives by itself (`overLines_eq`).  An
input that ends in a line feed and what follows it have no line in common (`lines_append`).  So what is written
for both is what is written for the one and then for the other, unless the program halts over the one, and lines
that give nothing can be left out (`performRun_lines`).
-/
namespace RowSql
namespace Run

open Config Text Calendar

/-! ## Cutting -/

theorem linesAfter_append (x y : List UInt8) (taken : List UInt8) :
    linesAfter taken (x ++ lineFeed :: y) = linesAfter taken (x ++ [lineFeed]) ++ lines y := by
  induction x generalizing taken with
  | nil => simp [linesAfter, lines]
  | cons b x ih =>
    rw [List.cons_append, List.cons_append, linesAfter, linesAfter]
    by_cases hb : (b == lineFeed) = true
    · rw [if_pos hb, if_pos hb, ih, List.cons_append]
    · rw [if_neg hb, if_neg hb, ih]

/-- **The lines of what ends in a line feed stay as they are**, whatever follows. -/
theorem lines_append (x y : List UInt8) : lines (x ++ lineFeed :: y) = lines (x ++ [lineFeed]) ++ lines y :=
  linesAfter_append x y []

theorem linesAfter_of_not_mem {x : List UInt8} (h : lineFeed ∉ x) (y taken : List UInt8) :
    linesAfter taken (x ++ y) = linesAfter (x.reverse ++ taken) y := by
  induction x generalizing taken with
  | nil => rfl
  | cons b x ih =>
    have hb : (b == lineFeed) = false := beq_false_of_ne fun e => h (e ▸ List.mem_cons_self)
    rw [List.cons_append, linesAfter, hb, if_neg Bool.false_ne_true, ih fun hx => h (List.mem_cons_of_mem _ hx),
      List.reverse_cons, List.append_assoc, List.singleton_append]

theorem endedLine_of_ne {b : UInt8} (h : b ≠ carriageReturn) (bs : List UInt8) :
    endedLine (b :: bs) = (b :: bs).reverse := by
  rw [endedLine, if_neg (by simpa using h)]

/-! ## Lines of texts -/

/-- Some bytes are those of characters. -/
def IsText (bytes : List UInt8) : Prop := ∃ cs : List Char, bytes = cs.flatMap String.utf8EncodeChar

theorem IsText.decode {bytes : List UInt8} (h : IsText bytes) : ∃ cs, Text.decode bytes = .ok cs := by
  obtain ⟨cs, rfl⟩ := h
  exact ⟨cs, decodeFrom_flatMap 0 cs⟩

/-- The line without its line end is a text: a carriage return is a character by itself. -/
theorem isText_endedLine (ds : List Char) : IsText (endedLine (ds.flatMap String.utf8EncodeChar).reverse) := by
  rcases List.eq_nil_or_concat ds with rfl | ⟨es, c, rfl⟩
  · exact ⟨[], rfl⟩
  rw [List.concat_eq_append, List.flatMap_append, List.flatMap_singleton, List.reverse_append]
  cases hbytes : (String.utf8EncodeChar c).reverse with
  | nil => exact absurd (List.reverse_eq_nil_iff.1 hbytes) String.utf8EncodeChar_ne_nil
  | cons b bs =>
    by_cases hb : b = carriageReturn
    · have hmem : b ∈ String.utf8EncodeChar c := List.mem_reverse.1 (hbytes ▸ List.mem_cons_self)
      rw [utf8EncodeChar_of_mem_ascii hmem (by rw [hb]; decide)] at hbytes
      cases hbytes
      rw [hb]
      exact ⟨es, List.reverse_reverse _⟩
    · rw [List.cons_append, endedLine_of_ne hb, ← List.cons_append, ← hbytes]
      exact ⟨es ++ [c], by simp⟩

theorem isText_linesAfter : ∀ (cs ds : List Char),
    ∀ line ∈ linesAfter (ds.flatMap String.utf8EncodeChar).reverse (cs.flatMap String.utf8EncodeChar), IsText line
  | [], ds => by
    intro line hline
    rw [List.flatMap_nil, linesAfter] at hline
    split at hline
    · cases hline
    · rw [List.mem_singleton.1 hline, List.reverse_reverse]
      exact ⟨ds, rfl⟩
  | c :: cs, ds => by
    rw [List.flatMap_cons]
    by_cases hc : lineFeed ∈ String.utf8EncodeChar c
    · rw [utf8EncodeChar_of_mem_ascii hc (by decide), List.singleton_append, linesAfter, if_pos (beq_self_eq_true _)]
      exact List.forall_mem_cons.2 ⟨isText_endedLine ds, isText_linesAfter cs []⟩
    · have htaken : (String.utf8EncodeChar c).reverse ++ (ds.flatMap String.utf8EncodeChar).reverse =
          ((ds ++ [c]).flatMap String.utf8EncodeChar).reverse := by simp
      rw [linesAfter_of_not_mem hc, htaken]
      exact isText_linesAfter cs (ds ++ [c])

/-- **The lines of a text are texts.** -/
theorem lines_encode (s : String) : ∀ line ∈ lines (Text.encode s), ∃ cs, Text.decode line = .ok cs := by
  intro line hline
  rw [encode_eq_flatMap] at hline
  exact (isText_linesAfter s.toList [] line hline).decode

/-! ## Running over lines -/

/-- The line is a text of white space only. -/
def isBlank (line : List UInt8) : Bool :=
  match Text.decode line with
  | .ok cs => cs.all Text.isSpace
  | .error _ => false

/-- The transform fails on the line. -/
def fails (t : Transform) (time : Moment) (line : List UInt8) : Bool :=
  match t.run time [] line with
  | .ok _ => false
  | .error .halt => false
  | .error _ => true

/-- The program halts over the line. -/
def halts (t : Transform) (time : Moment) (line : List UInt8) : Bool := (texts? t time line).isNone

/-- The texts of a line that the program does not halt over. -/
def texts (t : Transform) (time : Moment) (line : List UInt8) : List String := (texts? t time line).getD []

/-- **The lines that a run reaches**, without the blank ones: those before the first that the program halts over. -/
def reached (t : Transform) (time : Moment) (ls : List (List UInt8)) : List (List UInt8) :=
  (ls.filter (!isBlank ·)).takeWhile (!halts t time ·)

/-- A line that is not blank halts the program. -/
def someHalts (t : Transform) (time : Moment) (ls : List (List UInt8)) : Bool :=
  (ls.filter (!isBlank ·)).any (halts t time)

variable {t : Transform} {time : Moment} {line : List UInt8} {ls : List (List UInt8)}

theorem reached_of_not_someHalts (h : someHalts t time ls = false) : reached t time ls = ls.filter (!isBlank ·) := by
  refine List.takeWhile_eq_self_iff.2 fun line hline => ?_
  rw [Bool.eq_false_iff.2 (List.any_eq_false.1 h line hline), Bool.not_false]

theorem reached_append_of_not_someHalts (h : someHalts t time ls = false) (more : List (List UInt8)) :
    reached t time (ls ++ more) = reached t time ls ++ reached t time more := by
  rw [reached_of_not_someHalts h, reached, List.filter_append, List.takeWhile_append_of_pos, reached]
  intro line hline
  rw [Bool.eq_false_iff.2 (List.any_eq_false.1 h line hline), Bool.not_false]

/-- What follows a line that halts the program does not count. -/
theorem reached_append_of_someHalts (h : someHalts t time ls = true) (more : List (List UInt8)) :
    reached t time (ls ++ more) = reached t time ls := by
  obtain ⟨line, hline, hhalts⟩ := List.any_eq_true.1 h
  obtain ⟨before, after, hsplit⟩ := List.append_of_mem hline
  have hstop : ∀ rest, (before ++ line :: rest).takeWhile (!halts t time ·) = before.takeWhile (!halts t time ·) := by
    intro rest
    rw [List.takeWhile_append, List.takeWhile_cons_of_neg (by simp [hhalts]), List.append_nil]
    split
    · rename_i hall
      exact (List.takeWhile_prefix _).eq_of_length hall |>.symm
    · rfl
  rw [reached, reached, List.filter_append, hsplit, List.append_assoc, List.cons_append, hstop, hstop]

/-- **A run over lines that are texts reaches the last one**, or the first that the program halts over, and
writes what each line before it that is not blank gives. -/
theorem overLines_eq (t : Transform) (time : Moment) :
    ∀ {ls : List (List UInt8)}, (∀ line ∈ ls, ∃ cs, Text.decode line = .ok cs) →
    overLines t time ls = ((reached t time ls).flatMap fun line => written (texts t time line),
      if someHalts t time ls then some .halt else none)
  | [], _ => rfl
  | line :: ls, h => by
    obtain ⟨⟨cs, hcs⟩, hls⟩ := List.forall_mem_cons.1 h
    rw [overLines, hcs, overLines_eq t time hls]
    have hblank : isBlank line = cs.all Text.isSpace := by rw [isBlank, hcs]
    cases hspace : cs.all Text.isSpace with
    | true => simp [reached, someHalts, hblank, hspace]
    | false =>
      cases htexts : texts? t time line with
      | none => simp [reached, someHalts, halts, hblank, hspace, htexts]
      | some found => simp [reached, someHalts, halts, texts, hblank, hspace, htexts]

theorem texts?_of_fails (h : fails t time line = true) : texts? t time line = some [] := by
  unfold fails at h
  unfold texts?
  cases hrun : t.run time [] line with
  | ok texts =>
    rw [hrun] at h
    cases h
  | error fault =>
    rw [hrun] at h
    cases fault with
    | halt => cases h
    | compile | decode | encode | eval => rfl

/-- Lines on which the transform fails are passed over like blank ones. -/
theorem flatMap_reached (t : Transform) (time : Moment) (ls : List (List UInt8)) :
    ((reached t time ls).flatMap fun line => written (texts t time line)) =
      ((ls.filter fun line => !isBlank line && !fails t time line).takeWhile (!halts t time ·)).flatMap fun line =>
        written (texts t time line) := by
  unfold reached
  induction ls with
  | nil => rfl
  | cons line ls ih =>
    cases hb : isBlank line with
    | true => simpa [List.filter_cons, hb] using ih
    | false =>
      cases hf : fails t time line with
      | true => simpa [List.filter_cons, hb, hf, halts, texts, texts?_of_fails hf, written] using ih
      | false =>
        cases hh : halts t time line with
        | true => simp [hb, hf, hh]
        | false => simpa [List.filter_cons, hb, hf, hh] using ih

/-! ## Runs of a configuration -/

/-- What a configuration writes for a text as standard input, at a time. -/
def outputOn (files : Files) (config : String) (time : Moment) (s : String) : String :=
  (Command.performRun ⟨files, Text.encode s, time⟩ config none).output

variable {files : Files} {config : String} {c : RunConfig}

/-- The exit code of a run over lines: that of a program that halts, if one of them halts it. -/
def exitCode (t : Transform) (time : Moment) (ls : List (List UInt8)) : Nat :=
  if someHalts t time ls then Command.haltCode else 0

theorem performRun_eq (hload : load files config = .ok c) (ht : transform files c = .ok t)
    (hframing : c.framing = .lines)
    {around : Surroundings} {input : Option String} {s : String} (hfiles : around.files = files)
    (hinput : Command.inputOf around input = .ok (Text.encode s)) :
    Command.performRun around config input =
      ⟨exitCode t around.time (lines (Text.encode s)),
        String.ofList ((reached t around.time (lines (Text.encode s))).flatMap fun line =>
          written (texts t around.time line)),
        none⟩ := by
  subst hfiles
  have hmade : (do
      let c ← load around.files config
      let t ← transform around.files c
      return (t, c.framing, ← Command.inputOf around input)) = Except.ok (t, Framing.lines, Text.encode s) := by
    refine bind_eq_ok.2 ⟨c, hload, bind_eq_ok.2 ⟨t, ht, bind_eq_ok.2 ⟨_, hinput, ?_⟩⟩⟩
    rw [hframing]
    rfl
  unfold Command.performRun
  dsimp only
  rw [hmade]
  dsimp only
  rw [output, overLines_eq t around.time (lines_encode s), exitCode]
  cases someHalts t around.time (lines (Text.encode s)) <;> rfl

theorem texts?_of_timeless (h : t.plan.Timeless) (time time' : Moment) (line : List UInt8) :
    texts? t time line = texts? t time' line := by
  rw [texts?, texts?, Transform.run_of_timeless h time time']

/-- **A run over lines is made of its lines, up to one that the program halts over.**  For a configuration of
lines whose plan does not read the processing time, a run over a text, from standard input or a file, has
written the texts of each line that is not blank, in order and each with a line feed after it; a line that fails
has none, and each line may have a time of its own.  It ends well unless the program halts over a line, and then
the lines behind that one are lost.  So where no line of a text that ends in a line feed does so, what is
written for it and for what follows it is what is written for each of the two; where one does, it is what is
written for the text alone.  Texts that differ only in lines that are blank or fail have one output. -/
theorem performRun_lines (hload : load files config = .ok c) (ht : transform files c = .ok t)
    (hframing : c.framing = .lines) (htimeless : t.plan.Timeless) :
    (∀ (around : Surroundings) (input : Option String) (s : String), around.files = files →
      Command.inputOf around input = .ok (Text.encode s) → ∀ (clock : List UInt8 → Moment) (time : Moment),
        Command.performRun around config input =
          ⟨exitCode t time (lines (Text.encode s)),
            String.ofList ((reached t time (lines (Text.encode s))).flatMap fun line =>
              written (texts t (clock line) line)),
            none⟩) ∧
    (∀ x y time time' time'', outputOn files config time (x ++ "\n" ++ y) =
      if someHalts t time (lines (Text.encode (x ++ "\n"))) then outputOn files config time' (x ++ "\n")
      else outputOn files config time' (x ++ "\n") ++ outputOn files config time'' y) ∧
    (∀ x y time time',
      (lines (Text.encode x)).filter (fun line => !isBlank line && !fails t time line) =
        (lines (Text.encode y)).filter (fun line => !isBlank line && !fails t time line) →
      outputOn files config time x = outputOn files config time' y) := by
  have htexts : ∀ time time' line, texts t time line = texts t time' line :=
    fun time time' line => congrArg (Option.getD · []) (texts?_of_timeless htimeless time time' line)
  have hhalts : ∀ time time', halts t time = halts t time' :=
    fun time time' => funext fun line => congrArg Option.isNone (texts?_of_timeless htimeless time time' line)
  have hreached : ∀ time time' ls, reached t time ls = reached t time' ls :=
    fun time time' ls => by rw [reached, reached, hhalts time time']
  have hsome : ∀ time time' ls, someHalts t time ls = someHalts t time' ls :=
    fun time time' ls => by rw [someHalts, someHalts, hhalts time time']
  have hrun : ∀ {around : Surroundings} {input : Option String} {s : String}, around.files = files →
      Command.inputOf around input = .ok (Text.encode s) → ∀ (clock : List UInt8 → Moment) (time : Moment),
        Command.performRun around config input =
          ⟨exitCode t time (lines (Text.encode s)),
            String.ofList ((reached t time (lines (Text.encode s))).flatMap fun line =>
              written (texts t (clock line) line)),
            none⟩ := by
    intro around input s hfiles hinput clock time
    have hline : ∀ line, texts t around.time line = texts t (clock line) line := fun line => htexts _ _ line
    rw [performRun_eq hload ht hframing hfiles hinput, exitCode, exitCode, hsome around.time time,
      hreached around.time time]
    simp only [hline]
  have hout : ∀ time clock s, outputOn files config time s =
      String.ofList ((reached t clock (lines (Text.encode s))).flatMap fun line => written (texts t clock line)) :=
    fun time clock s => congrArg Outcome.output (hrun (s := s) rfl rfl (fun _ => clock) clock)
  refine ⟨fun around input s hfiles hinput clock time => hrun hfiles hinput clock time, ?_, ?_⟩
  · intro x y time time' time''
    have henc : Text.encode (x ++ "\n" ++ y) = Text.encode x ++ lineFeed :: Text.encode y := by
      simp [encode_eq_flatMap, lineFeed, String.utf8EncodeChar]
    have henc' : Text.encode (x ++ "\n") = Text.encode x ++ [lineFeed] := by
      simp [encode_eq_flatMap, lineFeed, String.utf8EncodeChar]
    rw [hout time time, hout time' time, hout time'' time, henc, henc', lines_append]
    cases hx : someHalts t time (lines (Text.encode x ++ [lineFeed])) with
    | true => rw [if_pos rfl, reached_append_of_someHalts hx]
    | false =>
      rw [if_neg Bool.false_ne_true, reached_append_of_not_someHalts hx, List.flatMap_append, String.ofList_append]
  · intro x y time time' hsame
    rw [hout time time, hout time' time, flatMap_reached, flatMap_reached, hsame]

/-! ## A run that divides -/

def sixthsText : String :=
  "transform=\x7bsql=\"select 6/a\"\x7d\nsource=\x7bformat=\"csv\",fields=[\x7bname=\"a\"\x7d]\x7d\n"
    ++ "sink=\x7bformat=\"kv\",fields=[\x7bname=\"q\"\x7d]\x7d"

def sixthsFiles : Files := fun _ => .ok (Text.encode sixthsText)

/-- A plan of one operation on a literal and a column, without a condition. -/
def isOneOperation (plan : Plan) : Bool :=
  match plan with
  | ⟨[⟨_, .arith _ (.literal _) (.column _ _)⟩], none⟩ => true
  | _ => false

theorem timeless_of_isOneOperation {plan : Plan} (h : isOneOperation plan = true) : plan.Timeless := by
  unfold isOneOperation at h
  split at h
  · refine ⟨fun column hcolumn => ?_, nofun⟩
    cases List.mem_singleton.1 hcolumn
    refine Expr.Within.forall_of_operands rfl fun a ha => Expr.Within.forall_of_operands ?_ ?_
    · simp only [Expr.operands, List.mem_cons, List.not_mem_nil, or_false] at ha
      rcases ha with rfl | rfl <;> rfl
    · simp only [Expr.operands, List.mem_cons, List.not_mem_nil, or_false] at ha
      rcases ha with rfl | rfl <;> exact fun b hb => absurd hb List.not_mem_nil
  · cases h

/-- A configuration of lines that has such a plan, and whether the program halts over a line of a text in a run
of it. -/
def runsOneOperation (files : Files) (config s : String) : Option Bool :=
  match load files config with
  | .error _ => none
  | .ok c =>
    match transform files c with
    | .error _ => none
    | .ok t =>
      if c.framing == .lines && isOneOperation t.plan then some (someHalts t default (lines (Text.encode s))) else none

theorem exists_of_runsOneOperation {files : Files} {config s : String} {halts : Bool}
    (h : runsOneOperation files config s = some halts) :
    ∃ c t, load files config = .ok c ∧ transform files c = .ok t ∧ c.framing = .lines ∧ t.plan.Timeless ∧
      someHalts t default (lines (Text.encode s)) = halts := by
  unfold runsOneOperation at h
  split at h
  · cases h
  · rename_i c hc
    split at h
    · cases h
    · rename_i t ht
      obtain ⟨hboth, hhalts⟩ := Option.ite_none_right_eq_some.1 h
      obtain ⟨hframing, hplan⟩ := Bool.and_eq_true_iff.1 hboth
      exact ⟨c, t, hc, ht, eq_of_beq hframing, timeless_of_isOneOperation hplan, Option.some.inj hhalts⟩

/-- A blank line and one that divides by zero give nothing, and the run goes on behind them. -/
theorem performRun_lines_sixths :
    (∃ c t, load sixthsFiles "" = .ok c ∧ transform sixthsFiles c = .ok t ∧ c.framing = .lines ∧ t.plan.Timeless) ∧
    outputOn sixthsFiles "" default ("3\n\n0" ++ "\n" ++ "2") = "q=2\nq=3\n" ∧
    outputOn sixthsFiles "" default ("3\n\n0" ++ "\n" ++ "2") =
      outputOn sixthsFiles "" default ("3\n\n0" ++ "\n") ++ outputOn sixthsFiles "" default "2" := by
  have hruns : runsOneOperation sixthsFiles "" ("3\n\n0" ++ "\n") = some false := by decide +kernel
  obtain ⟨c, t, hload, ht, hframing, htimeless, hhalts⟩ := exists_of_runsOneOperation hruns
  obtain ⟨-, happend, -⟩ := performRun_lines hload ht hframing htimeless
  have hboth := happend "3\n\n0" "2" default default default
  rw [hhalts, if_neg Bool.false_ne_true] at hboth
  exact ⟨⟨c, t, hload, ht, hframing, htimeless⟩, by decide +kernel, hboth⟩

/-- **A line can end the run**: what follows it is lost, though it gives something by itself. -/
theorem performRun_halts :
    (∃ c t, load sixthsFiles "" = .ok c ∧ transform sixthsFiles c = .ok t ∧ c.framing = .lines ∧ t.plan.Timeless) ∧
    (Command.performRun ⟨sixthsFiles, Text.encode (Decimal.haltingText ++ "\n" ++ "2"), default⟩ "" none).exit =
      Command.haltCode ∧
    outputOn sixthsFiles "" default (Decimal.haltingText ++ "\n" ++ "2") = "" ∧
    outputOn sixthsFiles "" default (Decimal.haltingText ++ "\n") ++ outputOn sixthsFiles "" default "2" = "q=3\n" := by
  have hruns : runsOneOperation sixthsFiles "" (Decimal.haltingText ++ "\n") = some true := by decide +kernel
  obtain ⟨c, t, hload, ht, hframing, htimeless, -⟩ := exists_of_runsOneOperation hruns
  exact ⟨⟨c, t, hload, ht, hframing, htimeless⟩, by decide +kernel⟩

end Run
end RowSql
