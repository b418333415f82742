import Larder.Command.Application
import Larder.Proofs.Command.Counting
import Larder.Proofs.Json.Reader

/-!
# Larder — outcomes as JSON lines

The resolve command can report its outcomes as JSON, one object on each line. Whoever reads them
cuts the text into lines and reads each line by itself. Specifiers come from documents and may have
any characters, line breaks, quotes and controls included, and so may the paths and contents in the
details. None of these is written as it is unless it is a printable character of ASCII. So a line
ends only where the command ends it: there is one line for each specifier, and what it says is the
specifier, the label of its outcome and the detail.

## Results

* `read_toJson`: a row that is written is read as that row.
* `splitLines_join`: lines that are ended one after another are cut apart again.
* `framed`: whatever the outcomes are, there is one line for each specifier.
* `json_lines_exact`: so it is with every run of the command, and different rows are written
  differently.
-/

namespace Larder

-- ---------------------------------------------------------------------------
-- Lines
-- ---------------------------------------------------------------------------

namespace Text

/-- A plain character ends no line. -/
theorem isLineBreak_of_isPlain {c : Char} (h : isPlain c = true) : isLineBreak c = false := by
  simp only [isPlain, Bool.and_eq_true, decide_eq_true_iff] at h
  simp only [isLineBreak, Bool.or_eq_false_iff, Bool.and_eq_false_iff, decide_eq_false_iff_not,
    beq_eq_false_iff_ne]
  omega

/-- A line that has begun ends at the first line feed. -/
theorem splitLinesFrom_line {line cs rest : List Char} (h : ∀ c ∈ cs, isLineBreak c = false) :
    splitLinesFrom line (cs ++ '\n' :: rest) =
      (line.reverse ++ cs) :: splitLinesFrom [] rest := by
  induction cs generalizing line with
  | nil => simp [splitLinesFrom, isLineBreak]
  | cons c more ih =>
    obtain ⟨hc, hMore⟩ := List.forall_mem_cons.mp h
    have hReturn : c ≠ '\r' := by
      rintro rfl
      cases hc
    have hStep : splitLinesFrom line (c :: (more ++ '\n' :: rest)) =
        splitLinesFrom (c :: line) (more ++ '\n' :: rest) := by
      simp [splitLinesFrom, hReturn, hc]
    rw [List.cons_append, hStep, ih hMore, List.reverse_cons, List.append_assoc]
    rfl

/-- **Lines that are ended one after another are cut apart again.** -/
theorem splitLines_join {lines : List String}
    (h : ∀ line ∈ lines, ∀ c ∈ line.toList, isLineBreak c = false) :
    splitLines (String.join (lines.map (· ++ "\n"))) = lines := by
  induction lines with
  | nil => rfl
  | cons line rest ih =>
    obtain ⟨hLine, hRest⟩ := List.forall_mem_cons.mp h
    have hSplit := ih hRest
    rw [splitLines, String.toList_join] at hSplit ⊢
    have hBreak : "\n".toList = ['\n'] := rfl
    rw [List.map_cons, List.flatMap_cons, String.toList_append, hBreak, List.append_assoc,
      List.singleton_append, splitLinesFrom_line hLine, List.map_cons, hSplit, List.reverse_nil,
      List.nil_append, String.ofList_toList]

end Text

-- ---------------------------------------------------------------------------
-- Rows
-- ---------------------------------------------------------------------------

namespace Row

open Json

/-- What a row says, as a host value. -/
def described (r : Row) : Value :=
  .object [("specifier", .str r.specifier), ("outcome", .str r.label), ("detail", .str r.detail)]

/-- **A row that is written is read as that row.** -/
theorem read_toJson (r : Row) : Json.read r.toJson = some r.described := by
  have hSpecifier : Json.run ⟨[], .value⟩ "\x7b\"specifier\": ".toList =
      some ⟨[.member [] "specifier"], .value⟩ := by rfl
  have hOutcome (v : Value) :
      Json.run ⟨[.member [] "specifier"], .after v⟩ ", \"outcome\": ".toList =
        some ⟨[.member [("specifier", v)] "outcome"], .value⟩ := rfl
  have hDetail (v v' : Value) :
      Json.run ⟨[.member [("specifier", v)] "outcome"], .after v'⟩ ", \"detail\": ".toList =
        some ⟨[.member [("outcome", v'), ("specifier", v)] "detail"], .value⟩ := rfl
  have hEnd (members : List (String × Value)) (v : Value) :
      Json.run ⟨[.member members "detail"], .after v⟩ "\x7d".toList =
        some ⟨[], .after (.object (("detail", v) :: members).reverse)⟩ := rfl
  unfold toJson Json.read
  simp only [String.toList_append, List.append_assoc]
  rw [run_append hSpecifier, run_append (run_value _), run_append (hOutcome _),
    run_append (run_value _), run_append (hDetail _ _), run_append (run_value _), hEnd]
  rfl

/-- A row is written in plain characters. -/
theorem isPlain_toJson (r : Row) : ∀ c ∈ r.toJson.toList, Text.isPlain c = true := by
  unfold toJson
  simp only [String.toList_append, List.forall_mem_append]
  have hFixed {s : String} (h : s.toList.all Text.isPlain = true) :
      ∀ c ∈ s.toList, Text.isPlain c = true := List.all_eq_true.mp h
  exact ⟨⟨⟨⟨⟨⟨hFixed rfl, Text.isPlain_jsonString _⟩, hFixed rfl⟩, Text.isPlain_jsonString _⟩,
    hFixed rfl⟩, Text.isPlain_jsonString _⟩, hFixed rfl⟩

/-- What a row says is that row. -/
theorem described_injective : Function.Injective described := by
  rintro ⟨_, _, _⟩ ⟨_, _, _⟩ h
  simpa [described] using h

/-- A row is an error row exactly when it says so. -/
theorem isError_iff (r : Row) :
    r.isError = true ↔ r.described.member? "outcome" = some (.str "error") := by
  have hMember : r.described.member? "outcome" = some (.str r.label) := rfl
  rw [hMember, isError, errorLabel, decide_eq_true_iff, Option.some_inj, Value.str.injEq]

/-- What is written for a row is printed as it is. -/
theorem text_echo (c : Console) (glyphs : Bool) (r : Row) :
    Output.text c glyphs (.echo r.toJson) = r.toJson ++ "\n" := by
  have hEscape : Text.escape ∉ r.toJson.toList := fun h => by cases isPlain_toJson r _ h
  rw [Output.text, echoLine, Text.dropSequences_of_not_mem hEscape, String.ofList_toList]

end Row

namespace Resolve

-- ---------------------------------------------------------------------------
-- What is printed
-- ---------------------------------------------------------------------------

variable (c : Console) (glyphs verbose : Bool) (document : Path) (history : List Event)

/-- What is printed for rows as JSON has these rows as its lines. -/
theorem splitLines_printed (code : Option Nat) (rs : List Row) :
    Text.splitLines (Application.exit c glyphs verbose
      ⟨code, report true document rs, history⟩).stdout = rs.map Row.toJson := by
  have hTexts : (report true document rs).map (Output.text c glyphs) =
      (rs.map Row.toJson).map (· ++ "\n") := by
    simp [report, Row.text_echo]
  have hLines : ∀ line ∈ rs.map Row.toJson, ∀ d ∈ line.toList, Text.isLineBreak d = false := by
    intro line hLine d hd
    obtain ⟨r, -, rfl⟩ := List.mem_map.mp hLine
    exact Text.isLineBreak_of_isPlain (r.isPlain_toJson d hd)
  rw [Application.exit, hTexts, Text.splitLines_join hLines]

/-- What is printed has one line for each specifier, and the lines and the status tell what the
outcomes are. -/
structure Framed (specifiers : List String) (os : List Outcome) (e : Exit) : Prop where
  length_eq : (Text.splitLines e.stdout).length = specifiers.length
  plain : ∀ line ∈ Text.splitLines e.stdout, ∀ c ∈ line.toList, Text.isPlain c = true
  decoded : ∀ (i : Nat) specifier outcome, specifiers[i]? = some specifier →
    os[i]? = some outcome →
    ∃ line, (Text.splitLines e.stdout)[i]? = some line ∧
      Json.read line = some (Row.ofOutcome specifier outcome).described
  status_eq_one_iff : e.status = 1 ↔ ∃ line ∈ Text.splitLines e.stdout,
    ∃ v, Json.read line = some v ∧ v.member? "outcome" = some (.str "error")

/-- **Whatever the specifiers and the outcomes are**, there is one line for each specifier. -/
theorem framed {specifiers : List String} {os : List Outcome}
    (hLength : os.length = specifiers.length) :
    Framed specifiers os (Application.exit c glyphs verbose ⟨some (status (rows specifiers os)),
      report true document (rows specifiers os), history⟩) := by
  have hLines := splitLines_printed c glyphs verbose document history
    (some (status (rows specifiers os))) (rows specifiers os)
  refine ⟨?_, ?_, fun i specifier outcome hSpecifier hOutcome => ?_, ?_⟩
  · rw [hLines, List.length_map, rows, List.length_zipWith, hLength, Nat.min_self]
  · rw [hLines, List.forall_mem_map]
    exact fun r _ => r.isPlain_toJson
  · refine ⟨_, ?_, Row.read_toJson _⟩
    rw [hLines, List.getElem?_map, rows, List.getElem?_zipWith, hSpecifier, hOutcome]
    rfl
  · rw [hLines]
    simp only [List.mem_map, exists_exists_and_eq_and, Row.read_toJson, Option.some_inj,
      exists_eq_left', ← Row.isError_iff]
    simp [Application.exit, status]

/-- Different rows are printed differently. -/
theorem printed_injective {rs rs' : List Row} {code code' : Option Nat}
    (h : (Application.exit c glyphs verbose ⟨code, report true document rs, history⟩).stdout =
      (Application.exit c glyphs verbose ⟨code', report true document rs', history⟩).stdout) :
    rs = rs' := by
  have hLines : rs.map Row.toJson = rs'.map Row.toJson := by
    rw [← splitLines_printed c glyphs verbose document history code, h, splitLines_printed]
  refine List.map_injective_iff.mpr (fun r r' hSame => Row.described_injective ?_) hLines
  exact Option.some.inj (r.read_toJson.symm.trans ((congrArg Json.read hSame).trans r'.read_toJson))

-- ---------------------------------------------------------------------------
-- A run of the command
-- ---------------------------------------------------------------------------

/-- A run whose options are accepted prints a line for each of its specifiers. -/
theorem framed_invoke {w : World} {o : ResolveOptions} {config : Config} (verbose : Bool)
    (hConfig : configOf w.cwd o.searchPaths o.pantries = .ok config) (hJson : o.asJson = true) :
    let s := settled (w.setup config true) (w.importer config)
      (imports (origin w.cwd o.importingFile) o.specifiers)
    ∃ os, s.1.taskResult? s.2 = some (.outcomes os) ∧ os.length = o.specifiers.length ∧
      Framed o.specifiers os (Application.invoke w (.resolve o verbose)) := by
  intro s
  obtain ⟨os, hResult, hLength⟩ :=
    exists_outcomes w config (origin w.cwd o.importingFile) o.specifiers
  have hOutcomes : outcomes s.1 s.2 = os := by rw [outcomes, hResult]
  have hRun : run w o = ⟨some (status (rows o.specifiers os)),
      report true (origin w.cwd o.importingFile) (rows o.specifiers os), s.1.history⟩ := by
    rw [run, hConfig, hJson, ← hOutcomes]
    exact Console.conclude_of_accepts (all_accepts_report _ _ _ _)
  refine ⟨os, hResult, hLength, ?_⟩
  rw [Application.invoke, hRun]
  exact framed _ _ _ _ _ hLength

/-- **The outcomes as JSON lines.** Whatever characters the specifiers have and whatever their
outcomes are, what is printed has one plain line for each specifier, which says what was imported,
what kind of outcome it had and the detail; the status is 1 exactly when a line tells of a failure.
So different rows are printed differently. A run of the command prints its own outcomes
so, of which it has one for each specifier. -/
theorem json_lines_exact :
    (∀ c glyphs verbose document history specifiers os, os.length = specifiers.length →
      let rs := rows specifiers os
      Framed specifiers os
        (Application.exit c glyphs verbose ⟨some (status rs), report true document rs, history⟩)) ∧
    (∀ c glyphs verbose document history (rs rs' : List Row),
      (Application.exit c glyphs verbose
          ⟨some (status rs), report true document rs, history⟩).stdout =
        (Application.exit c glyphs verbose
          ⟨some (status rs'), report true document rs', history⟩).stdout → rs = rs') ∧
    ∀ w o verbose config, configOf w.cwd o.searchPaths o.pantries = .ok config →
      o.asJson = true →
      let s := settled (w.setup config true) (w.importer config)
        (imports (origin w.cwd o.importingFile) o.specifiers)
      ∃ os, s.1.taskResult? s.2 = some (.outcomes os) ∧ os.length = o.specifiers.length ∧
        Framed o.specifiers os (Application.invoke w (.resolve o verbose)) :=
  ⟨fun c glyphs verbose document history _ _ => framed c glyphs verbose document history,
    fun c glyphs verbose document history _ _ =>
      printed_injective c glyphs verbose document history,
    fun _ _ verbose _ => framed_invoke verbose⟩

/-- A run prints four lines for four specifiers. A line break, quotes, a backslash and a character
above U+FFFF do not get in the way. -/
theorem json_lines_exact_cooking :
    let specifiers := ["p\n\"😀\"", "\\"]
    let os : List Outcome := [.contents "\x7f", .file "/é"]
    let lines := ["\x7b\"specifier\": \"p\\n\\\"\\ud83d\\ude00\\\"\", " ++
        "\"outcome\": \"contents\", \"detail\": \"'\\\\x7f'\"\x7d",
      "\x7b\"specifier\": \"\\\\\", \"outcome\": \"file\", \"detail\": \"/\\u00e9\"\x7d"]
    (∃ os : List Outcome, os.length = 4 ∧
      Framed cooking.specifiers os (Application.invoke kitchen (.resolve cooking true))) ∧
    Framed specifiers os
      (Application.exit kitchen.console false false ⟨some 0, lines.map .echo, []⟩) := by
  intro specifiers os lines
  obtain ⟨hAny, -, hRun⟩ := json_lines_exact
  refine ⟨?_, ?_⟩
  · obtain ⟨os, -, hLength, hFramed⟩ := hRun kitchen cooking true cookery (by decide +kernel) rfl
    exact ⟨os, hLength, hFramed⟩
  · have hLines : report true kitchen.cwd (rows specifiers os) = lines.map .echo := by
      decide +kernel
    rw [← hLines]
    exact hAny kitchen.console false false kitchen.cwd [] specifiers os rfl

end Resolve

end Larder
