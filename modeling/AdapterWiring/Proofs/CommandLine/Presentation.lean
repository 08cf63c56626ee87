import AdapterWiring.Proofs.CommandLine.Agreement
import AdapterWiring.Proofs.CommandLine.Flags
import AdapterWiring.Proofs.Text.Words
import Mathlib.Data.List.Flatten

/-!
# Results however they are shown

How a result is to be shown changes neither what a command answers nor the exit
status. What is quietly left out are whole lines, and none that carries a result.

* **Text.lines** — the lines of a text; **lines_joinLines** — those of lines
  that were printed.
* **sublist_lines** — quietly, some lines of an answer are left out.
* **Tells, lines_infix_of_tells** — the lines that are never left out.
* **run_noninterference** — two runs of a command with different presentations.
-/

namespace AdapterWiring

/-! ## Lines -/

/-- The lines of a text. The last one may lack its end, and is no line if it is empty. -/
def Text.lines (text : String) : List String :=
  let all := pieces (· == '\n') text.toList
  (if all.getLast? = some [] then all.dropLast else all).map String.ofList

namespace Output

open Text

theorem pieces_joinLines (printed : List String) :
    pieces (· == '\n') (joinLines printed).toList =
      printed.flatMap (fun line => pieces (· == '\n') line.toList) ++ [[]] := by
  induction printed with
  | nil => rfl
  | cons line printed ih =>
    have spelled : (joinLines (line :: printed)).toList =
        line.toList ++ '\n' :: (joinLines printed).toList := by
      unfold joinLines
      rw [List.map_cons, String.join_cons, String.toList_append, String.toList_append,
        List.append_assoc]
      rfl
    rw [spelled, pieces_append (by decide), ih, List.flatMap_cons, List.append_assoc]

/-- The lines of what was printed are those of each text in it. -/
theorem lines_joinLines (printed : List String) :
    lines (joinLines printed) = printed.flatMap fun line => lines (line ++ "\n") := by
  have each (printed : List String) : lines (joinLines printed) =
      printed.flatMap fun line => (pieces (· == '\n') line.toList).map String.ofList := by
    unfold lines
    dsimp only
    -- the piece behind the last end of a line is empty, and no line
    rw [pieces_joinLines, List.getLast?_concat, if_pos rfl, List.dropLast_concat, List.map_flatMap]
  rw [each]
  congr 1
  funext line
  rw [← joinLines_singleton, each, List.flatMap_singleton]

end Output

/-! ## Answers -/

/-- The lines of an answer that are results. -/
inductive Answer.Tells : Answer → String → Prop
  | diagnostic {report : Report} {found : Diagnostic} : found ∈ report.diagnostics →
      Tells (.report report) (found.severity.name ++ ": " ++ found.render)
  | adapter (adapter : String) : Tells (.verdict (.resolved adapter)) adapter
  | declaration {declarations : List Declaration} {declared : Declaration} :
    declared ∈ declarations →
      Tells (.declarations declarations) (declared.origin.file ++ ":" ++
        toString declared.origin.line.toNat ++ " " ++ declared.render)
  | cycle {cycles : List Cycle} {cycle : Cycle} : cycle ∈ cycles →
      Tells (.cycles cycles) ("warning: cyclic precedence: " ++ cycle.render)

namespace Answer

variable {answer : Answer} {line : String}

/-- Quietly, some lines of an answer are left out. -/
theorem sublist_lines (answer : Answer) (quiet : Bool) :
    (answer.lines true).Sublist (answer.lines quiet) := by
  cases quiet with
  | true => exact List.Sublist.refl _
  | false =>
    cases answer with
    | report found =>
      exact (List.sublist_append_right _ _).trans (List.sublist_append_left _ _)
    | verdict found =>
      cases found with
      | resolved adapter => exact List.Sublist.refl _
      | ambiguous candidates => exact List.nil_sublist _
      | notFound => exact List.nil_sublist _
      | cyclicPrecedence involved => exact List.nil_sublist _
    | declarations found => exact List.Sublist.refl _
    | cycles found =>
      cases found with
      | nil => exact List.nil_sublist _
      | cons _ _ => exact List.Sublist.refl _

/-- No line that is a result is left out. -/
theorem mem_lines_of_tells (tells : answer.Tells line) (quiet : Bool) :
    line ∈ answer.lines quiet := by
  refine (answer.sublist_lines quiet).subset ?_
  cases tells with
  | diagnostic member => exact List.mem_map_of_mem member
  | adapter _ => exact List.mem_singleton_self line
  | declaration member => exact List.mem_map_of_mem member
  | @cycle cycles _ member =>
    have quietly : (Answer.cycles cycles).lines true =
        cycles.map fun cycle => "warning: cyclic precedence: " ++ cycle.render := by
      simp [lines]
    rw [quietly]
    exact List.mem_map_of_mem member

end Answer

/-! ## Runs -/

namespace Output

open Text

variable {files : Files Id} {arguments others : List String} {command : Command}
  {shown other : Presentation}

theorem stdout_ofFailure_text (text : shown.format = .text) (failure : Failure) :
    (ofFailure shown failure).stdout = "" := by
  unfold ofFailure
  rw [text]
  cases failure <;> rfl

theorem stdout_ofFailure_json (json : shown.format = .json) (otherJson : other.format = .json)
    (failure : Failure) : (ofFailure shown failure).stdout = (ofFailure other failure).stdout := by
  unfold ofFailure
  rw [json, otherJson]
  cases failure <;> rfl

theorem stdout_ofAnswer_text (text : shown.format = .text) (answer : Answer) :
    (ofAnswer shown answer).stdout = joinLines (answer.lines shown.quiet) := by
  unfold ofAnswer
  rw [text]

theorem stdout_ofAnswer_json (json : shown.format = .json) (answer : Answer) :
    (ofAnswer shown answer).stdout = joinLines [answer.toJson.pretty] := by
  unfold ofAnswer
  rw [json]

theorem lines_infix_of_tells {answer : Answer} {line : String} (tells : answer.Tells line)
    (text : shown.format = .text) :
    lines (line ++ "\n") <:+: lines (ofAnswer shown answer).stdout := by
  obtain ⟨before, after, split⟩ := List.append_of_mem (answer.mem_lines_of_tells tells shown.quiet)
  rw [stdout_ofAnswer_text text, lines_joinLines, split, List.flatMap_append, List.flatMap_cons]
  exact ⟨_, _, List.append_assoc ..⟩

/-- **Presentation.** Arguments without an option of the presentation ask for the same command. Two
runs of one command over the same files, however they are to show it, have the same exit status. As
JSON both write the same. As text, the lines that are written quietly are some of those that are
written otherwise, in the same order, and among them are all diagnostics of a check, the adapter of
a resolution, all declarations of a file and all cycles. -/
theorem run_noninterference (files : Files Id)
    (parsed : Invocation.parse arguments = .command command shown) :
    (∀ manner others, Invocation.Without manner arguments others →
      ∃ other, Invocation.parse others = .command command other ∧
        Invocation.Agree manner shown other) ∧
    (∀ others other, Invocation.parse others = .command command other →
      (run files arguments).run.status = (run files others).run.status ∧
      (shown.format = .json → other.format = .json →
        (run files arguments).run.stdout = (run files others).run.stdout) ∧
      (shown.format = .text → other.format = .text → shown.quiet = true →
        (lines (run files arguments).run.stdout).Sublist (lines (run files others).run.stdout))) ∧
    (shown.format = .text → ∀ answer line, (command.run files).run.run = .ok answer →
      answer.Tells line → lines (line ++ "\n") <:+: lines (run files arguments).run.stdout) := by
  refine ⟨fun _ _ without => Invocation.parse_without without parsed, ?_, ?_⟩
  · intro others other parsedOther
    rw [run_of_command parsed, run_of_command parsedOther]
    cases (command.run files).run.run with
    | ok answer =>
      refine ⟨rfl, fun json otherJson => ?_, fun text otherText quiet => ?_⟩
      · show (ofAnswer shown answer).stdout = (ofAnswer other answer).stdout
        rw [stdout_ofAnswer_json json, stdout_ofAnswer_json otherJson]
      · show (lines (ofAnswer shown answer).stdout).Sublist (lines (ofAnswer other answer).stdout)
        rw [stdout_ofAnswer_text text, stdout_ofAnswer_text otherText, quiet, lines_joinLines,
          lines_joinLines]
        exact (answer.sublist_lines other.quiet).flatMap _
    | error failure =>
      refine ⟨(status_ofFailure shown failure).trans (status_ofFailure other failure).symm,
        fun json otherJson => stdout_ofFailure_json json otherJson failure,
        fun text otherText _ => ?_⟩
      show (lines (ofFailure shown failure).stdout).Sublist (lines (ofFailure other failure).stdout)
      rw [stdout_ofFailure_text text, stdout_ofFailure_text otherText]
  · intro text answer line answers tells
    rw [run_of_command parsed, answers]
    exact lines_infix_of_tells tells text

/-- A check of a file that is not there, quietly and in full. -/
theorem run_noninterference_lost :
    let quietly := ["check", "--quiet", "--universe", "shop.json", "lost.txt"]
    let fully := ["check", "--universe", "shop.json", "lost.txt"]
    let command := Command.check ⟨some "shop.json", ["lost.txt"]⟩ none
    let problem := Diagnostic.error "lost.txt" 0
      "cannot read file 'lost.txt': file not found in memory: lost.txt"
    (Invocation.parse quietly = .command command ⟨.text, true, false⟩ ∧
      Invocation.Without .quiet quietly fully) ∧
    Invocation.parse fully = .command command ⟨.text, false, false⟩ ∧
    (run shopFiles quietly).run.status = (run shopFiles fully).run.status ∧
    (lines (run shopFiles quietly).run.stdout).Sublist (lines (run shopFiles fully).run.stdout) ∧
    (command.run shopFiles).run.run = .ok (.report ⟨[], [problem]⟩) ∧
    lines ("error: " ++ problem.render ++ "\n") <:+: lines (run shopFiles quietly).run.stdout := by
  intro quietly fully command problem
  have parsed : Invocation.parse quietly = .command command ⟨.text, true, false⟩ := by cbv
  have parsedFully : Invocation.parse fully = .command command ⟨.text, false, false⟩ := by cbv
  have without : Invocation.Without .quiet quietly fully :=
    .keep (by decide) (.leave .quiet (.same _))
  have reads : Command.Reads shopFiles ⟨some "shop.json", ["lost.txt"]⟩ none "shop.json"
      ["lost.txt"] shopWorld := ⟨rfl, List.cons_ne_nil _ _, reads_shop.world⟩
  have loaded : (Specification.load shopFiles.read ["lost.txt"]).run = ⟨[], [problem]⟩ := by
    decide +kernel
  have answers : (command.run shopFiles).run.run = .ok (.report ⟨[], [problem]⟩) := by
    have reported :
        Command.report shopWorld shopLibrary "shop.json" ⟨[], [problem]⟩ = ⟨[], [problem]⟩ := by cbv
    rw [Command.run_check reads adapterLibrary_shop, loaded, reported]
  obtain ⟨same, alike, told⟩ := run_noninterference shopFiles parsed
  obtain ⟨other, parsedOther, _⟩ := same _ _ without
  obtain rfl : other = ⟨.text, false, false⟩ := by
    cases parsedFully.symm.trans parsedOther
    rfl
  obtain ⟨status, _, sublist⟩ := alike _ _ parsedOther
  exact ⟨⟨parsed, without⟩, parsedOther, status, sublist rfl rfl rfl, answers,
    told rfl _ _ answers (@Answer.Tells.diagnostic ⟨[], [problem]⟩ problem (by simp))⟩

end Output

end AdapterWiring
