import SimpleSentence.Proofs.Fatal
import SimpleSentence.Proofs.Json.Legible
import SimpleSentence.Proofs.Report.ErrorLine

/-!
The four views of a text: its tag table, the table for machines, the report and the
report for machines. They are printed by different commands, yet they come from one
analysis: both tables list the same words and categories, the report is the table
with the verdict below it, and the verdict, the exit code and the report for machines
tell the same of the text, down to the message of the error. For a text that is not
narrow there are the views for machines alone.
-/

namespace SimpleSentence

/-! ### What is read from a value -/

def Category.ofName? (name : Text) : Option Category :=
  all.find? fun category => category.name == name

theorem Category.ofName?_name (category : Category) : ofName? category.name = some category := by
  cases category <;> decide

namespace Json

/-- The value of the first member of a name. -/
def member? (name : Text) : Json → Option Json
  | object members => (members.find? fun member => member.1 == name).map Prod.snd
  | bool _ | number _ | text _ | array _ => none

/-- The word and the category of a token. -/
def listed? (token : Json) : Option (Text × Category) :=
  match token.member? "text".toList, token.member? "pos".toList with
  | some (.text word), some (.text name) =>
      (Category.ofName? name).map fun category => (word, category)
  | _, _ => none

theorem listed?_token (token : Token) :
    token.json.listed? = some (token.text, token.category) := by
  have text : token.json.member? "text".toList = some (.text token.text) := rfl
  have category : token.json.member? "pos".toList = some (.text token.category.name) := rfl
  rw [listed?, text, category]
  simp only [Category.ofName?_name, Option.map_some]

end Json

/-! ### What comes of a command -/

/-- The value is what is printed, and no other value is. -/
def Outcome.Prints (outcome : Outcome) (json : Json) : Prop :=
  ∀ other : Json, outcome.output = other.write ++ ['\n'] ↔ other = json

theorem Outcome.prints_of_output {outcome : Outcome} {json : Json}
    (printed : outcome.output = json.write ++ ['\n']) : outcome.Prints json := by
  intro other
  constructor
  · intro same
    exact Json.write_injective (List.append_cancel_right (same.symm.trans printed))
  · rintro rfl
    exact printed

/-- What comes of a command on a text, however the command was given the text and the lexicon, in
a form for machines or for readers, the latter without colours. -/
inductive ViewOf (lexicon : Lexicon) (text : Text) (command : Reading → Task) (json : Bool) :
    Outcome → Prop where
  | performed {setting : Setting} {host : Host} {reading : Reading} {path : Option Text}
      {verbosity : Nat} (read : setting.loadTextOn host reading.text reading.file = .ok text)
      (loaded : setting.loadLexiconOn host path = .ok lexicon) (form : reading.json = json)
      (plain : json = true ∨ setting.palette reading.colour = .colourless) :
      ViewOf lexicon text command json (setting.performOn host ⟨command reading, path, verbosity⟩)

/-- The command ended with this code and printed this text, and no message. -/
structure Outcome.Printed (outcome : Outcome) (exitCode : Nat) (output : Text) : Prop where
  exitCode : outcome.exitCode = exitCode
  output : outcome.output = output
  errors : outcome.errors = []

theorem Setting.printed_some (setting : Setting) (exitCode : Nat) (output : Text) :
    (setting.print exitCode (some output)).Printed exitCode output := ⟨rfl, rfl, rfl⟩

theorem Setting.printed_none (setting : Setting) (exitCode : Nat) :
    (setting.print exitCode none).Printed 101 [] := ⟨rfl, rfl, rfl⟩

/-- The code that tells whether a text was accepted. -/
def Analysis.exitCode (analysis : Analysis) : Nat := if analysis.isAccepted then 0 else 1

section ViewOf

variable {lexicon : Lexicon} {text : Text} {json : Bool} {outcome : Outcome}

theorem ViewOf.tag (view : ViewOf lexicon text .tag json outcome) :
    ∃ setting : Setting, outcome = setting.print 0
      (if json then some ((Report.tokensJson (lexicon.tag text).words).write ++ ['\n'])
      else Report.tagTable? .colourless (lexicon.tag text).words) := by
  cases view with
  | @performed setting host reading path verbosity read loaded form plain =>
      refine ⟨setting, (Setting.withSentence_ok read loaded _).trans ?_⟩
      rw [form]
      cases json with
      | true => rfl
      | false => rw [plain.resolve_left Bool.false_ne_true]

theorem ViewOf.parse (view : ViewOf lexicon text .parse json outcome) :
    ∃ setting : Setting, outcome = setting.print (lexicon.analyse text).exitCode
      (if json then some ((Report.json (lexicon.analyse text)).write ++ ['\n'])
      else Report.ofAnalysis? .colourless (lexicon.analyse text)) := by
  cases view with
  | @performed setting host reading path verbosity read loaded form plain =>
      refine ⟨setting, (Setting.withSentence_ok read loaded _).trans ?_⟩
      rw [form]
      cases json with
      | true => rfl
      | false =>
          rw [plain.resolve_left Bool.false_ne_true]
          rfl

theorem ViewOf.array (view : ViewOf lexicon text .tag true outcome) :
    outcome.Printed 0 ((Report.tokensJson (lexicon.tag text).words).write ++ ['\n']) := by
  obtain ⟨setting, rfl⟩ := view.tag
  exact setting.printed_some 0 _

theorem ViewOf.object (view : ViewOf lexicon text .parse true outcome) :
    outcome.Printed (lexicon.analyse text).exitCode
      ((Report.json (lexicon.analyse text)).write ++ ['\n']) := by
  obtain ⟨setting, rfl⟩ := view.parse
  exact setting.printed_some _ _

section Table

variable {rows : Text} (made : Report.tagTable? .colourless (lexicon.tag text).words = some rows)
include made

theorem ViewOf.table (view : ViewOf lexicon text .tag false outcome) : outcome.Printed 0 rows := by
  obtain ⟨setting, rfl⟩ := view.tag
  rw [made]
  exact setting.printed_some 0 rows

theorem ViewOf.report (view : ViewOf lexicon text .parse false outcome) :
    outcome.Printed (lexicon.analyse text).exitCode
      (rows ++ '\n' :: Report.verdict .colourless (lexicon.analyse text)) := by
  obtain ⟨setting, rfl⟩ := view.parse
  rw [Report.ofAnalysis?_eq_some lexicon made]
  exact setting.printed_some _ _

end Table

section Wide

variable (wide : ¬ text.Narrow)
include wide

theorem ViewOf.no_table (view : ViewOf lexicon text .tag false outcome) :
    outcome.Printed 101 [] := by
  obtain ⟨setting, rfl⟩ := view.tag
  rw [(Report.tagTable?_eq_none_iff lexicon .colourless).mpr wide]
  exact setting.printed_none 0

theorem ViewOf.no_report (view : ViewOf lexicon text .parse false outcome) :
    outcome.Printed 101 [] := by
  obtain ⟨setting, rfl⟩ := view.parse
  rw [(Report.ofAnalysis?_eq_none_iff lexicon .colourless).mpr wide]
  exact setting.printed_none _

end Wide

end ViewOf

/-! ### The views of one text -/

def acceptedLine : Text := "accepted".toList

def rejectedLine : Text := "rejected".toList

/-- What is printed for machines: `parse` repeats the tokens that `tag` prints, and tells the
verdict by its members as it does by its exit code. -/
structure MachinesAgree (array object : Outcome) (view : Json) (tokens : List Json) : Prop where
  printed : array.Prints (.array tokens)
  repeated : view.member? "tokens".toList = some (.array tokens)
  accepted : object.exitCode = 0 ↔ view.member? "accepted".toList = some (.bool true)
  tree : object.exitCode = 0 ↔
    (view.member? "tree".toList).isSome = true ∧ view.member? "error".toList = none
  rejected : object.exitCode ≠ 0 → object.exitCode = 1

/-- The table lists the words and categories of the tokens. -/
def Lists (table : Outcome) (tokens : List Json) : Prop :=
  ∃ listing : List (Text × Category), tokens.map Json.listed? = listing.map some ∧
    (Text.linesOf table.output).tail.map Report.listed? = listing.map some

/-- The report for readers is the table, an empty line, the line of the verdict and what stands
below it; the value printed for machines and both exit codes tell the same verdict. -/
structure VerdictAgrees (table report object : Outcome) (view : Json) (line below : Text) :
    Prop where
  printed : report.output = table.output ++ '\n' :: (line ++ '\n' :: below)
  oneLine : '\n' ∉ line
  accepted : line = acceptedLine ↔ view.member? "accepted".toList = some (.bool true)
  tree : line = acceptedLine ↔
    (view.member? "tree".toList).isSome = true ∧ view.member? "error".toList = none
  exits : line = acceptedLine ↔ report.exitCode = 0
  exitsAlike : object.exitCode = report.exitCode
  rejected : line ≠ acceptedLine → line = rejectedLine ∧ report.exitCode = 1 ∧
    view.member? "tree".toList = none ∧
    ∃ error message, view.member? "error".toList = some error ∧
      error.member? "message".toList = some (.text message) ∧
      Report.errorLine? report.output = some (errorMark ++ message ++ ['\n'])

section Agree

variable {lexicon : Lexicon} {text : Text} {table array report object : Outcome}
  (ofTable : ViewOf lexicon text .tag false table) (ofArray : ViewOf lexicon text .tag true array)
  (ofReport : ViewOf lexicon text .parse false report)
  (ofObject : ViewOf lexicon text .parse true object)

theorem json_of_accepted {tree : Tree} (parsed : lexicon.parse text = .ok tree) :
    Report.json (lexicon.analyse text) = .object
        [("accepted".toList, .bool true),
          ("tokens".toList, Report.tokensJson (lexicon.analyse text).tagged.words),
          ("tree".toList, tree.json)] ∧ (lexicon.analyse text).exitCode = 0 := by
  have outcome : (lexicon.analyse text).outcome = .ok tree := parsed
  have isAccepted := (lexicon.isAccepted_iff text).mpr ⟨tree, parsed⟩
  rw [Report.json, Analysis.exitCode, isAccepted, outcome]
  exact ⟨rfl, rfl⟩

theorem json_of_rejected {error : ParseError} (failed : lexicon.parse text = .error error) :
    Report.json (lexicon.analyse text) = .object
        [("accepted".toList, .bool false),
          ("tokens".toList, Report.tokensJson (lexicon.analyse text).tagged.words),
          ("error".toList, error.json)] ∧ (lexicon.analyse text).exitCode = 1 := by
  have outcome : (lexicon.analyse text).outcome = .error error := failed
  have notAccepted : (lexicon.analyse text).isAccepted = false := by
    rw [Analysis.isAccepted, outcome]
  rw [Report.json, Analysis.exitCode, notAccepted, outcome]
  exact ⟨rfl, rfl⟩

include ofArray ofObject in
theorem machines_agree :
    MachinesAgree array object (Report.json (lexicon.analyse text))
      ((lexicon.tag text).words.map Token.json) := by
  have printed := Outcome.prints_of_output ofArray.array.output
  have exits := ofObject.object.exitCode
  cases parsed : lexicon.parse text with
  | ok tree =>
      obtain ⟨view, accepts⟩ := json_of_accepted parsed
      rw [accepts] at exits
      rw [view]
      exact ⟨printed, rfl, iff_of_true exits rfl, iff_of_true exits ⟨rfl, rfl⟩,
        fun other => absurd exits other⟩
  | error error =>
      obtain ⟨view, rejects⟩ := json_of_rejected parsed
      rw [rejects] at exits
      have notZero : object.exitCode ≠ 0 := by
        rw [exits]
        exact Nat.one_ne_zero
      rw [view]
      exact ⟨printed, rfl,
        iff_of_false notZero fun same => Bool.false_ne_true (Json.bool.inj (Option.some.inj same)),
        iff_of_false notZero fun both => Bool.false_ne_true both.1, fun _ => exits⟩

section Narrow

variable {rows : Text} (made : Report.tagTable? .colourless (lexicon.tag text).words = some rows)
include made

include ofTable in
theorem lists_tokens : Lists table ((lexicon.tag text).words.map Token.json) := by
  have isWord : ∀ token ∈ (lexicon.tag text).words, token.text.IsWord :=
    fun token member => Lexicon.isWord_of_mem_tag member
  obtain ⟨header, rows, lines, listed, _⟩ := Report.linesOf_tagTable isWord made []
  refine ⟨(lexicon.tag text).words.map fun token => (token.text, token.category), ?_, ?_⟩
  · rw [List.map_map, List.map_map]
    exact List.map_congr_left fun token _ => Json.listed?_token token
  · rw [List.append_nil, Text.linesOf, List.append_nil] at lines
    rw [(ofTable.table made).output, lines, List.tail_cons, listed, List.map_map]
    rfl

include ofTable ofReport in
theorem report_eq : report.output =
    table.output ++ '\n' :: Report.verdict .colourless (lexicon.analyse text) := by
  rw [(ofTable.table made).output, (ofReport.report made).output]

include ofTable ofReport ofObject in
theorem verdict_of_accepted {tree : Tree} (parsed : lexicon.parse text = .ok tree) :
    VerdictAgrees table report object (Report.json (lexicon.analyse text)) acceptedLine
      (tree.outline ++ ['\n']) := by
  have outcome : (lexicon.analyse text).outcome = .ok tree := parsed
  obtain ⟨view, code⟩ := json_of_accepted parsed
  have exits : report.exitCode = 0 := (ofReport.report made).exitCode.trans code
  have exitsToo : object.exitCode = 0 := ofObject.object.exitCode.trans code
  constructor
  · rw [report_eq ofTable ofReport made, Report.verdict, outcome]
    rfl
  · decide
  · rw [view]
    exact iff_of_true rfl rfl
  · rw [view]
    exact iff_of_true rfl ⟨rfl, rfl⟩
  · exact iff_of_true rfl exits
  · rw [exits, exitsToo]
  · exact fun other => absurd rfl other

include ofTable ofReport ofObject in
theorem verdict_of_rejected {error : ParseError} (failed : lexicon.parse text = .error error) :
    ∃ below, VerdictAgrees table report object (Report.json (lexicon.analyse text)) rejectedLine
      below := by
  obtain ⟨view, code⟩ := json_of_rejected failed
  have exits : report.exitCode = 1 := (ofReport.report made).exitCode.trans code
  have exitsToo : object.exitCode = 1 := ofObject.object.exitCode.trans code
  have different : rejectedLine ≠ acceptedLine := by decide
  obtain ⟨below, verdict⟩ := Report.verdict_rejected failed
  refine ⟨errorMark ++ error.message ++ '\n' :: below, ?_, ?_, ?_, ?_, ?_, ?_, ?_⟩
  · rw [report_eq ofTable ofReport made, verdict]
    rfl
  · decide
  · rw [view]
    exact iff_of_false different fun same =>
      Bool.false_ne_true (Json.bool.inj (Option.some.inj same))
  · rw [view]
    exact iff_of_false different fun both => Bool.false_ne_true both.1
  · rw [exits]
    exact iff_of_false different Nat.one_ne_zero
  · rw [exits, exitsToo]
  · intro _
    rw [view]
    refine ⟨rfl, exits, rfl, error.json, error.message, rfl, rfl, ?_⟩
    rw [(ofReport.report made).output]
    exact Report.errorLine?_report failed made

include ofTable ofReport ofObject in
theorem verdict_agrees :
    ∃ line below, VerdictAgrees table report object (Report.json (lexicon.analyse text)) line
      below := by
  cases parsed : lexicon.parse text with
  | ok tree => exact ⟨_, _, verdict_of_accepted ofTable ofReport ofObject made parsed⟩
  | error error => exact ⟨_, verdict_of_rejected ofTable ofReport ofObject made parsed⟩

end Narrow

include ofTable ofReport in
/-- The views for readers end without a message, be there a table or not. -/
theorem errors_of_readers : table.errors = [] ∧ report.errors = [] := by
  by_cases narrow : text.Narrow
  · obtain ⟨rows, made⟩ := Report.exists_tagTable lexicon .colourless narrow
    exact ⟨(ofTable.table made).errors, (ofReport.report made).errors⟩
  · exact ⟨(ofTable.no_table narrow).errors, (ofReport.no_report narrow).errors⟩

include ofTable ofArray ofReport ofObject in
/-- However the four commands are given one text and one lexicon, none of them writes a message and
the views for machines agree. If the text is narrow, `tag` ends well and all views agree on the
tokens and on the verdict. If it is not, the views for readers break off with nothing printed. -/
theorem four_views_agree :
    (∀ outcome ∈ [table, array, report, object], outcome.errors = []) ∧ array.exitCode = 0 ∧
      ∃ view tokens, object.Prints view ∧ MachinesAgree array object view tokens ∧
        (text.Narrow → table.exitCode = 0 ∧ Lists table tokens ∧
          ∃ line below, VerdictAgrees table report object view line below) ∧
        (¬ text.Narrow → ∀ outcome ∈ [table, report],
          outcome.exitCode = 101 ∧ outcome.output = []) := by
  obtain ⟨tableSilent, reportSilent⟩ := errors_of_readers ofTable ofReport
  refine ⟨?_, ofArray.array.exitCode, _, _, Outcome.prints_of_output ofObject.object.output,
    machines_agree ofArray ofObject, ?_, ?_⟩
  · simp only [List.forall_mem_cons]
    exact ⟨tableSilent, ofArray.array.errors, reportSilent, ofObject.object.errors, nofun⟩
  · intro narrow
    obtain ⟨rows, made⟩ := Report.exists_tagTable lexicon .colourless narrow
    exact ⟨(ofTable.table made).exitCode, lists_tokens ofTable made,
      verdict_agrees ofTable ofReport ofObject made⟩
  · intro wide
    have noTable := ofTable.no_table wide
    have noReport := ofReport.no_report wide
    simp only [List.forall_mem_cons]
    exact ⟨⟨noTable.exitCode, noTable.output⟩, ⟨noReport.exitCode, noReport.output⟩, nofun⟩

end Agree

-- One sentence on the command line, in a file and on the standard input, and a lexicon for it.
def itAte : Setting :=
  { disk :=
      { files :=
          [⟨["a.csv".toList], Utf8.encode "word,pos\nate,v.\n".toList⟩,
            ⟨["t.txt".toList], Utf8.encode "It ate".toList⟩]
        folders := []
        current := [] }
    input := Utf8.encode "It ate".toList
    onTerminal := true }

def itAteOutcome (command : Reading → Task) (reading : Reading) : Outcome :=
  itAte.performOn .sound ⟨command reading, some "a.csv".toList, 0⟩

def inWords (json : Bool) (colour : ColourChoice) : Reading :=
  ⟨some "It ate".toList, none, json, colour⟩

def inFile (path : Text) (json : Bool) (colour : ColourChoice) : Reading :=
  ⟨none, some path, json, colour⟩

theorem itAte_views_agree :
    Text.Narrow "It ate".toList ∧ ∃ view tokens line below,
      (itAteOutcome .parse (inWords true .always)).Prints view ∧
        MachinesAgree (itAteOutcome .tag (inFile "t.txt".toList true .automatic))
          (itAteOutcome .parse (inWords true .always)) view tokens ∧
        Lists (itAteOutcome .tag (inWords false .never)) tokens ∧
        VerdictAgrees (itAteOutcome .tag (inWords false .never))
          (itAteOutcome .parse (inFile ['-'] false .never))
          (itAteOutcome .parse (inWords true .always)) view line below := by
  have loaded : itAte.loadLexiconOn .sound (some "a.csv".toList) =
      .ok ⟨[⟨"ate".toList, "v.".toList, .verb⟩]⟩ := by decide +kernel
  have inTextFile : itAte.loadTextOn .sound none (some "t.txt".toList) = .ok "It ate".toList := by
    decide +kernel
  have onInput : itAte.loadTextOn .sound none (some ['-']) = .ok "It ate".toList := by
    decide +kernel
  have table := @ViewOf.performed _ _ Task.tag false _ _ (inWords false .never) _ 0 rfl loaded rfl
    (.inr rfl)
  have array := @ViewOf.performed _ _ Task.tag true _ _ (inFile "t.txt".toList true .automatic) _ 0
    inTextFile loaded rfl (.inl rfl)
  have report := @ViewOf.performed _ _ Task.parse false _ _ (inFile ['-'] false .never) _ 0 onInput
    loaded rfl (.inr rfl)
  have object := @ViewOf.performed _ _ Task.parse true _ _ (inWords true .always) _ 0 rfl loaded rfl
    (.inl rfl)
  have narrow : Text.Narrow "It ate".toList := by decide
  obtain ⟨_, _, view, tokens, printed, machines, readers, _⟩ :=
    four_views_agree table array report object
  obtain ⟨_, lists, line, below, verdict⟩ := readers narrow
  exact ⟨narrow, view, tokens, line, below, printed, machines, lists, verdict⟩

/-- There are texts for which the views for readers are missing. -/
theorem longWord_views_missing :
    ∃ table report, ViewOf Lexicon.starter Report.longWord .tag false table ∧
      ViewOf Lexicon.starter Report.longWord .parse false report ∧
      table.exitCode = 101 ∧ report.exitCode = 101 ∧ table.output = [] ∧ report.output = [] := by
  have table := @ViewOf.performed Lexicon.starter Report.longWord Task.tag false itAte .sound
    ⟨some Report.longWord, none, false, .never⟩ none 0 rfl rfl rfl (.inr rfl)
  have report := @ViewOf.performed Lexicon.starter Report.longWord Task.parse false itAte .sound
    ⟨some Report.longWord, none, false, .never⟩ none 0 rfl rfl rfl (.inr rfl)
  have noTable := table.no_table Report.not_narrow_longWord
  have noReport := report.no_report Report.not_narrow_longWord
  exact ⟨_, _, table, report, noTable.exitCode, noReport.exitCode, noTable.output, noReport.output⟩

end SimpleSentence
