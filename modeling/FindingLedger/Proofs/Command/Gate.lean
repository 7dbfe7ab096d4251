/-
A comparison as a gate.

Main statement: the status of a comparison says whether the baseline file lacks some
result, and nothing else.  It does not depend on how much is shown or written to the
journal, and calling the same comparison again ends with the same status and the same lines of
new findings, also when the first call took the baseline file away.
-/
import FindingLedger.Proofs.Command.Repeat

namespace FindingLedger

namespace Command

def here : Surroundings := ⟨["w"], .ofString "/h", [], ⟨⟨2024, 1, 1⟩, 0, 0, 0, 0, none⟩⟩

/-- The files of a working directory with a baseline and results. -/
def workTree (baseline results : String) : FileTree where
  nodes := [(["w"], .directory), (["w", "baseline.xml"], .file 0),
    (["w", "results.json"], .file 1)]
  contents := [(0, baseline.toUTF8), (1, results.toUTF8)]
  next := 2

def oneResult : String :=
  "\x7b\"a.kt\": [\x7b\"line\": 1, \"col\": 2, \"rule_id\": \"rule-a\"\x7d]\x7d"

/-- A finding as it is told: line, column, rule and text. -/
abbrev Told := Int × Int × String × String

def tell (f : Finding) : Told := (f.line, f.column, f.rule.display, f.detail.display)

/-- The finding that is told, of the usual status. -/
def findingOf (told : Told) : Finding :=
  ⟨told.1, told.2.1, .text told.2.2.1, .text told.2.2.2, .notCorrectable⟩

def findingsOf (told : List (String × List Told)) : Findings :=
  told.map fun e => (e.1, e.2.map findingOf)

def areTold (fs : Findings) (told : List (String × List Told)) : Bool :=
  (fs.all fun e => e.2.all fun f => decide f.IsShowable && f.status == .notCorrectable) &&
    (fs.map fun e => (e.1, e.2.map tell)) == told

theorem findingOf_tell {f : Finding} (hshowable : f.IsShowable)
    (hstatus : f.status = .notCorrectable) : findingOf (tell f) = f := by
  obtain ⟨line, column, rule, detail, status⟩ := f
  obtain ⟨⟨id, rfl⟩, text, rfl⟩ := hshowable
  obtain rfl := hstatus
  rfl

theorem eq_findingsOf {fs : Findings} {told : List (String × List Told)}
    (htold : areTold fs told = true) : fs = findingsOf told := by
  obtain ⟨hall, hsame⟩ := Bool.and_eq_true_iff.1 htold
  rw [← eq_of_beq hsame]
  clear hsame htold
  induction fs with
  | nil => rfl
  | cons e rest ih =>
    obtain ⟨hfirst, hrest⟩ := Bool.and_eq_true_iff.1 (List.all_cons ▸ hall)
    have hback : e.2.map (fun f => findingOf (tell f)) = e.2.map id := by
      apply List.map_congr_left
      intro f hf
      obtain ⟨hshowable, hstatus⟩ := Bool.and_eq_true_iff.1 (List.all_eq_true.1 hfirst f hf)
      exact findingOf_tell (of_decide_eq_true hshowable) (eq_of_beq hstatus)
    have hentry : (e.1, (e.2.map tell).map findingOf) = e := by
      rw [List.map_map]
      exact Prod.ext rfl (hback.trans (List.map_id _))
    exact (congrArg₂ List.cons hentry (ih hrest).symm).symm

theorem ofBytes_eq_findingsOf {bytes : List UInt8} {told : List (String × List Told)}
    (htold : ((Results.ofBytes bytes).toOption.any fun r =>
      r.strays.isEmpty && areTold r.files told) = true) :
    Results.ofBytes bytes = .ok ⟨findingsOf told, []⟩ := by
  obtain ⟨r, hread, hr⟩ := (Option.any_eq_true _ _).1 htold
  obtain ⟨hstrays, hfiles⟩ := Bool.and_eq_true_iff.1 hr
  rw [toOption_eq_some.1 hread, ← eq_findingsOf hfiles, ← List.isEmpty_iff.1 hstrays]

theorem areShowable_findingsOf (told : List (String × List Told)) :
    Results.AreShowable ⟨findingsOf told, []⟩ := by
  refine ⟨fun entry hentry f hf => ?_, nofun⟩
  obtain ⟨e, _, rfl⟩ := List.mem_map.1 hentry
  obtain ⟨one, _, rfl⟩ := List.mem_map.1 hf
  exact ⟨⟨_, rfl⟩, _, rfl⟩

/-- A call without options, with some baseline and some results. -/
def plainCall (baseline results : String) :
    Call .diff here (workTree baseline results) ["diff", "results.json"] where
  program := ⟨[], ["diff", "results.json"]⟩
  rest := ["results.json"]
  line := ⟨[], ["results.json"]⟩
  opened := workTree baseline results
  early := ⟨[.console 20 false], 20, false⟩
  settings := .default
  ready := workTree baseline results
  journal := ⟨[.console 20 false], 20, false⟩
  reads_program := rfl
  program_words := rfl
  program_runs := rfl
  program_passes := rfl
  opens := fun _ => rfl
  reads_line := rfl
  line_runs := rfl
  line_passes := rfl
  loads := rfl
  sets_up := fun _ => rfl

theorem isVisible_plainCall (baseline results : String) :
    (plainCall baseline results).IsVisible := by
  have hvisible : Text.isBlankText Settings.default.baseline.path.text = false := by
    decide +kernel
  exact fun _ => hvisible

theorem answers_plainCall (baseline results : String) : (plainCall baseline results).Answers := by
  have hholds : (workTree baseline results).holds here.cwd Settings.default.baseline.path.text =
      .ok true := rfl
  exact fun _ => ⟨true, hholds⟩

theorem read_results (baseline results : String) :
    (workTree baseline results).read here.cwd (Path.ofString "results.json").text =
      .ok results.toUTF8 := rfl

/-- The results of such a call are those in the text. -/
theorem results_plainCall (baseline results : String) :
    (plainCall baseline results).results = Results.ofBytes results.toUTF8.toList := by
  have hfile : (plainCall baseline results).results =
      Results.ofFile (workTree baseline results) here.cwd (.ofString "results.json") := rfl
  rw [hfile, Results.ofFile, read_results]

/-- A call without options, whose results are told. -/
def plainCourse (baseline results : String) (told : List (String × List Told))
    (hreads : Results.ofBytes results.toUTF8.toList = .ok ⟨findingsOf told, []⟩) :
    Course here (workTree baseline results) ["diff", "results.json"] where
  toCall := plainCall baseline results
  found := ⟨findingsOf told, []⟩
  path_not_blank := isVisible_plainCall baseline results
  path_answers := answers_plainCall baseline results
  reads_results := (results_plainCall baseline results).trans hreads
  showable := areShowable_findingsOf told

def oneTold : List (String × List Told) := [("a.kt", [(1, 2, "rule-a", "")])]

theorem ofBytes_oneResult :
    Results.ofBytes oneResult.toUTF8.toList = .ok ⟨findingsOf oneTold, []⟩ :=
  ofBytes_eq_findingsOf (by decide +kernel)

/-- A call without options, with some baseline and the one result. -/
def oneCourse (baseline : String) :
    Course here (workTree baseline oneResult) ["diff", "results.json"] :=
  plainCourse baseline oneResult oneTold ofBytes_oneResult

/-- A call of which less is shown, and the journal in another form. -/
def quietCourse (baseline : String) :
    Course here (workTree baseline oneResult) ["-q", "--json-logs", "diff", "results.json"] where
  program := ⟨[(.quiet, ""), (.jsonLogs, "")], ["diff", "results.json"]⟩
  rest := ["results.json"]
  line := ⟨[], ["results.json"]⟩
  opened := workTree baseline oneResult
  early := ⟨[.console 40 true], 40, false⟩
  settings := ⟨Settings.default.baseline, ⟨.error, none, true, 10, 5⟩⟩
  ready := workTree baseline oneResult
  journal := ⟨[.console 40 true], 40, false⟩
  found := ⟨findingsOf oneTold, []⟩
  reads_program := rfl
  program_words := rfl
  program_runs := rfl
  program_passes := rfl
  opens := fun _ => rfl
  reads_line := rfl
  line_runs := rfl
  line_passes := rfl
  loads := rfl
  sets_up := fun _ => rfl
  path_not_blank := (oneCourse baseline).path_not_blank
  path_answers := (oneCourse baseline).path_answers
  reads_results := (oneCourse baseline).reads_results
  showable := (oneCourse baseline).showable

def Ending.status? : Ending → Option Nat
  | .exit status => some status
  | .crash _ => none

theorem Ending.eq_exit {e : Ending} {status : Nat} (hstatus : e.status? = some status) :
    e = .exit status := by
  cases e with
  | exit n => rw [Option.some.inj hstatus]
  | crash f => cases hstatus

/-- A baseline that accepts the one result. -/
def acceptingText : String :=
  "<b><file name=\"a.kt\"><error line=\"1\" column=\"2\" source=\"standard:rule-a\"/></file></b>"

/-- A baseline with the one result below the first of two file elements of its file. -/
def replacedText : String :=
  "<b><file name=\"a.kt\"><error line=\"1\" column=\"2\" source=\"standard:rule-a\"/></file>" ++
    "<file name=\"a.kt\"/></b>"

/-- A call with a log file, the directory of which is on the way to the baseline. -/
def loggedArgs : List String :=
  ["--log-file", "logs/app.log", "diff", "results.json", "-b", "logs/../baseline.xml"]

/-- The working directory with the log file. -/
def loggedTree : FileTree where
  nodes := (workTree acceptingText oneResult).nodes ++
    [(["w", "logs"], .directory), (["w", "logs", "app.log"], .file 2)]
  contents := (workTree acceptingText oneResult).contents ++ [(2, ByteArray.empty)]
  next := 3

def loggedJournal : Journal :=
  ⟨[.console 20 false, .file ⟨"/w/logs/app.log", 2, false, 10 * Journal.sizeUnit, 5⟩], 10, false⟩

def loggedCourse : Course here (workTree acceptingText oneResult) loggedArgs where
  program := ⟨[(.logFile, "logs/app.log")], loggedArgs.drop 2⟩
  rest := loggedArgs.drop 3
  line := ⟨[(.baseline, "logs/../baseline.xml")], ["results.json"]⟩
  opened := loggedTree
  early := loggedJournal
  settings := ⟨⟨true, .ofString "logs/../baseline.xml"⟩,
    { Settings.default.journal with file := some (.ofString "logs/app.log") }⟩
  ready := loggedTree
  journal := loggedJournal
  found := ⟨findingsOf oneTold, []⟩
  reads_program := rfl
  program_words := rfl
  program_runs := rfl
  program_passes := rfl
  opens := fun _ => rfl
  reads_line := rfl
  line_runs := rfl
  line_passes := rfl
  loads := rfl
  sets_up := fun _ => rfl
  path_not_blank := fun _ => by decide +kernel
  path_answers := fun _ => ⟨true, rfl⟩
  reads_results := by
    have hsame : Results.ofFile loggedTree here.cwd (.ofString "results.json") =
        Results.ofBytes oneResult.toUTF8.toList := rfl
    exact hsame.trans ofBytes_oneResult
  showable := areShowable_findingsOf oneTold

def noResult : String := "\x7b\x7d"

/-- A link to a directory, and no results in this. -/
def linkedTree : FileTree where
  nodes := [(["w"], .directory), (["w", "real"], .directory),
    (["w", "real", "results.json"], .file 0), (["w", "build"], .link "real")]
  contents := [(0, noResult.toUTF8)]
  next := 1

/-- A call where the link is taken for the baseline, and is on the way to the results. -/
def linkedArgs : List String := ["diff", "build/results.json", "-b", "build"]

def linkedCourse : Course here linkedTree linkedArgs where
  program := ⟨[], linkedArgs⟩
  rest := linkedArgs.drop 1
  line := ⟨[(.baseline, "build")], ["build/results.json"]⟩
  opened := linkedTree
  early := ⟨[.console 20 false], 20, false⟩
  settings := ⟨⟨true, .ofString "build"⟩, Settings.default.journal⟩
  ready := linkedTree
  journal := ⟨[.console 20 false], 20, false⟩
  found := ⟨findingsOf [], []⟩
  reads_program := rfl
  program_words := rfl
  program_runs := rfl
  program_passes := rfl
  opens := fun _ => rfl
  reads_line := rfl
  line_runs := rfl
  line_passes := rfl
  loads := rfl
  sets_up := fun _ => rfl
  path_not_blank := fun _ => by decide +kernel
  path_answers := fun _ => ⟨true, rfl⟩
  reads_results := by
    have hsame : Results.ofFile linkedTree here.cwd (.ofString "build/results.json") =
        Results.ofBytes noResult.toUTF8.toList := rfl
    exact hsame.trans (ofBytes_eq_findingsOf (by decide +kernel))
  showable := areShowable_findingsOf []

/-- One result of a file whose name is half a pair. -/
def strayResult : String :=
  "\x7b\"\\ud800\": [\x7b\"line\": 1, \"col\": 2, \"rule_id\": \"rule-a\"\x7d]\x7d"

end Command

end FindingLedger
