/-
The lines of new findings.

A comparison shows one line for each new finding, file by file in the order of their names and
within a file in the order of the results.  The line tells the file, the position, the text for
the reader and the rule as they are, but for what the marks of the console make of some texts.
-/
import FindingLedger.Proofs.Command.Gate
import FindingLedger.Proofs.Console.Shown
import FindingLedger.Proofs.Text.Numeral

namespace FindingLedger

open Markup

def Finding.positionText (f : Finding) : List Char :=
  ':' :: f.location.toList ++ [':', ' ']

def Finding.asLine (file : String) (f : Finding) : String :=
  s!"{file}:{f.location}: {f.detail.display} ({f.rule.display})"

/-- A finding of a file without characters that steer a screen. -/
structure Finding.IsSteady (file : String) (f : Finding) : Prop where
  file : ∀ c ∈ file.toList, isSteady c = true
  detail : ∀ c ∈ f.detail.display.toList, isSteady c = true
  rule : ∀ c ∈ f.rule.display.toList, isSteady c = true

/-- A finding of a file that no mark of the console changes.  In each of its texts a backslash
directly before a bracket stands before one that opens a tag, and no name of a symbol stands
between two colons, those of the position included; the file ends in one backslash at most, and
the text and the rule do not end in exactly one. -/
structure Finding.IsUnmarked (file : String) (f : Finding) : Prop where
  file_plain : IsPlain [] file.toList
  file_end : trail file.toList ≤ 1
  detail_plain : IsPlain f.positionText f.detail.display.toList
  detail_end : trail f.detail.display.toList ≠ 1
  rule_plain : IsPlain ['('] f.rule.display.toList
  rule_end : trail f.rule.display.toList ≠ 1

instance (before value : List Char) : Decidable (IsPlain before value) :=
  decidable_of_iff (_ ∧ _) ⟨fun h => ⟨h.1, h.2⟩, fun h => ⟨h.slashes, h.names⟩⟩

instance (file : String) (f : Finding) : Decidable (f.IsSteady file) :=
  decidable_of_iff (_ ∧ _ ∧ _) ⟨fun h => ⟨h.1, h.2.1, h.2.2⟩, fun h => ⟨h.file, h.detail, h.rule⟩⟩

instance (file : String) (f : Finding) : Decidable (f.IsUnmarked file) :=
  decidable_of_iff (_ ∧ _ ∧ _ ∧ _ ∧ _ ∧ _)
    ⟨fun h => ⟨h.1, h.2.1, h.2.2.1, h.2.2.2.1, h.2.2.2.2.1, h.2.2.2.2.2⟩,
      fun h => ⟨h.file_plain, h.file_end, h.detail_plain, h.detail_end, h.rule_plain, h.rule_end⟩⟩

namespace Command

variable {file : String} {f : Finding}

def markedText (file : String) (f : Finding) : String :=
  let detail := escape f.detail.display
  let rule := escape f.rule.display
  s!"[cyan]{escape file}[/]:{f.location}: {detail} [yellow]({rule})[/]"

def shownLine (file : String) (f : Finding) : String :=
  String.ofList (shown (markedText file f).toList)

theorem findingText_eq (hshowable : f.IsShowable) :
    findingText file f = .ok (markedText file f) := by
  obtain ⟨⟨rule, hrule⟩, detail, hdetail⟩ := hshowable
  rw [findingText, markedText, hrule, hdetail]
  rfl

theorem mem_location {c : Char} (hc : c ∈ f.location.toList) :
    c = '-' ∨ c = ':' ∨ c.isDigit = true := by
  have hlocation : f.location = toString f.line ++ ":" ++ toString f.column := rfl
  rw [hlocation, String.toList_append, String.toList_append, List.mem_append, List.mem_append] at hc
  rcases hc with (hc | hc) | hc
  · exact (Numeral.mem_toString hc).imp_right Or.inr
  · exact Or.inr (Or.inl (by simpa using hc))
  · exact (Numeral.mem_toString hc).imp_right Or.inr

/-- The characters of a marked text, part by part. -/
theorem toList_markedText :
    (markedText file f).toList =
      '[' :: ("cyan".toList ++ ']' :: ([] ++ (escapeTags 0 file.toList ++ (endSlash file.toList ++
        ([] ++ '[' :: ("/".toList ++ ']' :: (f.positionText ++
          (escapeTags 0 f.detail.display.toList ++ (endSlash f.detail.display.toList ++
            ([' '] ++ '[' :: ("yellow".toList ++ ']' :: (['('] ++
              (escapeTags 0 f.rule.display.toList ++ (endSlash f.rule.display.toList ++
                ([')'] ++ '[' :: ("/".toList ++ ']' :: [])))))))))))))))) := by
  simp [markedText, toList_escape, Finding.positionText, toString]

theorem of_mem_positionText {c : Char} (hc : c ∈ f.positionText) : c ≠ '\\' ∧ c ≠ '[' := by
  have hcases : c ∈ f.location.toList ∨ c = ':' ∨ c = ' ' := by
    simp only [Finding.positionText, List.cons_append, List.mem_cons, List.mem_append,
      List.not_mem_nil, or_false] at hc
    tauto
  rcases hcases with hlocation | rfl | rfl
  · rcases mem_location hlocation with rfl | rfl | hdigit
    · decide
    · decide
    · constructor
      · rintro rfl
        cases hdigit
      · rintro rfl
        cases hdigit
  · decide
  · decide

/-- A finding that no mark changes is shown as it is. -/
theorem shown_markedText (hunmarked : f.IsUnmarked file) :
    shown (markedText file f).toList = (f.asLine file).toList := by
  have hcyan (after : List Char) :
      tag? ("cyan".toList ++ ']' :: after) = some ("cyan".toList, after) :=
    tag?_append ⟨'c', "yan".toList, rfl, rfl⟩ (by decide) after
  have hyellow (after : List Char) :
      tag? ("yellow".toList ++ ']' :: after) = some ("yellow".toList, after) :=
    tag?_append ⟨'y', "ellow".toList, rfl, rfl⟩ (by decide) after
  have hend (after : List Char) : tag? ("/".toList ++ ']' :: after) = some ("/".toList, after) :=
    tag?_append ⟨'/', [], rfl, rfl⟩ (by decide) after
  rw [shown, if_pos (by simp [toList_markedText]), toList_markedText, shown_tag (hcyan _),
    shown_part (by decide) hunmarked.file_plain (.nothing hunmarked.file_end) (hend _),
    shown_part (fun d hd => of_mem_positionText hd) hunmarked.detail_plain
      (.text (by decide) (by decide) hunmarked.detail_end) (hyellow _),
    shown_part (by decide) hunmarked.rule_plain
      (.text (by decide) (by decide) hunmarked.rule_end) (hend _)]
  simp [Finding.asLine, Finding.positionText, split, Piece.shown, dropSlashes, replaceNames,
    toString]

/-! ## One line for each finding -/

theorem isSteady_location : ∀ c ∈ f.location.toList, isSteady c = true := by
  intro c hc
  rcases mem_location hc with rfl | rfl | hdigit
  · decide
  · decide
  · have hrange := Numeral.toNat_of_isDigit hdigit
    have hne (d : Char) (hd : d.toNat < 48) : c ≠ d := by
      rintro rfl
      omega
    simp [isSteady, Text.isSilent, hne]
    omega

theorem isSteady_markedText (hsteady : f.IsSteady file) :
    ∀ c ∈ (markedText file f).toList, isSteady c = true := by
  have hparts : (markedText file f).toList =
      "[cyan]".toList ++ (escape file).toList ++ "[/]:".toList ++ f.location.toList ++
        ": ".toList ++ (escape f.detail.display).toList ++ " [yellow](".toList ++
          (escape f.rule.display).toList ++ ")[/]".toList := by
    simp [markedText, toString]
  have hfixed : ∀ part ∈ ["[cyan]".toList, "[/]:".toList, ": ".toList, " [yellow](".toList,
      ")[/]".toList], ∀ c ∈ part, isSteady c = true := by decide
  rw [hparts]
  simp only [List.forall_mem_append]
  simp only [List.forall_mem_cons] at hfixed
  obtain ⟨hcyan, hend, hcolon, hyellow, hclose, _⟩ := hfixed
  exact ⟨⟨⟨⟨⟨⟨⟨⟨hcyan, isSteady_escape hsteady.file⟩, hend⟩, isSteady_location⟩, hcolon⟩,
    isSteady_escape hsteady.detail⟩, hyellow⟩, isSteady_escape hsteady.rule⟩, hclose⟩

/-- Findings that can be shown and do not steer the screen are shown one line each. -/
theorem findingLines_fst {es : List (String × Finding)}
    (hes : ∀ e ∈ es, e.2.IsShowable ∧ e.2.IsSteady e.1) :
    (findingLines es).1 = es.map fun e => shownLine e.1 e.2 := by
  induction es with
  | nil => rfl
  | cons e rest ih =>
    obtain ⟨hshowable, hsteady⟩ := hes e List.mem_cons_self
    have hrest := ih fun e he => hes e (List.mem_cons_of_mem _ he)
    rw [findingLines, findingText_eq hshowable]
    dsimp only
    rw [lines_eq (isSteady_markedText hsteady), hrest]
    rfl

/-! ## Their order -/

theorem byName_trans (a b c : String × List Finding) (hab : decide (a.1 ≤ b.1) = true)
    (hbc : decide (b.1 ≤ c.1) = true) : decide (a.1 ≤ c.1) = true :=
  decide_eq_true (String.le_trans (of_decide_eq_true hab) (of_decide_eq_true hbc))

theorem byName_total (a b : String × List Finding) :
    (decide (a.1 ≤ b.1) || decide (b.1 ≤ a.1)) = true := by
  simpa using String.le_total a.1 b.1

theorem pairwise_byName (fs : Findings) : (byName fs).Pairwise fun a b => a.1 ≤ b.1 := by
  have hsorted := List.pairwise_mergeSort byName_trans byName_total fs
  exact hsorted.imp fun hle => of_decide_eq_true hle

theorem perm_byName (fs : Findings) : (byName fs).Perm fs := List.mergeSort_perm fs _

theorem filter_byName (fs : Findings) (file : String) :
    ((byName fs).filter fun e => e.1 == file) = fs.filter fun e => e.1 == file := by
  have hsorted :
      (fs.filter fun e => e.1 == file).Pairwise fun a b => decide (a.1 ≤ b.1) = true := by
    rw [List.pairwise_filter]
    refine List.pairwise_of_forall fun a b ha hb => ?_
    rw [eq_of_beq ha, eq_of_beq hb]
    exact decide_eq_true (String.le_refl file)
  have hsublist := (List.sublist_mergeSort byName_trans byName_total hsorted
    List.filter_sublist).filter fun e => e.1 == file
  rw [List.filter_filter] at hsublist
  simp only [Bool.and_self] at hsublist
  exact (hsublist.eq_of_length ((perm_byName fs).filter _).length_eq.symm).symm

namespace Findings

theorem flatten_cons (entry : String × List Finding) (rest : Findings) :
    flatten (entry :: rest) = entry.2.map (fun f => (entry.1, f)) ++ flatten rest :=
  rfl

theorem length_flatten (fs : Findings) : (flatten fs).length = fs.count := by
  induction fs with
  | nil => rfl
  | cons entry rest ih => rw [flatten_cons, List.length_append, List.length_map, ih, Findings.count]

theorem filter_flatten (fs : Findings) (file : String) :
    ((flatten fs).filter fun e => e.1 == file) = flatten (fs.filter fun e => e.1 == file) := by
  induction fs with
  | nil => rfl
  | cons entry rest ih =>
    rw [flatten_cons, List.filter_append, ih, List.filter_map, List.filter_cons]
    by_cases hfile : entry.1 == file
    · simp [hfile, flatten_cons, Function.comp_def]
    · simp [hfile, Function.comp_def]

theorem flatten_select (fs : Findings) (keep : String → Finding → Bool) :
    flatten (fs.select keep) = (flatten fs).filter fun e => keep e.1 e.2 := by
  induction fs with
  | nil => rfl
  | cons entry rest ih =>
    rw [Findings.select_cons, flatten_cons, List.filter_append, ← ih, List.filter_map, Diff.list]
    split
    · next hempty =>
      have hnone := List.isEmpty_iff.1 hempty
      simp [Function.comp_def, hnone]
    · rw [flatten_cons]
      rfl

theorem pairwise_flatten {fs : Findings} (hfs : fs.Pairwise fun a b => a.1 ≤ b.1) :
    (flatten fs).Pairwise fun a b => a.1 ≤ b.1 := by
  rw [flatten, List.pairwise_flatMap]
  constructor
  · intro entry _
    rw [List.pairwise_map]
    exact List.pairwise_of_forall fun _ _ => String.le_refl entry.1
  · apply hfs.imp
    intro a b hle x hx y hy
    obtain ⟨_, _, rfl⟩ := List.mem_map.1 hx
    obtain ⟨_, _, rfl⟩ := List.mem_map.1 hy
    exact hle

end Findings

namespace Course

variable {s : Surroundings} {t : FileTree} {args : List String}

instance (c : Course s t args) (file : String) (f : Finding) : Decidable (c.Lists file f) :=
  decidable_of_iff _ (c.accepts_iff_lists file f)

/-- The new findings, each with its file, in the order of their lines. -/
def newEntries (c : Course s t args) : List (String × Finding) :=
  Findings.flatten (byName c.diff.fresh)

/-- The results that the baseline file does not list, in their order. -/
theorem flatten_fresh (c : Course s t args) :
    Findings.flatten c.diff.fresh =
      (Findings.flatten c.live).filter fun e => !decide (c.Lists e.1 e.2) := by
  have hfresh : c.diff.fresh = c.live.select fun file f => !decide (c.Lists file f) := by
    simp only [diff, Call.accepts_iff_lists]
  rw [hfresh, Findings.flatten_select]

theorem perm_newEntries (c : Course s t args) :
    c.newEntries.Perm (Findings.flatten c.diff.fresh) :=
  (perm_byName c.diff.fresh).flatMap_right _

theorem mem_live_of_mem_newEntries {c : Course s t args} {e : String × Finding}
    (he : e ∈ c.newEntries) : ∃ entry ∈ c.live, e.1 = entry.1 ∧ e.2 ∈ entry.2 := by
  rw [c.perm_newEntries.mem_iff, c.flatten_fresh] at he
  obtain ⟨entry, hentry, hmem⟩ := List.mem_flatMap.1 (List.mem_filter.1 he).1
  obtain ⟨f, hf, rfl⟩ := List.mem_map.1 hmem
  exact ⟨entry, hentry, rfl, hf⟩

theorem lines_eq_asLine {lines : List String} {entries : List (String × Finding)}
    (hlines : List.Forall₂ (fun line e => e.2.IsUnmarked e.1 → line = e.2.asLine e.1)
      lines entries)
    (hunmarked : ∀ e ∈ entries, e.2.IsUnmarked e.1) :
    lines = entries.map fun e => e.2.asLine e.1 := by
  induction hlines with
  | nil => rfl
  | cons hline _ ih =>
    rw [List.map_cons, hline (hunmarked _ List.mem_cons_self),
      ih fun e he => hunmarked e (List.mem_cons_of_mem _ he)]

/-- A comparison shows one line for each new finding, between those on the settings and the
baseline and the one with the counts.  The lines are in the order of the names of the files, and
for one file in the order of the results; there are none for what the baseline lists.  A finding
that no mark of the console changes is shown as it is. -/
theorem shows_new (c : Course s t args)
    (hsteady : ∀ entry ∈ c.live, ∀ f ∈ entry.2, f.IsSteady entry.1) :
    (∀ p : Progress, p.tree = t → (run s p args).1.shown =
      p.shown ++ (c.warningLines ++ c.stateLines ++ c.newLines ++ c.countLines)) ∧
    List.Forall₂ (fun line e => e.2.IsUnmarked e.1 → line = e.2.asLine e.1)
      c.newLines c.newEntries ∧
    c.newEntries.Pairwise (fun a b => a.1 ≤ b.1) ∧
    (∀ file, (c.newEntries.filter fun e => e.1 == file) =
      (Findings.flatten c.live).filter fun e => e.1 == file && !decide (c.Lists e.1 e.2)) ∧
    c.newLines.length = c.diff.freshCount := by
  have hlines : c.newLines = c.newEntries.map fun e => shownLine e.1 e.2 := by
    apply findingLines_fst
    intro e he
    obtain ⟨entry, hentry, hfile, hf⟩ := mem_live_of_mem_newEntries he
    rw [hfile]
    exact ⟨c.showable.findings entry hentry e.2 hf, hsteady entry hentry e.2 hf⟩
  refine ⟨fun p hp => (c.run_endsIn hp).lines, ?_, ?_, ?_, ?_⟩
  · rw [hlines, List.forall₂_map_left_iff]
    apply List.forall₂_same.2
    intro e _ hunmarked
    rw [shownLine, shown_markedText hunmarked, String.ofList_toList]
  · exact Findings.pairwise_flatten (pairwise_byName c.diff.fresh)
  · intro file
    -- Sorting by files is stable, so for one file it changes nothing.
    rw [newEntries, Findings.filter_flatten, filter_byName, ← Findings.filter_flatten,
      c.flatten_fresh, List.filter_filter]
  · rw [hlines, List.length_map, c.perm_newEntries.length_eq, Findings.length_flatten]
    rfl

/-- Where the new findings are all of one file, these are the lines and the order. -/
theorem newLines_of_told {c : Course s t args} {told : String × List Told}
    (hfresh : c.diff.fresh = findingsOf [told]) :
    c.newLines = (findingLines (Findings.flatten (findingsOf [told]))).1 ∧
      c.newEntries = Findings.flatten (findingsOf [told]) := by
  have hsame : byName c.diff.fresh = findingsOf [told] := by
    rw [hfresh]
    exact List.mergeSort_singleton _
  rw [newLines, newEntries, hsame]
  exact ⟨rfl, rfl⟩

end Course

/-- A result of another rule with all sorts of characters. -/
def plainTold : Told := (7, 100, "[x]", "'[red]' at \\[b] :no: \\\\")

/-- The accepted result, and this one. -/
def plainTexts : String :=
  "\x7b\"a.kt\": [\x7b\"line\": 1, \"col\": 2, \"rule_id\": \"rule-a\"\x7d, " ++
    "\x7b\"line\": 7, \"col\": 100, \"rule_id\": \"[x]\", " ++
      "\"detail\": \"'[red]' at \\\\[b] :no: \\\\\\\\\"\x7d]\x7d"

def plainTextsCourse : Course here (workTree acceptingText plainTexts) ["diff", "results.json"] :=
  plainCourse acceptingText plainTexts [("a.kt", [(1, 2, "rule-a", ""), plainTold])]
    (ofBytes_eq_findingsOf (by decide +kernel))

theorem shows_new_plainTexts :
    (∀ entry ∈ plainTextsCourse.live, ∀ f ∈ entry.2, f.IsSteady entry.1) ∧
    (∀ e ∈ plainTextsCourse.newEntries, e.2.IsUnmarked e.1) ∧
    (run here ⟨workTree acceptingText plainTexts, .unset, [], []⟩
      ["diff", "results.json"]).1.shown =
        ["a.kt:7:100: '[red]' at \\[b] :no: \\\\ ([x])", "",
          "New: 1  Suppressed by baseline: 1"] := by
  have hsteady : ∀ entry ∈ plainTextsCourse.live, ∀ f ∈ entry.2, f.IsSteady entry.1 := by
    decide +kernel
  have hfresh : plainTextsCourse.diff.fresh = findingsOf [("a.kt", [plainTold])] :=
    eq_findingsOf (by decide +kernel)
  obtain ⟨_, hentries⟩ := Course.newLines_of_told hfresh
  have hunmarked : ∀ e ∈ plainTextsCourse.newEntries, e.2.IsUnmarked e.1 := by
    rw [hentries]
    decide +kernel
  obtain ⟨hshown, hlines, _⟩ := plainTextsCourse.shows_new hsteady
  refine ⟨hsteady, hunmarked, ?_⟩
  rw [hshown _ rfl, Course.lines_eq_asLine hlines hunmarked, hentries]
  decide +kernel

/-- Results of a file with texts that marks change: the line is the name of a symbol, a backslash
before a bracket that opens no tag, a backslash at the end, and the name of a symbol. -/
def markedTexts : String :=
  "\x7b\"a.kt\": [\x7b\"line\": 100, \"col\": 7, \"rule_id\": \"x\"\x7d, " ++
    "\x7b\"line\": 7, \"col\": 1, \"rule_id\": \"x\", \"detail\": \"\\\\[1]\"\x7d, " ++
    "\x7b\"line\": 7, \"col\": 2, \"rule_id\": \"x\", \"detail\": \"c:\\\\\"\x7d, " ++
    "\x7b\"line\": 7, \"col\": 3, \"rule_id\": \"a:x:\"\x7d]\x7d"

def markedTold : String × List Told :=
  ("a.kt", [(100, 7, "x", ""), (7, 1, "x", "\\[1]"), (7, 2, "x", "c:\\"), (7, 3, "a:x:", "")])

def markedTextsCourse : Course here (workTree acceptingText markedTexts) ["diff", "results.json"] :=
  plainCourse acceptingText markedTexts [markedTold] (ofBytes_eq_findingsOf (by decide +kernel))

/-- Results of a file whose name ends in two backslashes. -/
def slashedFile : String :=
  "\x7b\"a\\\\\\\\\": [\x7b\"line\": 7, \"col\": 1, \"rule_id\": \"x\"\x7d]\x7d"

def slashedTold : String × List Told := ("a\\\\", [(7, 1, "x", "")])

def slashedFileCourse : Course here (workTree acceptingText slashedFile) ["diff", "results.json"] :=
  plainCourse acceptingText slashedFile [slashedTold] (ofBytes_eq_findingsOf (by decide +kernel))

/-- Marks that are no part of any tag change such lines, though nothing in them steers the
screen. -/
theorem not_shows_markedTexts :
    (∀ entry ∈ markedTextsCourse.live, ∀ f ∈ entry.2, f.IsSteady entry.1) ∧
    markedTextsCourse.newLines =
      ["a.kt💯7:  (x)", "a.kt:7:1: [1] (x)", "a.kt:7:2: c:\\\\ (x)", "a.kt:7:3:  (a❌)"] ∧
    (markedTextsCourse.newEntries.map fun e => e.2.asLine e.1) =
      ["a.kt:100:7:  (x)", "a.kt:7:1: \\[1] (x)", "a.kt:7:2: c:\\ (x)", "a.kt:7:3:  (a:x:)"] ∧
    (∀ entry ∈ slashedFileCourse.live, ∀ f ∈ entry.2, f.IsSteady entry.1) ∧
    slashedFileCourse.newLines = ["a\\:7:1:  (x)"] ∧
    (slashedFileCourse.newEntries.map fun e => e.2.asLine e.1) = ["a\\\\:7:1:  (x)"] := by
  have hmarked : markedTextsCourse.diff.fresh = findingsOf [markedTold] :=
    eq_findingsOf (by decide +kernel)
  have hslashed : slashedFileCourse.diff.fresh = findingsOf [slashedTold] :=
    eq_findingsOf (by decide +kernel)
  obtain ⟨hlines, hentries⟩ := Course.newLines_of_told hmarked
  obtain ⟨hlines', hentries'⟩ := Course.newLines_of_told hslashed
  rw [hlines, hentries, hlines', hentries']
  refine ⟨?_, ?_, ?_, ?_, ?_, ?_⟩
  all_goals decide +kernel

end Command

end FindingLedger
