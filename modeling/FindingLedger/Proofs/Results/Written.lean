/-
Lint results that were written.

A finding is read back from its value, so the findings of all files are read back from a file
that holds their values.  What stands for a finding may say it in many ways; the value that
is written for it says it in one, and reading that gives the same finding.
-/
import FindingLedger.Proofs.Command.Gate
import FindingLedger.Proofs.Json.Value
import FindingLedger.Proofs.Results
import FindingLedger.Proofs.Text.Utf8

namespace FindingLedger

namespace Finding

theorem statusOf_word (status : Status) : statusOf (.text status.word) = .ok status := by
  have hlower : Text.lower status.word = status.word := by cases status <;> decide +kernel
  simp only [statusOf, hlower, Status.ofWord?_word]

/-- A finding is read back from its value. -/
theorem ofDatum_toDatum (f : Finding) : ofDatum f.toDatum = .ok f := by
  simp [ofDatum, toDatum, fieldsOf, field, Datum.find?_cons, wholeOf, statusOf_word, bind,
    Except.bind]

/-- Whether a finding can be written: its rule and the text for the reader are texts, and its
position is not too long. -/
structure IsWritable (f : Finding) : Prop where
  showable : f.IsShowable
  line : (Scalar.int f.line).isWritable = true
  column : (Scalar.int f.column).isWritable = true

theorem isTextKeyed_toDatum (f : Finding) : Datum.IsTextKeyed
    [(.text "line", .int f.line), (.text "col", .int f.column), (.text "rule_id", f.rule),
      (.text "detail", f.detail), (.text "status", .text f.status.word)] :=
  ⟨by simp, by simp⟩

theorem isJson_toDatum {f : Finding} (hwritable : f.IsWritable) : f.toDatum.IsJson := by
  obtain ⟨⟨⟨id, hid⟩, text, htext⟩, hline, hcolumn⟩ := hwritable
  apply Datum.IsJson.dict f.isTextKeyed_toDatum
  simp only [hid, htext, List.forall_mem_cons]
  exact ⟨.int hline, .int hcolumn, .text id, .text text, .text _, nofun⟩

theorem depth_toDatum {f : Finding} (hwritable : f.IsWritable) : f.toDatum.depth = 1 := by
  obtain ⟨⟨⟨id, hid⟩, text, htext⟩, _, _⟩ := hwritable
  simp [toDatum, hid, htext, Datum.depth, Datum.entriesDepth]

end Finding

/-- The text of printable characters has no line ends of other kinds. -/
theorem Utf8.plainLines_of_isPrintable {cs : List Char} (hcs : ∀ c ∈ cs, Json.IsPrintable c) :
    Utf8.plainLines cs = cs := by
  induction cs with
  | nil => rfl
  | cons c rest ih =>
    have hc : c ≠ '\r' := by
      rintro rfl
      exact absurd (hcs _ List.mem_cons_self) (by decide)
    have hrest := ih fun d hd => hcs d (List.mem_cons_of_mem c hd)
    rw [plainLines.eq_def]
    simp [hc, hrest]

namespace Results

variable {live : Findings}

theorem findingsOf_toDatum (fs : List Finding) : findingsOf (fs.map Finding.toDatum) = .ok fs := by
  induction fs with
  | nil => rfl
  | cons f rest ih =>
    simp [findingsOf, Finding.ofDatum_toDatum, ih, bind, Except.bind, Except.mapError]

theorem ofEntries_toDatum (live : Findings) :
    ofEntries (live.map fun f => (.text f.1, .list (f.2.map Finding.toDatum))) =
      .ok (live.map fun f => (.text f.1, f.2)) := by
  induction live with
  | nil => rfl
  | cons entry rest ih =>
    simp [ofEntries, membersOf, findingsOf_toDatum, ih, bind, Except.bind]

/-- No name that is a text is broken. -/
theorem ofFindings_texts (live : Findings) :
    ofFindings (live.map fun f => (.text f.1, f.2)) = ⟨live, []⟩ := by
  simp [ofFindings, List.filterMap_map, name?, stray?, Scalar.display]

/-- The findings of all files are read back from their value. -/
theorem ofDatum_toDatum (live : Findings) : ofDatum (toDatum live) = .ok ⟨live, []⟩ := by
  rw [toDatum, ofDatum, ofEntries_toDatum, Except.map, ofFindings_texts]

/-- Findings of different files that can be written have a value that JSON has a form for. -/
theorem isJson_toDatum (hfiles : (live.map Prod.fst).Nodup)
    (hwritable : ∀ entry ∈ live, ∀ f ∈ entry.2, f.IsWritable) : (toDatum live).IsJson := by
  apply Datum.IsJson.dict
  · constructor
    · simp only [List.forall_mem_map]
      exact fun entry _ => ⟨entry.1, rfl⟩
    · rw [List.map_map]
      change (live.map fun entry => Scalar.text entry.1).Nodup
      have hnames := hfiles.map fun _ _ h => Scalar.text.inj h
      rwa [List.map_map] at hnames
  · simp only [List.forall_mem_map]
    intro entry hentry
    apply Datum.IsJson.list
    simp only [List.forall_mem_map]
    exact fun f hf => Finding.isJson_toDatum (hwritable entry hentry f hf)

theorem itemsDepth_toDatum {fs : List Finding} (hwritable : ∀ f ∈ fs, f.IsWritable) :
    Datum.itemsDepth (fs.map Finding.toDatum) ≤ 1 := by
  induction fs with
  | nil => simp [Datum.itemsDepth]
  | cons f rest ih =>
    simp only [List.forall_mem_cons] at hwritable
    have hrest := ih hwritable.2
    simp only [List.map_cons, Datum.itemsDepth, Finding.depth_toDatum hwritable.1]
    omega

/-- No more than three collections stand inside of each other. -/
theorem depth_toDatum (hwritable : ∀ entry ∈ live, ∀ f ∈ entry.2, f.IsWritable) :
    (toDatum live).depth ≤ 3 := by
  rw [toDatum, Datum.depth]
  apply Nat.succ_le_succ
  induction live with
  | nil => simp [Datum.entriesDepth]
  | cons entry rest ih =>
    simp only [List.forall_mem_cons] at hwritable
    have hentry := itemsDepth_toDatum hwritable.1
    have hrest := ih hwritable.2
    simp only [List.map_cons, Datum.entriesDepth, Datum.depth]
    omega

def written (live : Findings) : String := String.ofList (Json.write (toDatum live))

/-- The file that a path leads to holds the text of a value. -/
def Holds (t : FileTree) (cwd : Location) (path : Path) (v : Datum) : Prop :=
  ∃ bytes text, t.read cwd path.text = .ok bytes ∧
    Utf8.decodeLines bytes.toList = .ok text ∧ Json.read text = .ok v

variable {t : FileTree} {cwd : Location} {path : Path}

/-- A file with the text that is written for findings holds their value. -/
theorem holds_of_written (hfiles : (live.map Prod.fst).Nodup)
    (hwritable : ∀ entry ∈ live, ∀ f ∈ entry.2, f.IsWritable)
    (hread : t.read cwd path.text = .ok (written live).toUTF8) :
    Holds t cwd path (toDatum live) := by
  have hjson := isJson_toDatum hfiles hwritable
  refine ⟨_, Json.write (toDatum live), hread, ?_, ?_⟩
  · have htext : Utf8.decode (Utf8.encode (written live)) = .ok (Json.write (toDatum live)) := by
      rw [Utf8.decode_encode, written, String.toList_ofList]
    change Utf8.decodeLines (Utf8.encode (written live)) = _
    rw [Utf8.decodeLines, htext, Except.map,
      Utf8.plainLines_of_isPrintable (Json.isPrintable_write hjson)]
  · apply Json.readWithin_write hjson
    exact Nat.le_trans (depth_toDatum hwritable) (by decide)

/-- The results in a file are those that the value stands for which it holds. -/
theorem Holds.ofFile_eq {v : Datum} (hholds : Holds t cwd path v) :
    ofFile t cwd path = ofDatum v := by
  obtain ⟨bytes, text, hread, htext, hjson⟩ := hholds
  simp [ofFile, hread, ofBytes, htext, hjson, bind, Except.bind, Except.mapError]

/-- Findings that can be written, of files with different names, are read back from any file
that holds their value, with the files and their findings in the same order; a file with the
text that is written for them is one.  And whatever value stands for a finding, the value that is
written for the finding stands for the same one. -/
theorem reads_back (live : Findings) (hfiles : (live.map Prod.fst).Nodup)
    (hwritable : ∀ entry ∈ live, ∀ f ∈ entry.2, f.IsWritable) :
    (∀ t cwd path, t.read cwd (Path.text path) = .ok (written live).toUTF8 →
      Holds t cwd path (toDatum live)) ∧
    (∀ t cwd path, Holds t cwd path (toDatum live) → ofFile t cwd path = .ok ⟨live, []⟩) ∧
    ∀ v, (Finding.ofDatum v >>= fun f => Finding.ofDatum f.toDatum) = Finding.ofDatum v := by
  refine ⟨?_, ?_, ?_⟩
  · exact fun t cwd path hread => holds_of_written hfiles hwritable hread
  · intro t cwd path hholds
    rw [hholds.ofFile_eq, ofDatum_toDatum]
  · intro v
    cases hv : Finding.ofDatum v with
    | error fault => rfl
    | ok f => exact f.ofDatum_toDatum

/-- A finding with marks, a line end and a character beyond ASCII, twice, and a file without
findings and without a name. -/
def twiceFound : Findings :=
  let f : Finding := ⟨-7, 0, .text "custom:x", .text "a\t\"é\"\n", .corrected⟩
  [("a.kt", [f, f]), ("", [])]

/-- The entry of a finding with a numeral, a fraction and a word in mixed case. -/
def looseEntry : Datum :=
  .dict [(.text "status", .text "Parse_EXCEPTION"), (.text "line", .text " +1_2 "),
    (.text "col", .scalar (.float 2.9)), (.text "rule_id", .null)]

/-- What was found twice is read twice, and a loose entry stands for a finding whose own value
stands for it again. -/
theorem reads_back_twiceFound :
    ofFile (Command.workTree "" (written twiceFound)) Command.here.cwd
        (.ofString "results.json") = .ok ⟨twiceFound, []⟩ ∧
      Finding.ofDatum looseEntry = .ok ⟨12, 2, .null, .text "", .parserFailure⟩ ∧
      Finding.ofDatum (Finding.toDatum ⟨12, 2, .null, .text "", .parserFailure⟩) =
        .ok ⟨12, 2, .null, .text "", .parserFailure⟩ := by
  have hwritable : ∀ entry ∈ twiceFound, ∀ f ∈ entry.2, f.IsWritable := by
    simp only [twiceFound, List.forall_mem_cons]
    have hfinding : Finding.IsWritable
        ⟨-7, 0, .text "custom:x", .text "a\t\"é\"\n", .corrected⟩ :=
      ⟨by decide, by decide +kernel, by decide +kernel⟩
    exact ⟨⟨hfinding, hfinding, nofun⟩, nofun, nofun⟩
  obtain ⟨hholds, hreads, hagain⟩ := reads_back twiceFound (by decide) hwritable
  have hloose : Finding.ofDatum looseEntry = .ok ⟨12, 2, .null, .text "", .parserFailure⟩ := rfl
  refine ⟨hreads _ _ _ (hholds _ _ _ rfl), hloose, ?_⟩
  have hfixed := hagain looseEntry
  rw [hloose] at hfixed
  exact hfixed

end Results

end FindingLedger
