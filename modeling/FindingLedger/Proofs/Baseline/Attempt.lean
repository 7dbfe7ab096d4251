/-
What an attempt to load a baseline comes to.

Main statement: whatever a storage answers about a path, refusals included, an attempt is
made unless the path is blank, and its baseline has the status, the findings and the
diagnostics that belong to the answers.  The diagnostics are the warnings and errors that were
noted on the way, in their order.
-/
import FindingLedger.Baseline.Load

namespace FindingLedger

/-- Whether a note is a warning or an error. -/
def Note.isAlarm (n : Note) : Bool := decide (Level.warning.rank ≤ n.level.rank)

/-- What a note says to the user: its message, and behind it the path and the reason if it
goes with both. -/
def Note.diagnostic (n : Note) : String :=
  match n.context with
  | [("path", .scalar (.text path)), ("reason", .scalar (.text reason))] =>
    s!"{n.message}: {path} ({reason})"
  | _ => n.message

namespace Baseline

variable {σ : Type}

/-- The alarms of an attempt are the diagnostics of its baseline, one by one. -/
def Attempt.Reports (a : Attempt σ) : Prop :=
  a.baseline.diagnostics = (a.notes.filter Note.isAlarm).map Note.diagnostic

/-- The diagnostics of a document: one that names the file and the number of the rule ids
without a rule set, if there are any. -/
def legacyDiagnostics (path : String) (d : Document) : List String :=
  if 0 < d.legacy then [legacyMessage path d.legacy] else []

/-- What an attempt comes to when nothing is found, or looking for it fails. -/
structure Attempt.IsAbsence (s : σ) (a : Attempt σ) : Prop where
  files : a.baseline.files = []
  legacy : a.baseline.legacy = 0
  diagnostics : a.baseline.diagnostics = []
  tree : a.tree = s

/-- What an attempt comes to when a document is found. -/
structure Attempt.IsOf (s : σ) (path : String) (d : Document) (a : Attempt σ) : Prop where
  files : a.baseline.files = d.files
  legacy : a.baseline.legacy = d.legacy
  diagnostics : a.baseline.diagnostics = legacyDiagnostics path d
  tree : a.tree = s

/-- What an attempt comes to when there is no document for some reason: one diagnostic gives
the reason, and a second one says why the file could not be deleted, if it could not. -/
structure Attempt.IsRemoval (st : Storage σ) (s : σ) (path reason : String) (a : Attempt σ) :
    Prop where
  files : a.baseline.files = []
  legacy : a.baseline.legacy = 0
  removal :
    (∃ s', st.unlink s (Path.ofString path).text = .ok s' ∧ a.tree = s' ∧
      a.baseline.diagnostics = [unparsedMessage path reason]) ∨
    ∃ refusal, st.unlink s (Path.ofString path).text = .error refusal ∧ a.tree = s ∧
      a.baseline.diagnostics = [unparsedMessage path reason, undeletedMessage path refusal]

/-- What an attempt comes to, by what the storage answers about the path. -/
structure Attempt.Fits (st : Storage σ) (s : σ) (path : String) (a : Attempt σ) : Prop where
  path_eq : a.baseline.path = some path
  notFound_iff : a.baseline.status = .notFound ↔
    st.holds s (Path.ofString path).text = .ok false ∨
      ∃ reason, st.holds s (Path.ofString path).text = .error reason
  valid_iff : a.baseline.status = .valid ↔
    st.holds s (Path.ofString path).text = .ok true ∧
      ∃ d, Document.ofStorage st s (Path.ofString path) = .ok d
  invalid_iff : a.baseline.status = .invalid ↔
    st.holds s (Path.ofString path).text = .ok true ∧
      ∃ reason, Document.ofStorage st s (Path.ofString path) = .error reason
  absence : a.baseline.status = .notFound → a.IsAbsence s
  document : ∀ d, a.baseline.status = .valid →
    Document.ofStorage st s (Path.ofString path) = .ok d → a.IsOf s path d
  removal : ∀ reason, a.baseline.status = .invalid →
    Document.ofStorage st s (Path.ofString path) = .error reason → a.IsRemoval st s path reason
  reports : a.Reports

section Parts

variable (s : σ) (path : String)

theorem reports_ofAbsence {notes : List Note} (hnotes : ∀ n ∈ notes, n.level = .debug) :
    (ofAbsence s path notes).Reports := by
  have hquiet : ∀ n ∈ notes, n.isAlarm = false := by
    intro n hn
    rw [Note.isAlarm, hnotes n hn]
    rfl
  have hnone : (ofAbsence s path notes).notes.filter Note.isAlarm = [] := by
    rw [List.filter_eq_nil_iff]
    intro n hn
    rcases List.mem_append.1 hn with hbefore | hlast
    · rw [hquiet n hbefore]
      exact Bool.false_ne_true
    · rw [List.mem_singleton.1 hlast]
      exact Bool.false_ne_true
  rw [Attempt.Reports, hnone]
  rfl

theorem reports_ofDocument (d : Document) : (ofDocument s path d).Reports := by
  rw [Attempt.Reports, ofDocument]
  by_cases hlegacy : 0 < d.legacy
  · simp only [hlegacy, if_true]
    rfl
  · simp only [hlegacy, if_false]
    rfl

theorem reports_ofDeleted (reason : String) : (ofDeleted s path reason).Reports := rfl

theorem reports_ofUndeleted (reason refusal : String) :
    (ofUndeleted s path reason refusal).Reports := rfl

theorem reports_ofReason (st : Storage σ) (reason : String) :
    (ofReason st s path reason).Reports := by
  rw [ofReason]
  cases st.unlink s (Path.ofString path).text with
  | ok s' => exact reports_ofDeleted s' path reason
  | error refusal => exact reports_ofUndeleted s path reason refusal

end Parts

section Fits

variable {st : Storage σ} {s : σ} {path : String}

theorem isRemoval_ofReason (st : Storage σ) (s : σ) (path reason : String) :
    (ofReason st s path reason).IsRemoval st s path reason := by
  rw [ofReason]
  cases hunlink : st.unlink s (Path.ofString path).text with
  | ok s' => exact ⟨rfl, rfl, Or.inl ⟨s', hunlink, rfl, rfl⟩⟩
  | error refusal => exact ⟨rfl, rfl, Or.inr ⟨refusal, hunlink, rfl, rfl⟩⟩

theorem status_ofReason (st : Storage σ) (s : σ) (path reason : String) :
    (ofReason st s path reason).baseline.status = .invalid := by
  rw [ofReason]
  cases st.unlink s (Path.ofString path).text <;> rfl

theorem path_ofReason (st : Storage σ) (s : σ) (path reason : String) :
    (ofReason st s path reason).baseline.path = some path := by
  rw [ofReason]
  cases st.unlink s (Path.ofString path).text <;> rfl

/-- Where nothing is found the baseline says so, and the notes on the way are no alarms. -/
theorem fits_ofAbsence {notes : List Note} (hnotes : ∀ n ∈ notes, n.level = .debug)
    (habsent : st.holds s (Path.ofString path).text = .ok false ∨
      ∃ reason, st.holds s (Path.ofString path).text = .error reason) :
    (ofAbsence s path notes).Fits st s path := by
  have hnot : st.holds s (Path.ofString path).text ≠ .ok true := by
    rcases habsent with hfalse | ⟨reason, hfails⟩
    · rw [hfalse]
      nofun
    · rw [hfails]
      nofun
  constructor
  · rfl
  · exact ⟨fun _ => habsent, fun _ => rfl⟩
  · exact ⟨nofun, fun h => absurd h.1 hnot⟩
  · exact ⟨nofun, fun h => absurd h.1 hnot⟩
  · exact fun _ => ⟨rfl, rfl, rfl, rfl⟩
  · nofun
  · nofun
  · exact reports_ofAbsence s path hnotes

theorem fits_ofDocument {d : Document}
    (hholds : st.holds s (Path.ofString path).text = .ok true)
    (hdocument : Document.ofStorage st s (Path.ofString path) = .ok d) :
    (ofDocument s path d).Fits st s path := by
  constructor
  · rfl
  · rw [hholds]
    exact ⟨nofun, nofun⟩
  · exact ⟨fun _ => ⟨hholds, d, hdocument⟩, fun _ => rfl⟩
  · rw [hdocument]
    exact ⟨nofun, nofun⟩
  · nofun
  · intro d' _ hd'
    rw [hdocument] at hd'
    cases hd'
    exact ⟨rfl, rfl, rfl, rfl⟩
  · nofun
  · exact reports_ofDocument s path d

theorem fits_ofReason {reason : String}
    (hholds : st.holds s (Path.ofString path).text = .ok true)
    (hreason : Document.ofStorage st s (Path.ofString path) = .error reason) :
    (ofReason st s path reason).Fits st s path := by
  have hstatus := status_ofReason st s path reason
  constructor
  · exact path_ofReason st s path reason
  · rw [hstatus, hholds]
    exact ⟨nofun, nofun⟩
  · rw [hstatus, hreason]
    exact ⟨nofun, nofun⟩
  · exact ⟨fun _ => ⟨hholds, reason, hreason⟩, fun _ => hstatus⟩
  · rw [hstatus]
    nofun
  · rw [hstatus]
    nofun
  · intro reason' _ hreason'
    rw [hreason] at hreason'
    cases hreason'
    exact isRemoval_ofReason st s path reason
  · exact reports_ofReason s path st reason

/-- An attempt at a path that is not blank comes to what the answers of the storage say. -/
theorem fits_attempt (st : Storage σ) (s : σ) (path : String) :
    (attempt st s path).Fits st s path := by
  rw [attempt]
  cases hholds : st.holds s (Path.ofString path).text with
  | error reason =>
    apply fits_ofAbsence
    · intro n hn
      rw [List.mem_singleton.1 hn]
    · exact Or.inr ⟨reason, hholds⟩
  | ok isThere =>
    cases isThere with
    | false =>
      apply fits_ofAbsence
      · intro n hn
        cases hn
      · exact Or.inl hholds
    | true =>
      cases hdocument : Document.ofStorage st s (Path.ofString path) with
      | ok d => exact fits_ofDocument hholds hdocument
      | error reason => exact fits_ofReason hholds hdocument

/-- The answers of a storage leave no fourth status. -/
theorem Attempt.Fits.status_cases {a : Attempt σ} (hfits : a.Fits st s path) :
    a.baseline.status = .notFound ∨ a.baseline.status = .valid ∨
      a.baseline.status = .invalid := by
  cases hholds : st.holds s (Path.ofString path).text with
  | error reason => exact Or.inl (hfits.notFound_iff.2 (Or.inr ⟨reason, hholds⟩))
  | ok isThere =>
    cases isThere with
    | false => exact Or.inl (hfits.notFound_iff.2 (Or.inl hholds))
    | true =>
      cases hdocument : Document.ofStorage st s (Path.ofString path) with
      | ok d => exact Or.inr (Or.inl (hfits.valid_iff.2 ⟨hholds, d, hdocument⟩))
      | error reason => exact Or.inr (Or.inr (hfits.invalid_iff.2 ⟨hholds, reason, hdocument⟩))

end Fits

/-- A path is refused, before the storage is asked anything, exactly when all its characters
are blank.  At any other path there is an attempt, and it comes to what the storage answers. -/
theorem attempt?_cases (st : Storage σ) (s : σ) (path : String) :
    (attempt? st s path = none ∧ ∀ c ∈ path.toList, Text.isBlank c = true) ∨
    ∃ a, attempt? st s path = some a ∧ (∃ c ∈ path.toList, Text.isBlank c = false) ∧
      a.Fits st s path := by
  by_cases hblank : Text.isBlankText path = true
  · left
    constructor
    · rw [attempt?, if_pos hblank]
    · exact List.all_eq_true.1 hblank
  · right
    refine ⟨attempt st s path, ?_, ?_, fits_attempt st s path⟩
    · rw [attempt?, if_neg hblank]
    · have hsome : path.toList.all Text.isBlank = false := Bool.not_eq_true _ ▸ hblank
      obtain ⟨c, hc, hvisible⟩ := List.all_eq_false.1 hsome
      exact ⟨c, hc, Bool.not_eq_true _ ▸ hvisible⟩

-- An empty file that can be read but not removed leaves two diagnostics.
example :
    let locked : Storage Unit :=
      ⟨fun _ _ => .ok true, fun _ _ => .ok (.whole []), fun _ _ => .error "Read-only"⟩
    (attempt? locked () "b.xml").map (·.baseline.diagnostics.length) = some 2 := by
  decide +kernel

end Baseline

end FindingLedger
