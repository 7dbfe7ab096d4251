/-
What a path depends on.

Following a path looks nodes up at some locations, its way.  File systems with the same
nodes along the way of a path have the same at its end, whatever else differs.  Once the
name at the end of a path is removed, nothing is found there.
-/
import FindingLedger.Proofs.Keyed
import FindingLedger.FileTree

namespace FindingLedger

namespace FileTree

/-- The locations that are looked up on the way down from a directory along names. -/
def stepsDown (t : FileTree) (dir : Location) : List String → List Location
  | [] => []
  | name :: rest =>
    if name == "." || name.isEmpty then t.stepsDown dir rest
    else if name == ".." then t.stepsDown dir.dropLast rest
    else
      let l := dir ++ [name]
      l :: if t.node? l = some .directory then t.stepsDown l rest else []

/-- The locations that are looked up on a walk along names that follows at most a number
of links. -/
def wayFrom (t : FileTree) : Nat → Location → List String → List Location
  | 0, dir, names => t.stepsDown dir names
  | links + 1, dir, names =>
    t.stepsDown dir names ++
      match t.descend .content dir names with
      | .ok (.inr (dir, names)) => t.wayFrom links dir names
      | _ => []

/-- The locations that are looked up to find what a path leads to. -/
def way (t : FileTree) (cwd : Location) (path : String) : List Location :=
  t.wayFrom maxLinks (if path.toList.head? == some '/' then [] else cwd) (namesOf path)

/-- Another file system has the same nodes along the way of a path. -/
def KeepsWay (t t' : FileTree) (cwd : Location) (path : String) : Prop :=
  ∀ l ∈ t.way cwd path, t'.node? l = t.node? l

instance (t t' : FileTree) (cwd : Location) (path : String) :
    Decidable (KeepsWay t t' cwd path) :=
  inferInstanceAs (Decidable (∀ l ∈ t.way cwd path, t'.node? l = t.node? l))

theorem KeepsWay.refl (t : FileTree) (cwd : Location) (path : String) : KeepsWay t t cwd path :=
  fun _ _ => rfl

section Way

variable {t t' : FileTree} {cwd : Location}

/-- The way down is the same where the nodes on it are. -/
theorem descend_eq {purpose : Purpose} {dir : Location} {names : List String}
    (hsame : ∀ l ∈ t.stepsDown dir names, t'.node? l = t.node? l) :
    t'.descend purpose dir names = t.descend purpose dir names := by
  induction names generalizing dir with
  | nil => rfl
  | cons name rest ih =>
    rw [descend, descend]
    rw [stepsDown] at hsame
    by_cases hpoint : (name == "." || name.isEmpty) = true
    · rw [if_pos hpoint] at hsame
      rw [if_pos hpoint, if_pos hpoint]
      exact ih hsame
    · rw [if_neg hpoint] at hsame
      rw [if_neg hpoint, if_neg hpoint]
      by_cases hup : (name == "..") = true
      · rw [if_pos hup] at hsame
        rw [if_pos hup, if_pos hup]
        exact ih hsame
      · rw [if_neg hup] at hsame
        rw [if_neg hup, if_neg hup]
        have hnode := hsame (dir ++ [name]) List.mem_cons_self
        -- Only below a directory does the walk go on, and only there are later steps looked at.
        have hrest : t.node? (dir ++ [name]) = some .directory →
            t'.descend purpose (dir ++ [name]) rest = t.descend purpose (dir ++ [name]) rest := by
          intro hdir
          apply ih
          intro l hl
          apply hsame l
          apply List.mem_cons_of_mem
          rw [if_pos hdir]
          exact hl
        dsimp only
        rw [hnode]
        cases hfound : t.node? (dir ++ [name]) with
        | none => rfl
        | some n =>
          cases n with
          | directory => simp only [hrest hfound]
          | link target => rfl
          | file id => rfl

/-- Where the way down ends, or goes on from, at the name of a node. -/
def enter (t : FileTree) (purpose : Purpose) (dir : Location) (name : String)
    (rest : List String) : Except FileFault (Target ⊕ (Location × List String)) :=
  match t.node? (dir ++ [name]) with
  | none => if rest.isEmpty then .ok (.inl (.absent (dir ++ [name]))) else .error .missing
  | some .directory => t.descend purpose (dir ++ [name]) rest
  | some (.file id) =>
    if rest.isEmpty then .ok (.inl (.node (dir ++ [name]) (.file id))) else .error .notDirectory
  | some (.link target) =>
    if rest.isEmpty && purpose == .name then
      .ok (.inl (.node (dir ++ [name]) (.link target)))
    else
      let start := if target.toList.head? == some '/' then [] else dir
      .ok (.inr (start, namesOf target ++ rest))

/-- A file is to be created by a name with a slash behind it. -/
def opensSlash (purpose : Purpose) (rest : List String) : Bool :=
  purpose == .creation && rest == [""]

theorem opensSlash_content (rest : List String) : opensSlash .content rest = false := rfl

theorem opensSlash_name (rest : List String) : opensSlash .name rest = false := rfl

/-- The way down at a name that is that of a node. -/
theorem descend_enter {name : String} (hidle : (name == "." || name.isEmpty) = false)
    (hup : (name == "..") = false) (hshort : name.utf8ByteSize ≤ maxName) {t : FileTree}
    {purpose : Purpose} {rest : List String} (hslash : opensSlash purpose rest = false)
    (dir : Location) :
    t.descend purpose dir (name :: rest) = t.enter purpose dir name rest := by
  rw [descend, hidle, if_neg Bool.false_ne_true, hup, if_neg Bool.false_ne_true,
    show (purpose == .creation && rest == [""]) = false from hslash, if_neg Bool.false_ne_true,
    if_neg (Nat.not_lt.2 hshort)]
  rfl

/-- What a name does on the way down, in every file system and wherever it stands: nothing, or
it leads one up, or it is too long, or it is that of a node. -/
theorem descend_step (name : String) :
    (∀ (t : FileTree) (purpose : Purpose) (dir : Location) (rest : List String),
      t.descend purpose dir (name :: rest) = t.descend purpose dir rest) ∨
    (∀ (t : FileTree) (purpose : Purpose) (dir : Location) (rest : List String),
      t.descend purpose dir (name :: rest) = t.descend purpose dir.dropLast rest) ∨
    (∀ (t : FileTree) (purpose : Purpose) (dir : Location) (rest : List String),
      t.descend purpose dir (name :: rest) =
        .error (if opensSlash purpose rest then .isDirectory else .nameTooLong)) ∨
    ∀ (t : FileTree) (purpose : Purpose) (dir : Location) (rest : List String),
      t.descend purpose dir (name :: rest) =
        if opensSlash purpose rest then .error .isDirectory else t.enter purpose dir name rest := by
  by_cases hidle : (name == "." || name.isEmpty) = true
  · left
    intro t purpose dir rest
    rw [descend, if_pos hidle]
  right
  by_cases hup : (name == "..") = true
  · left
    intro t purpose dir rest
    rw [descend, if_neg hidle, if_pos hup]
  right
  by_cases hlong : maxName < name.utf8ByteSize
  · left
    intro t purpose dir rest
    rw [descend, if_neg hidle, if_neg hup, if_pos hlong, opensSlash]
    split <;> rfl
  · right
    intro t purpose dir rest
    split
    · next hslash => rw [descend, if_neg hidle, if_neg hup, if_pos (by exact hslash)]
    · next hslash =>
      rw [Bool.not_eq_true] at hidle hup hslash
      exact descend_enter hidle hup (Nat.not_lt.1 hlong) hslash dir

/-- What becomes of a walk when the way down has ended, with what may be done behind a
link. -/
def landing (go : Location → List String → Except FileFault Target) :
    Except FileFault (Target ⊕ (Location × List String)) → Except FileFault Target
  | .error fault => .error fault
  | .ok (.inl target) => .ok target
  | .ok (.inr (dir, names)) => go dir names

theorem walk_zero (t : FileTree) (purpose : Purpose) (dir : Location) (names : List String) :
    t.walk purpose 0 dir names =
      landing (fun _ _ => .error .tooManyLinks) (t.descend purpose dir names) := by
  rw [walk.eq_def]
  rcases hfound : t.descend purpose dir names with fault | target | ⟨dir', names'⟩ <;>
    simp only [hfound, landing]

theorem walk_succ (t : FileTree) (purpose : Purpose) (links : Nat) (dir : Location)
    (names : List String) :
    t.walk purpose (links + 1) dir names =
      landing (t.walk purpose links) (t.descend purpose dir names) := by
  rw [walk.eq_def]
  rcases hfound : t.descend purpose dir names with fault | target | ⟨dir', names'⟩ <;>
    simp only [hfound, landing]

/-- A walk that leads somewhere ends as some way down does. -/
theorem exists_descend_of_walk {purpose : Purpose} {links : Nat} {dir : Location}
    {names : List String} {target : Target} (hwalk : t.walk purpose links dir names = .ok target) :
    ∃ dir' names', t.descend purpose dir' names' = .ok (.inl target) := by
  induction links generalizing dir names with
  | zero =>
    rw [walk_zero] at hwalk
    rcases hdown : t.descend purpose dir names with fault | found | next <;>
      rw [hdown] at hwalk <;> cases hwalk
    exact ⟨dir, names, hdown⟩
  | succ links ih =>
    rw [walk_succ] at hwalk
    rcases hdown : t.descend purpose dir names with fault | found | next <;>
      rw [hdown] at hwalk
    · cases hwalk
    · cases hwalk
      exact ⟨dir, names, hdown⟩
    · exact ih hwalk

/-- A walk that fails has too many links to follow, or fails as some way down does. -/
theorem exists_descend_of_walk_error {purpose : Purpose} {links : Nat} {dir : Location}
    {names : List String} {fault : FileFault}
    (hwalk : t.walk purpose links dir names = .error fault) :
    fault = .tooManyLinks ∨ ∃ dir' names', t.descend purpose dir' names' = .error fault := by
  induction links generalizing dir names with
  | zero =>
    rw [walk_zero] at hwalk
    rcases hdown : t.descend purpose dir names with fault' | found | next <;>
      rw [hdown] at hwalk <;> cases hwalk
    · exact Or.inr ⟨dir, names, hdown⟩
    · exact Or.inl rfl
  | succ links ih =>
    rw [walk_succ] at hwalk
    rcases hdown : t.descend purpose dir names with fault' | found | next <;>
      rw [hdown] at hwalk
    · cases hwalk
      exact Or.inr ⟨dir, names, hdown⟩
    · cases hwalk
    · exact ih hwalk

theorem walk_eq {links : Nat} {dir : Location} {names : List String}
    (hsame : ∀ l ∈ t.wayFrom links dir names, t'.node? l = t.node? l) :
    t'.walk .content links dir names = t.walk .content links dir names := by
  induction links generalizing dir names with
  | zero => rw [walk_zero, walk_zero, descend_eq hsame]
  | succ links ih =>
    have hdown : t'.descend .content dir names = t.descend .content dir names :=
      descend_eq fun l hl => hsame l (by rw [wayFrom]; exact List.mem_append_left _ hl)
    rw [walk_succ, walk_succ, hdown]
    rcases hfound : t.descend .content dir names with fault | target | ⟨dir', names'⟩
    · rfl
    · rfl
    · apply ih
      intro l hl
      apply hsame
      rw [wayFrom, hfound]
      exact List.mem_append_right _ hl

/-- The text of a path decides whether it is walked along or refused, in every file system and
whatever for. -/
theorem locate_cases (path : String) :
    (path.toList.contains '\x00' = true ∧ ∀ (t : FileTree) (cwd : Location) (purpose : Purpose),
      t.locate cwd purpose path = .error .nullCharacter) ∨
    path.toList.contains '\x00' = false ∧
      ((∃ fault, (fault = .missing ∨ fault = .nameTooLong) ∧
        ∀ (t : FileTree) (cwd : Location) (purpose : Purpose),
          t.locate cwd purpose path = .error fault) ∨
      ∀ (t : FileTree) (cwd : Location) (purpose : Purpose), t.locate cwd purpose path =
        t.walk purpose maxLinks (if path.toList.head? == some '/' then [] else cwd)
          (namesOf path)) := by
  by_cases hnull : path.toList.contains '\x00' = true
  · refine Or.inl ⟨hnull, fun t cwd purpose => ?_⟩
    rw [locate, if_pos hnull]
  refine Or.inr ⟨by simpa using hnull, ?_⟩
  by_cases hempty : path.isEmpty = true
  · refine Or.inl ⟨.missing, Or.inl rfl, fun t cwd purpose => ?_⟩
    rw [locate, if_neg hnull, if_pos hempty]
  by_cases hlong : maxPath < path.utf8ByteSize
  · refine Or.inl ⟨.nameTooLong, Or.inr rfl, fun t cwd purpose => ?_⟩
    rw [locate, if_neg hnull, if_neg hempty, if_pos hlong]
  · refine Or.inr fun t cwd purpose => ?_
    rw [locate, if_neg hnull, if_neg hempty, if_neg hlong]

/-- A path that leads somewhere is walked along, in every file system and whatever for. -/
theorem locate_eq_walk {purpose purpose' : Purpose} {path : String} {target : Target}
    (hfound : t.locate cwd purpose path = .ok target) :
    t'.locate cwd purpose' path =
      t'.walk purpose' maxLinks (if path.toList.head? == some '/' then [] else cwd)
        (namesOf path) := by
  rcases locate_cases path with ⟨_, hrefused⟩ | ⟨_, ⟨fault, _, hrefused⟩ | hwalked⟩
  · cases (hrefused t cwd purpose).symm.trans hfound
  · cases (hrefused t cwd purpose).symm.trans hfound
  · exact hwalked t' cwd purpose'

/-- The same way leads to the same place. -/
theorem locate_eq_of_keepsWay {path : String} (hway : KeepsWay t t' cwd path) :
    t'.locate cwd .content path = t.locate cwd .content path := by
  rw [locate, locate]
  simp only [walk_eq hway]

theorem status_eq_of_keepsWay {path : String} (hway : KeepsWay t t' cwd path) :
    t'.status cwd path = t.status cwd path := by
  rw [status, status, locate_eq_of_keepsWay hway]

/-- Whether something is there and whether a directory is can both be told, or neither can, and
for the same fault. -/
theorem holds_cases (t : FileTree) (cwd : Location) (path : String) :
    (∃ isThere isDirectory, t.holds cwd path = .ok isThere ∧
      t.holdsDirectory cwd path = .ok isDirectory) ∨
    ∃ fault, t.holds cwd path = .error fault ∧ t.holdsDirectory cwd path = .error fault := by
  rw [holds, holdsDirectory]
  rcases t.status cwd path with fault | ⟨l, n⟩
  · dsimp only
    by_cases habsent : saysAbsent fault = true
    · rw [if_pos habsent]
      exact Or.inl ⟨false, false, rfl, rfl⟩
    · rw [if_neg habsent]
      exact Or.inr ⟨fault, rfl, rfl⟩
  · left
    cases n with
    | directory => exact ⟨true, true, rfl, rfl⟩
    | link target => exact ⟨true, false, rfl, rfl⟩
    | file id => exact ⟨true, false, rfl, rfl⟩

end Way

section NullCharacter

theorem descend_ne_nullCharacter (t : FileTree) (purpose : Purpose) (dir : Location)
    (names : List String) : t.descend purpose dir names ≠ .error .nullCharacter := by
  fun_induction t.descend purpose dir names <;> first | assumption | nofun

theorem walk_ne_nullCharacter (t : FileTree) (purpose : Purpose) (links : Nat) (dir : Location)
    (names : List String) : t.walk purpose links dir names ≠ .error .nullCharacter := by
  intro hwalk
  rcases exists_descend_of_walk_error hwalk with heq | ⟨dir', names', hdown⟩
  · cases heq
  · exact descend_ne_nullCharacter t purpose dir' names' hdown

/-- Only the text of a path decides whether it is refused for a null character. -/
theorem status_eq_nullCharacter (t : FileTree) (cwd : Location) (path : String) :
    t.status cwd path = .error .nullCharacter ↔ path.toList.contains '\x00' = true := by
  rcases locate_cases path with ⟨hnull, hrefused⟩ | ⟨hnull, hplain⟩
  · rw [status, hrefused]
    exact ⟨fun _ => hnull, fun _ => rfl⟩
  refine ⟨fun heq => ?_, fun h => absurd (hnull.symm.trans h) Bool.false_ne_true⟩
  rw [status] at heq
  rcases hplain with ⟨fault, rfl | rfl, hrefused⟩ | hwalked
  · rw [hrefused] at heq
    cases heq
  · rw [hrefused] at heq
    cases heq
  rw [hwalked] at heq
  rcases hwalk : t.walk .content maxLinks _ (namesOf path) with fault | target <;>
    rw [hwalk] at heq
  · have hfault : fault = .nullCharacter := Except.error.inj heq
    exact absurd (by rw [hwalk, hfault]) (walk_ne_nullCharacter t _ _ _ _)
  · cases target <;> cases heq

end NullCharacter

section Faults

/-- Looking for what stands at the end of a path fails because nothing usable is there, or for
a name that is too long. -/
theorem descend_error {t : FileTree} {dir : Location} {names : List String} {fault : FileFault}
    (hfails : t.descend .content dir names = .error fault) :
    saysAbsent fault = true ∨ fault = .nameTooLong := by
  fun_induction t.descend .content dir names with
  | case2 dir name rest hpoint ih => exact ih hfails
  | case3 dir name rest hpoint hup ih => exact ih hfails
  | case4 dir name rest hpoint hup hnew => exact absurd hnew Bool.false_ne_true
  | case8 dir name rest hpoint hup hnew hlong k hnode ih => exact ih hfails
  | case5 dir name rest hpoint hup hnew hlong => exact Or.inr (Except.error.inj hfails).symm
  | case7 dir name rest hpoint hup hnew hlong k hnode hmore =>
    rw [← Except.error.inj hfails]
    exact Or.inl rfl
  | case10 dir name rest hpoint hup hnew hlong k id hnode hmore =>
    rw [← Except.error.inj hfails]
    exact Or.inl rfl
  | _ => cases hfails

theorem walk_error {t : FileTree} {links : Nat} {dir : Location} {names : List String}
    {fault : FileFault} (hfails : t.walk .content links dir names = .error fault) :
    saysAbsent fault = true ∨ fault = .nameTooLong := by
  rcases exists_descend_of_walk_error hfails with rfl | ⟨_, _, hdown⟩
  · exact Or.inl rfl
  · exact descend_error hdown

theorem status_error {t : FileTree} {cwd : Location} {path : String} {fault : FileFault}
    (hfails : t.status cwd path = .error fault) :
    saysAbsent fault = true ∨ fault = .nameTooLong := by
  rw [status] at hfails
  rcases locate_cases path with ⟨_, hrefused⟩ | ⟨_, ⟨fault', hfault, hrefused⟩ | hwalked⟩
  · rw [hrefused] at hfails
    rw [← Except.error.inj hfails]
    exact Or.inl rfl
  · rw [hrefused] at hfails
    rw [← Except.error.inj hfails]
    rcases hfault with rfl | rfl
    · exact Or.inl rfl
    · exact Or.inr rfl
  rw [hwalked] at hfails
  rcases hwalk : t.walk .content maxLinks _ (namesOf path) with fault' | target <;>
    rw [hwalk] at hfails
  · rw [← Except.error.inj hfails]
    exact walk_error hwalk
  · cases target with
    | node l n => cases hfails
    | absent l =>
      rw [← Except.error.inj hfails]
      exact Or.inl rfl

/-- It can not be told whether something is at a path exactly when this, or a name on its way,
is too long. -/
theorem holds_eq_error {t : FileTree} {cwd : Location} {path : String} {fault : FileFault} :
    t.holds cwd path = .error fault ↔
      fault = .nameTooLong ∧ t.status cwd path = .error .nameTooLong := by
  constructor
  · intro hfails
    rw [holds] at hfails
    rcases hstatus : t.status cwd path with fault' | found <;> rw [hstatus] at hfails
    · rcases status_error hstatus with habsent | rfl
      · dsimp only at hfails
        rw [if_pos habsent] at hfails
        cases hfails
      · cases hfails
        exact ⟨rfl, rfl⟩
    · cases hfails
  · rintro ⟨rfl, hstatus⟩
    rw [holds, hstatus]
    rfl

end Faults

section Removal

variable {t : FileTree} {cwd l : Location}

theorem node?_erase_self (hl : l ≠ []) : (t.erase l).node? l = none := by
  rw [node?, if_neg (by simpa using hl)]
  exact Keyed.lookup_erase_self l t.nodes

theorem node?_erase_of_ne {k : Location} (hne : k ≠ l) : (t.erase l).node? k = t.node? k := by
  rw [node?, node?, show (t.erase l).nodes = Keyed.erase l t.nodes from rfl,
    Keyed.lookup_erase_of_ne hne]

/-- Nothing is found, neither at a location itself nor behind it. -/
def IsGone (l : Location) : Except FileFault (Target ⊕ (Location × List String)) → Prop
  | .ok (.inl (.absent k)) => k = l
  | .error .missing => True
  | _ => False

/-- On the way down to the name at the end, one meets the removed location, or goes where
one went before, which is not there. -/
theorem descend_erase (t : FileTree) (l dir : Location) (names : List String) :
    IsGone l ((t.erase l).descend .content dir names) ∨
      (∀ n, n ≠ .directory → t.descend .name dir names ≠ .ok (.inl (.node l n))) ∧
      (∀ next, t.descend .name dir names = .ok (.inr next) →
        (t.erase l).descend .content dir names = .ok (.inr next)) := by
  induction names generalizing dir with
  | nil =>
    right
    constructor
    · intro n hn heq
      cases heq
      exact hn rfl
    · intro next heq
      cases heq
  | cons name rest ih =>
    rcases descend_step name with hskip | hup | hlong | henter
    · rw [hskip, hskip]
      exact ih dir
    · rw [hup, hup]
      exact ih dir.dropLast
    · rw [hlong, hlong]
      exact Or.inr ⟨nofun, nofun⟩
    rw [henter, henter, opensSlash_name, opensSlash_content]
    rw [if_neg Bool.false_ne_true, if_neg Bool.false_ne_true, enter, enter]
    by_cases hmeet : dir ++ [name] = l
    · -- The removed location is met: here or behind it the walk ends.
      refine Or.inl ?_
      rw [hmeet, node?_erase_self (by rw [← hmeet]; simp)]
      by_cases hend : rest.isEmpty = true
      · simp only [hend, if_true, IsGone]
      · simp only [hend, IsGone]
        trivial
    rw [node?_erase_of_ne hmeet]
    -- Another location is met: both walks see the same node there.
    cases hfound : t.node? (dir ++ [name]) with
    | none =>
      refine Or.inr ⟨fun n _ heq => ?_, fun next heq => ?_⟩ <;>
        by_cases hend : rest.isEmpty = true <;> simp [hend] at heq
    | some node =>
      cases node with
      | directory => exact ih (dir ++ [name])
      | file id =>
        refine Or.inr ⟨fun n _ heq => ?_, fun next heq => ?_⟩ <;>
          by_cases hend : rest.isEmpty = true <;> simp [hend] at heq
        exact hmeet heq.1
      | link target =>
        by_cases hend : rest.isEmpty = true
        · refine Or.inr ⟨fun n _ heq => ?_, fun next heq => ?_⟩ <;> simp [hend] at heq
          exact hmeet heq.1
        · refine Or.inr ⟨fun n _ heq => ?_, fun next heq => ?_⟩ <;> simp [hend] at heq
          simp [hend, heq]

theorem landing_of_isGone {go : Location → List String → Except FileFault Target}
    {found : Except FileFault (Target ⊕ (Location × List String))} (hgone : IsGone l found) :
    landing go found = .ok (.absent l) ∨ landing go found = .error .missing := by
  rcases found with fault | target | next
  · cases fault with
    | missing => exact Or.inr rfl
    | _ => exact hgone.elim
  · cases target with
    | absent k =>
      rw [show k = l from hgone]
      exact Or.inl rfl
    | node k n => exact hgone.elim
  · exact hgone.elim

/-- Where a walk to a name has ended, nothing is found once this is removed. -/
theorem walk_erase {links : Nat} {dir : Location} {names : List String} {n : Node}
    (hn : n ≠ .directory) (hwalk : t.walk .name links dir names = .ok (.node l n)) :
    (t.erase l).walk .content links dir names = .ok (.absent l) ∨
      (t.erase l).walk .content links dir names = .error .missing := by
  induction links generalizing dir names with
  | zero =>
    rw [walk_zero] at hwalk ⊢
    rcases descend_erase t l dir names with hgone | ⟨hno, _⟩
    · exact landing_of_isGone hgone
    · rcases hfound : t.descend .name dir names with fault | target | next <;>
        rw [hfound] at hwalk
      · cases hwalk
      · cases hwalk
        exact absurd hfound (hno n hn)
      · cases hwalk
  | succ links ih =>
    rw [walk_succ] at hwalk ⊢
    rcases descend_erase t l dir names with hgone | ⟨hno, hnext⟩
    · exact landing_of_isGone hgone
    · rcases hfound : t.descend .name dir names with fault | target | next <;>
        rw [hfound] at hwalk
      · cases hwalk
      · cases hwalk
        exact absurd hfound (hno n hn)
      · rw [hnext next hfound]
        exact ih hwalk

theorem unlink_eq_ok {t' : FileTree} {path : String} :
    t.unlink cwd path = .ok t' ↔
      ∃ l n, t.locate cwd .name path = .ok (.node l n) ∧ n ≠ .directory ∧ t' = t.erase l := by
  rw [unlink]
  rcases t.locate cwd .name path with fault | target
  · simp
  · cases target with
    | absent l => simp
    | node l n => cases n <;> simp [eq_comm]

/-- What was removed is not found any more. -/
theorem status_of_unlink {t' : FileTree} {path : String} (hunlink : t.unlink cwd path = .ok t') :
    t'.status cwd path = .error .missing := by
  obtain ⟨l, n, hfound, hn, rfl⟩ := unlink_eq_ok.1 hunlink
  have hwalk := hfound.symm.trans (locate_eq_walk hfound)
  rw [status, locate_eq_walk hfound]
  rcases walk_erase hn hwalk.symm with hgone | hgone <;> rw [hgone]

end Removal

end FileTree

end FindingLedger
