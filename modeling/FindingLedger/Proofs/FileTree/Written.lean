/-
What is read at a path that was written.

A file is opened for writing where the path leads, and created there when the name at its end
is new.  Either way the same path leads to this file afterwards, links included, and its bytes
are those that were written.
-/
import FindingLedger.Proofs.FileTree.Sound

namespace FindingLedger

namespace FileTree

/-- A file system after a file came to be at a location, where there was nothing else. -/
structure Gains (t t' : FileTree) (l : Location) (id : Nat) : Prop where
  before : t.node? l = none ∨ t.node? l = some (.file id)
  after : t'.node? l = some (.file id)
  others : ∀ k, k ≠ l → t'.node? k = t.node? k

/-- A file that is at a location, or a new name for it. -/
def IsSlot (l : Location) (id : Nat) (target : Target) : Prop :=
  target = .absent l ∨ target = .node l (.file id)

variable {t t' : FileTree} {cwd l : Location} {id : Nat}

theorem Gains.node?_eq (hgains : Gains t t' l id) {k : Location} {n : Node}
    (hnode : t.node? k = some n) (hn : ∀ i, n ≠ .file i) : t'.node? k = some n := by
  rw [hgains.others k, hnode]
  rintro rfl
  rcases hgains.before with hnone | hfile
  · cases hnode.symm.trans hnone
  · cases hnode.symm.trans hfile
    exact hn id rfl

/-- The way down to a file that is to be written leads to it once it is there, and on the way
the same links are followed. -/
theorem Gains.descend (hgains : Gains t t' l id) (dir : Location) (names : List String) :
    (∀ target, IsSlot l id target → t.descend .creation dir names = .ok (.inl target) →
      t'.descend .content dir names = .ok (.inl (.node l (.file id)))) ∧
    ∀ next, t.descend .creation dir names = .ok (.inr next) →
      t'.descend .content dir names = .ok (.inr next) := by
  induction names generalizing dir with
  | nil =>
    refine ⟨fun target hslot hfound => ?_, by rintro _ ⟨⟩⟩
    cases hfound
    rcases hslot with hslot | hslot <;> cases hslot
  | cons name rest ih =>
    rcases descend_step name with hskip | hup | hlong | henter
    · rw [hskip, hskip]
      exact ih dir
    · rw [hup, hup]
      exact ih dir.dropLast
    · rw [hlong]
      exact ⟨by rintro _ _ ⟨⟩, by rintro _ ⟨⟩⟩
    rw [henter, henter, opensSlash_content, if_neg Bool.false_ne_true]
    -- A path that ends with a slash creates nothing.
    by_cases hslash : opensSlash .creation rest = true
    · rw [if_pos hslash]
      exact ⟨by rintro _ _ ⟨⟩, by rintro _ ⟨⟩⟩
    rw [if_neg hslash, enter, enter]
    cases hfound : t.node? (dir ++ [name]) with
    | none =>
      cases rest with
      | nil =>
        refine ⟨fun target hslot htarget => ?_, by rintro _ ⟨⟩⟩
        cases htarget
        rcases hslot with hslot | hslot <;> cases hslot
        rw [hgains.after]
        rfl
      | cons next rest => exact ⟨by rintro _ _ ⟨⟩, by rintro _ ⟨⟩⟩
    | some n =>
      cases n with
      | directory =>
        -- Only the place that gains the file may have changed, and it is no directory.
        rw [hgains.node?_eq hfound (by rintro _ ⟨⟩)]
        exact ih (dir ++ [name])
      | file other =>
        cases rest with
        | nil =>
          refine ⟨fun target hslot htarget => ?_, by rintro _ ⟨⟩⟩
          cases htarget
          rcases hslot with hslot | hslot <;> cases hslot
          rw [hgains.after]
          rfl
        | cons next rest => exact ⟨by rintro _ _ ⟨⟩, by rintro _ ⟨⟩⟩
      | link target =>
        have hcreates : (rest.isEmpty && Purpose.creation == .name) = false := Bool.and_false _
        have hlooks : (rest.isEmpty && Purpose.content == .name) = false := Bool.and_false _
        rw [hgains.node?_eq hfound (by rintro _ ⟨⟩)]
        dsimp only
        rw [hcreates, hlooks]
        exact ⟨by rintro _ _ ⟨⟩, fun next hnext => hnext⟩

theorem Gains.walk (hgains : Gains t t' l id) {links : Nat} {dir : Location}
    {names : List String} {target : Target} (hslot : IsSlot l id target)
    (hwalk : t.walk .creation links dir names = .ok target) :
    t'.walk .content links dir names = .ok (.node l (.file id)) := by
  induction links generalizing dir names with
  | zero =>
    rw [walk_zero] at hwalk ⊢
    rcases hdown : t.descend .creation dir names with fault | found | next <;>
      rw [hdown] at hwalk <;> cases hwalk
    rw [(hgains.descend dir names).1 target hslot hdown]
    rfl
  | succ links ih =>
    rw [walk_succ] at hwalk ⊢
    rcases hdown : t.descend .creation dir names with fault | found | next <;>
      rw [hdown] at hwalk
    · cases hwalk
    · cases hwalk
      rw [(hgains.descend dir names).1 target hslot hdown]
      rfl
    · rw [(hgains.descend dir names).2 next hdown]
      exact ih hwalk

/-- A path that a file is opened at for writing leads to this file afterwards. -/
theorem Gains.status_eq (hgains : Gains t t' l id) {path : String} {target : Target}
    (hslot : IsSlot l id target) (hfound : t.locate cwd .creation path = .ok target) :
    t'.status cwd path = .ok (l, .file id) := by
  have hwalk := hfound.symm.trans (locate_eq_walk hfound)
  rw [status, locate_eq_walk hfound, hgains.walk hslot hwalk.symm]

/-- A new name is not that of the root. -/
theorem ne_nil_of_descend_absent {purpose : Purpose} {dir : Location} {names : List String}
    (hfound : t.descend purpose dir names = .ok (.inl (.absent l))) :
    l ≠ [] ∧ t.node? l = none := by
  fun_induction t.descend purpose dir names with
  | case2 dir name rest hpoint ih => exact ih hfound
  | case3 dir name rest hpoint hup ih => exact ih hfound
  | case6 dir name rest hpoint hup hslash hlong k hnode hend =>
    obtain rfl := Target.absent.inj (Sum.inl.inj (Except.ok.inj hfound))
    exact ⟨by simp [k], hnode⟩
  | case8 dir name rest hpoint hup hslash hlong k hnode ih => exact ih hfound
  | _ => simp at hfound

theorem ne_nil_of_walk_absent {purpose : Purpose} {links : Nat} {dir : Location}
    {names : List String} (hfound : t.walk purpose links dir names = .ok (.absent l)) :
    l ≠ [] ∧ t.node? l = none := by
  obtain ⟨_, _, hdown⟩ := exists_descend_of_walk hfound
  exact ne_nil_of_descend_absent hdown

/-- Opening a file for writing makes it stand where the path leads. -/
theorem exists_gains_of_openFile {path : String}
    (hopen : t.openFile cwd path = .ok (t', id)) :
    ∃ l target, IsSlot l id target ∧ t.locate cwd .creation path = .ok target ∧
      Gains t t' l id := by
  rw [openFile] at hopen
  rcases hfound : t.locate cwd .creation path with fault | target <;> rw [hfound] at hopen
  · cases hopen
  cases target with
  | absent l =>
    cases hopen
    have hwalk := hfound.symm.trans (locate_eq_walk hfound)
    obtain ⟨hl, hnone⟩ := ne_nil_of_walk_absent hwalk.symm
    refine ⟨l, _, Or.inl rfl, rfl, Or.inl hnone, ?_, fun k hk => ?_⟩
    · rw [node?, if_neg (by simpa using hl)]
      exact Keyed.lookup_put_self l _ t.nodes
    · rw [node?, node?]
      exact congrArg _ (Keyed.lookup_put_of_ne hk _ _)
  | node l n =>
    cases n with
    | directory => cases hopen
    | link target => cases hopen
    | file other =>
      cases hopen
      have hfile : Node.file id ≠ .directory := by rintro ⟨⟩
      have hnode := locate_node hfile hfound
      exact ⟨l, _, Or.inr rfl, rfl, Or.inr hnode, hnode, fun _ _ => rfl⟩

/-- What was written at a path is there, and is read again. -/
theorem status_of_write {path : String} {bytes : ByteArray}
    (hwrite : t.write cwd path bytes = .ok t') :
    t'.holds cwd path = .ok true ∧ t'.read cwd path = .ok bytes := by
  rw [write] at hwrite
  obtain ⟨⟨opened, id⟩, hopen, hset⟩ := bind_eq_ok.1 hwrite
  cases hset
  obtain ⟨l, target, hslot, hfound, hgains⟩ := exists_gains_of_openFile hopen
  have hsame : Gains t (opened.setBytes id bytes) l id :=
    ⟨hgains.before, hgains.after, hgains.others⟩
  have hstatus := hsame.status_eq hslot hfound
  constructor
  · rw [holds, hstatus]
  · rw [read, hstatus]
    dsimp only
    rw [bytesOf, setBytes, Keyed.lookup_put_self]
    rfl

end FileTree

end FindingLedger
