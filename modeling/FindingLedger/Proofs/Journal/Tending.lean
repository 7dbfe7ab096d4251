/-
What tending log files does to a file system.

Tending the log files that are asked for goes in steps: a directory above one is made, one is
created or opened, one that was put aside is removed, one is put aside, or a line is written.
Main statement: whatever a journal does, it does in such steps, and apart from the files and the
places that these meet, the file system stays as it is.
-/
import FindingLedger.Proofs.Journal.Upkeep
import FindingLedger.Proofs.Path
import Mathlib.Data.Set.Insert
import Mathlib.Logic.Relation

namespace FindingLedger

namespace Journal

/-- A file system in which log files are tended: with the files that were opened as such so far,
and the places of names that were made, given or removed for them. -/
structure Tended where
  tree : FileTree
  files : Set Nat
  places : Set Location

/-- A file system before any log file is tended. -/
def Tended.start (t : FileTree) : Tended := ⟨t, ∅, ∅⟩

variable {cwd : Location} {Asked : JournalSetup → Prop}

/-- One step of tending log files, for a setup that is asked for. -/
inductive Tends (cwd : Location) (Asked : JournalSetup → Prop) : Tended → Tended → Prop
  /-- A directory above the file is made. -/
  | makes {x : Tended} {setup : JournalSetup} {p : Path} {k : Nat} {l : Location}
      (isAsked : Asked setup) (hasFile : setup.file = some p)
      (isAbsent : x.tree.locate cwd .name (Path.parent^[k + 1] p).text = .ok (.absent l)) :
      Tends cwd Asked x
        ⟨{ x.tree with nodes := Keyed.put l .directory x.tree.nodes }, x.files, insert l x.places⟩
  /-- The file is created. -/
  | creates {x : Tended} {setup : JournalSetup} {p : Path} {l : Location}
      (isAsked : Asked setup) (hasFile : setup.file = some p)
      (isAbsent : x.tree.locate [] .creation (absolute cwd p) = .ok (.absent l)) :
      Tends cwd Asked x
        ⟨(x.tree.create l).1, insert x.tree.next x.files, insert l x.places⟩
  /-- The file is there, and opened. -/
  | opens {x : Tended} {setup : JournalSetup} {p : Path} {l : Location} {id : Nat}
      (isAsked : Asked setup) (hasFile : setup.file = some p)
      (isFile : x.tree.locate [] .creation (absolute cwd p) = .ok (.node l (.file id))) :
      Tends cwd Asked x ⟨x.tree, insert id x.files, x.places⟩
  /-- The name of a backup is cleared for another. -/
  | clears {x : Tended} {setup : JournalSetup} {p : Path} {i : Nat} {l : Location} {n : Node}
      (isAsked : Asked setup) (hasFile : setup.file = some p) (isBackup : i < setup.backups)
      (isNamed : x.tree.locate [] .name (logName (absolute cwd p) (i + 1)) = .ok (.node l n))
      (isNoDirectory : n ≠ .directory) :
      Tends cwd Asked x ⟨x.tree.erase l, x.files, insert l x.places⟩
  /-- The file, or a backup of it, is put aside under the name of the next backup. -/
  | moves {x : Tended} {setup : JournalSetup} {p : Path} {i : Nat} {l : Location} {n : Node}
      {found : FileTree.Target}
      (isAsked : Asked setup) (hasFile : setup.file = some p) (isBackup : i < setup.backups)
      (isSource : x.tree.locate [] .name (logName (absolute cwd p) i) = .ok (.node l n))
      (isTarget : x.tree.locate [] .name (logName (absolute cwd p) (i + 1)) = .ok found) :
      Tends cwd Asked x
        ⟨x.tree.rename l found.location, x.files,
          x.places ∪ {k | l <+: k ∨ found.location <+: k}⟩
  /-- A line is written to a file that was opened. -/
  | writes {x : Tended} {id : Nat} (isOpen : id ∈ x.files) (line : String) :
      Tends cwd Asked x
        ⟨x.tree.setBytes id (x.tree.bytesOf id ++ line.toUTF8), x.files, x.places⟩

/-- Tending log files, step by step. -/
abbrev TendsTo (cwd : Location) (Asked : JournalSetup → Prop) : Tended → Tended → Prop :=
  Relation.ReflTransGen (Tends cwd Asked)

namespace Tended

/-- The file system is sound, and the log files are among its files. -/
structure IsSound (x : Tended) : Prop where
  tree : x.tree.IsSound
  lt : ∀ id ∈ x.files, id < x.tree.next

theorem isSound_start {t : FileTree} (ht : t.IsSound) : (start t).IsSound :=
  ⟨ht, fun _ hid => hid.elim⟩

/-- Apart from the log files and from what was done for them, everything is as it was. -/
structure Keeps (x y : Tended) : Prop where
  files : x.files ⊆ y.files
  places : x.places ⊆ y.places
  node : ∀ l, l ∉ y.places → y.tree.node? l = x.tree.node? l
  bytes : ∀ id, id ∉ y.files → y.tree.bytesOf id = x.tree.bytesOf id

theorem Keeps.refl (x : Tended) : x.Keeps x :=
  ⟨subset_rfl, subset_rfl, fun _ _ => rfl, fun _ _ => rfl⟩

theorem Keeps.trans {x y z : Tended} (h : x.Keeps y) (h' : y.Keeps z) : x.Keeps z := by
  constructor
  · exact h.files.trans h'.files
  · exact h.places.trans h'.places
  · exact fun l hl => (h'.node l hl).trans (h.node l fun hmem => hl (h'.places hmem))
  · exact fun id hid => (h'.bytes id hid).trans (h.bytes id fun hmem => hid (h'.files hmem))

variable {x y : Tended}

/-- A sound file system that has grown, with no more log files, is sound. -/
theorem IsSound.grown (hx : x.IsSound) {t' : FileTree} (hgrown : x.tree.Grown t')
    (places : Set Location) : IsSound ⟨t', x.files, places⟩ :=
  ⟨hgrown.sound, fun id hid => Nat.lt_of_lt_of_le (hx.lt id hid) hgrown.next_le⟩

/-- Only names have changed. -/
theorem keeps_of_grown {t' : FileTree} (hgrown : x.tree.Grown t') {places : Set Location}
    (hplaces : x.places ⊆ places) (hnode : ∀ l, l ∉ places → t'.node? l = x.tree.node? l) :
    x.Keeps ⟨t', x.files, places⟩ :=
  ⟨subset_rfl, hplaces, hnode, fun id _ => hgrown.bytes id⟩

end Tended

open Tended

variable {x y : Tended}

/-- A step keeps what it does not meet, and the file system stays sound. -/
theorem Tends.keeps (hstep : Tends cwd Asked x y) (hx : x.IsSound) : y.IsSound ∧ x.Keeps y := by
  cases hstep with
  | @makes setup p k l _ _ _ =>
    have hgrown := FileTree.grown_putDirectory hx.tree l
    refine ⟨hx.grown hgrown _, keeps_of_grown hgrown (Set.subset_insert l _) ?_⟩
    exact fun k hk => FileTree.node?_put_of_ne (fun heq => hk (Or.inl heq))
  | @creates setup p l _ _ _ =>
    have hgrown := FileTree.grown_create hx.tree l
    refine ⟨⟨hgrown.sound, ?_⟩, Set.subset_insert _ _, Set.subset_insert _ _, ?_, ?_⟩
    · rintro id (rfl | hid)
      · exact Nat.lt_succ_self _
      · exact Nat.lt_of_lt_of_le (hx.lt id hid) hgrown.next_le
    · exact fun k hk => FileTree.node?_put_of_ne (fun heq => hk (Or.inl heq))
    · exact fun id _ => hgrown.bytes id
  | @opens setup p l id _ _ hfile =>
    refine ⟨⟨hx.tree, ?_⟩, Set.subset_insert _ _, subset_rfl, fun _ _ => rfl, fun _ _ => rfl⟩
    rintro other (rfl | hother)
    · exact hx.tree.file_lt l _ (FileTree.locate_file hfile)
    · exact hx.lt other hother
  | @clears setup p i l n _ _ _ _ _ =>
    have hgrown := FileTree.grown_erase hx.tree l
    refine ⟨hx.grown hgrown _, keeps_of_grown hgrown (Set.subset_insert l _) ?_⟩
    exact fun k hk => FileTree.node?_erase_of_ne (fun heq => hk (Or.inl heq))
  | @moves setup p i l n found _ _ _ _ _ =>
    have hgrown := FileTree.grown_rename hx.tree l found.location
    refine ⟨hx.grown hgrown _, keeps_of_grown hgrown Set.subset_union_left ?_⟩
    intro k hk
    exact FileTree.node?_rename (fun hbelow => hk (Or.inr (Or.inl hbelow)))
      (fun hbelow => hk (Or.inr (Or.inr hbelow)))
  | @writes id hopen line =>
    refine ⟨⟨?_, hx.lt⟩, subset_rfl, subset_rfl, fun _ _ => rfl, ?_⟩
    · exact FileTree.isSound_setBytes hx.tree (hx.lt id hopen) _
    · intro other hother
      have hne : other ≠ id := fun heq => hother (heq ▸ hopen)
      exact FileTree.bytesOf_setBytes_of_ne hne _

/-- So does any number of steps. -/
theorem TendsTo.keeps (hsteps : TendsTo cwd Asked x y) (hx : x.IsSound) :
    y.IsSound ∧ x.Keeps y := by
  induction hsteps with
  | refl => exact ⟨hx, Keeps.refl x⟩
  | tail _ hstep ih =>
    obtain ⟨hsound, hkeeps⟩ := ih
    obtain ⟨hsound', hkeeps'⟩ := hstep.keeps hsound
    exact ⟨hsound', hkeeps.trans hkeeps'⟩

/-- Where no log file is asked for, and none was, nothing is done. -/
theorem TendsTo.eq_start (hnone : ∀ setup, Asked setup → setup.file = none) {t : FileTree}
    (hsteps : TendsTo cwd Asked (start t) y) : y = start t := by
  induction hsteps with
  | refl => rfl
  | tail _ hstep ih =>
    subst ih
    cases hstep with
    | writes hopen => exact hopen.elim
    | _ isAsked hasFile => cases (hnone _ isAsked).symm.trans hasFile

section Steps

variable {now : Moment} {t' : FileTree} {j : Journal}

/-- Tending log files may leave a file system behind. -/
def Leads (cwd : Location) (Asked : JournalSetup → Prop) (x : Tended) (t' : FileTree) : Prop :=
  ∃ y, TendsTo cwd Asked x y ∧ y.tree = t'

theorem Leads.refl (x : Tended) : Leads cwd Asked x x.tree := ⟨x, .refl, rfl⟩

theorem head?_absolute (cwd : Location) (p : Path) :
    (absolute cwd p).toList.head? = some '/' := by
  have hanchor : (Path.join ⟨.root, cwd⟩ p).anchor ≠ .here := by
    rw [Path.join]
    split
    · rename_i habsolute
      exact bne_iff_ne.1 habsolute
    · nofun
  exact Path.head?_text hanchor

/-- What an absolute path leads to does not depend on the working directory. -/
theorem openFile_absolute (t : FileTree) (cwd : Location) (p : Path) :
    t.openFile cwd (absolute cwd p) = t.openFile [] (absolute cwd p) := by
  have hlocate : t.locate cwd .creation (absolute cwd p) =
      t.locate [] .creation (absolute cwd p) := by
    rw [FileTree.locate, FileTree.locate, head?_absolute]
    rfl
  rw [FileTree.openFile, FileTree.openFile, hlocate]

/-- A log file is open that is asked for. -/
structure IsLog (cwd : Location) (Asked : JournalSetup → Prop) (x : Tended) (f : JournalFile) :
    Prop where
  isOpen : f.id ∈ x.files
  asked : ∃ setup p, Asked setup ∧ setup.file = some p ∧ f.path = absolute cwd p ∧
    f.backups = setup.backups

theorem IsLog.mono {f : JournalFile} (hlog : IsLog cwd Asked x f) (hfiles : x.files ⊆ y.files) :
    IsLog cwd Asked y f :=
  ⟨hfiles hlog.isOpen, hlog.asked⟩

/-- All files of sinks are log files that are open. -/
def AreLogs (cwd : Location) (Asked : JournalSetup → Prop) (x : Tended) (sinks : List Sink) :
    Prop :=
  ∀ f, Sink.file f ∈ sinks → IsLog cwd Asked x f

variable {setup : JournalSetup} {p : Path}

theorem exists_opened (isAsked : Asked setup) (hasFile : setup.file = some p) {id : Nat}
    (hopen : x.tree.openFile [] (absolute cwd p) = .ok (t', id)) :
    ∃ y, Tends cwd Asked x y ∧ y.tree = t' ∧ id ∈ y.files := by
  rw [FileTree.openFile] at hopen
  rcases hfound : x.tree.locate [] .creation (absolute cwd p) with fault | target <;>
    rw [hfound] at hopen
  · cases hopen
  cases target with
  | absent l =>
    cases hopen
    exact ⟨_, .creates isAsked hasFile hfound, rfl, Or.inl rfl⟩
  | node l n =>
    cases n with
    | directory => cases hopen
    | link target => cases hopen
    | file other =>
      cases hopen
      exact ⟨_, .opens isAsked hasFile hfound, rfl, Or.inl rfl⟩

theorem leads_makeDirectories (x : Tended) (cwd : Location) (isAsked : Asked setup)
    (hasFile : setup.file = some p) :
    Leads cwd Asked x (x.tree.makeDirectories cwd p.parent).1 := by
  have hmake : ∀ (k : Nat) (t t' : FileTree), Leads cwd Asked x t →
      t.makeDirectory cwd (Path.parent^[k] p.parent).text = .ok t' → Leads cwd Asked x t' := by
    rintro k t t' ⟨y, hsteps, rfl⟩ hmade
    obtain ⟨l, habsent, rfl⟩ := FileTree.makeDirectory_eq_ok.1 hmade
    exact ⟨_, hsteps.tail (.makes isAsked hasFile (k := k) habsent), rfl⟩
  exact FileTree.makeDirectoriesFrom_induction hmake (p.parent.segments.length + 1) 0 (Leads.refl x)

/-- Setting a journal up opens the log file that is asked for, or fails on the way. -/
theorem exists_setUp (x : Tended) (cwd : Location) (j : Journal) (isAsked : Asked setup) :
    ∃ y, TendsTo cwd Asked x y ∧ y.tree = (j.setUp x.tree cwd setup).1 ∧
      AreLogs cwd Asked y (j.setUp x.tree cwd setup).2.1.sinks := by
  have hconsole : ∀ y : Tended, AreLogs cwd Asked y [.console setup.rank setup.json] :=
    fun y f hf => nomatch List.mem_singleton.1 hf
  rw [setUp]
  cases hfile : setup.file with
  | none => exact ⟨x, .refl, rfl, hconsole x⟩
  | some p =>
    dsimp only
    rw [openFile]
    obtain ⟨y, hsteps, hy⟩ := leads_makeDirectories x cwd isAsked hfile
    -- The directories are made even if the file can not be opened.
    rcases hdirs : x.tree.makeDirectories cwd p.parent with ⟨t₁, fault?⟩
    rw [hdirs] at hy
    cases fault? with
    | some e => exact ⟨y, hsteps, hy, hconsole y⟩
    | none =>
      dsimp only at hy ⊢
      subst hy
      rw [openFile_absolute]
      rcases hopen : y.tree.openFile [] (absolute cwd p) with fault | ⟨t₂, id⟩
      · exact ⟨y, hsteps, rfl, hconsole y⟩
      · obtain ⟨z, hstep, hz, hid⟩ := exists_opened isAsked hfile hopen
        refine ⟨z, hsteps.tail hstep, hz, ?_⟩
        intro f hf
        rcases List.mem_cons.1 hf with hf | hf
        · cases hf
        · cases List.mem_singleton.1 hf
          exact ⟨hid, setup, p, isAsked, hfile, rfl, rfl⟩

/-- A line is written to a log file, which may be put aside before. -/
theorem exists_append (hx : x.IsSound) {f : JournalFile} (hlog : IsLog cwd Asked x f)
    (line : String) :
    ∃ y, TendsTo cwd Asked x y ∧ y.tree = (append x.tree f line).1 ∧
      IsLog cwd Asked y (append x.tree f line).2 := by
  obtain ⟨hid, setup, p, isAsked, hasFile, hpath, hbackups⟩ := hlog
  have hclear : ∀ (i : Nat) (t₁ t₂ : FileTree), i < setup.backups → Leads cwd Asked x t₁ →
      clear t₁ (logName (absolute cwd p) (i + 1)) = .ok t₂ → Leads cwd Asked x t₂ := by
    rintro i t₁ t₂ hi ⟨y, hsteps, rfl⟩ hcleared
    rw [clear] at hcleared
    split at hcleared
    · obtain ⟨l, n, hnamed, hn, rfl⟩ := FileTree.unlink_eq_ok.1 hcleared
      exact ⟨_, hsteps.tail (.clears isAsked hasFile hi hnamed hn), rfl⟩
    · cases hcleared
      exact ⟨y, hsteps, rfl⟩
  have hmove : ∀ (i : Nat) (t₁ t₂ : FileTree), i < setup.backups → Leads cwd Asked x t₁ →
      t₁.move [] (logName (absolute cwd p) i) (logName (absolute cwd p) (i + 1)) = .ok t₂ →
      Leads cwd Asked x t₂ := by
    rintro i t₁ t₂ hi ⟨y, hsteps, rfl⟩ hmoved
    obtain ⟨l, n, found, hsource, htarget, rfl⟩ := FileTree.move_eq_ok hmoved
    exact ⟨_, hsteps.tail (.moves isAsked hasFile hi hsource htarget), rfl⟩
  -- Each step of putting aside is one that log files are tended by; so is the line at the end.
  rcases append_cases hclear hmove hpath hbackups (Leads.refl x) line with
    ⟨t', ⟨y, hsteps, rfl⟩, heq⟩ | heq | ⟨t₁, t', id, ⟨y, hsteps, rfl⟩, hopen, heq⟩ <;> rw [heq]
  · have hfiles := (hsteps.keeps hx).2.files
    exact ⟨y, hsteps, rfl, hfiles hid, setup, p, isAsked, hasFile, hpath, hbackups⟩
  · exact ⟨_, .single (.writes hid line), rfl, hid, setup, p, isAsked, hasFile, hpath, hbackups⟩
  · obtain ⟨z, hstep, rfl, hopened⟩ := exists_opened isAsked hasFile hopen
    exact ⟨_, (hsteps.tail hstep).tail (.writes hopened line), rfl, hopened, setup, p, isAsked,
      hasFile, hpath, hbackups⟩

theorem exists_write (now : Moment) (r : Record) (hx : x.IsSound) {s : Sink}
    (hs : AreLogs cwd Asked x [s]) :
    ∃ y, TendsTo cwd Asked x y ∧ y.tree = (write now r x.tree s).1 ∧
      AreLogs cwd Asked y [(write now r x.tree s).2.1] := by
  cases s with
  | console rank json => exact ⟨x, .refl, rfl, hs⟩
  | file f =>
    obtain ⟨y, hsteps, hy, hlog⟩ := exists_append hx (hs f List.mem_cons_self)
      ((if f.json then r.jsonLine now else r.fileLine now) ++ "\n")
    refine ⟨y, hsteps, hy, ?_⟩
    intro f' hf'
    cases List.mem_singleton.1 hf'
    exact hlog

theorem exists_writeAll (r : Record) (hx : x.IsSound) {sinks : List Sink}
    (hsinks : AreLogs cwd Asked x sinks) :
    ∃ y, TendsTo cwd Asked x y ∧ y.tree = (writeAll now r x.tree sinks).1 ∧
      AreLogs cwd Asked y (writeAll now r x.tree sinks).2.1 := by
  induction sinks generalizing x with
  | nil => exact ⟨x, .refl, rfl, hsinks⟩
  | cons s rest ih =>
    obtain ⟨y, hfirst, hy, hlog⟩ := exists_write now r hx (s := s) fun f hf =>
      hsinks f (by rw [List.mem_singleton.1 hf]; exact List.mem_cons_self)
    obtain ⟨hsound, hkeeps⟩ := hfirst.keeps hx
    obtain ⟨z, hrest, hz, hlogs⟩ := ih hsound fun f hf =>
      (hsinks f (List.mem_cons_of_mem _ hf)).mono hkeeps.files
    have hmore := (hrest.keeps hsound).2.files
    rw [writeAll]
    rw [hy] at hz hlogs
    refine ⟨z, hfirst.trans hrest, hz, ?_⟩
    intro f hf
    rcases List.mem_cons.1 hf with hf | hf
    · exact (hlog f (List.mem_singleton.2 hf)).mono hmore
    · exact hlogs f hf

theorem exists_take (now : Moment) (r : Record) (hx : x.IsSound)
    (hj : AreLogs cwd Asked x j.sinks) :
    ∃ y, TendsTo cwd Asked x y ∧ y.tree = (j.take now r x.tree).1 ∧
      AreLogs cwd Asked y (j.take now r x.tree).2.1.sinks := by
  rw [take]
  split
  · exact ⟨x, .refl, rfl, hj⟩
  split
  · exact ⟨x, .refl, rfl, hj⟩
  · exact exists_writeAll r hx hj

/-- All that a journal does to the file system while it takes records is to tend its log
files. -/
theorem exists_takeAll (now : Moment) (rs : List Record) (hx : x.IsSound)
    (hj : AreLogs cwd Asked x j.sinks) :
    ∃ y, TendsTo cwd Asked x y ∧ y.tree = (j.takeAll now rs x.tree).1 := by
  induction rs generalizing x j with
  | nil => exact ⟨x, .refl, rfl⟩
  | cons r rest ih =>
    obtain ⟨y, hfirst, hy, hlogs⟩ := exists_take now r hx hj
    obtain ⟨z, hrest, hz⟩ := ih (hfirst.keeps hx).1 hlogs
    refine ⟨z, hfirst.trans hrest, ?_⟩
    rw [hz, takeAll_cons, hy]

end Steps

end Journal

end FindingLedger
