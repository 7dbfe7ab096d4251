/-
A name in a directory.

A path that leads to a directory may be written with single points and with slashes to spare.
The path with a name behind it is written without them, and leads to what this name stands for in
the directory.
-/
import FindingLedger.Proofs.FileTree.Written
import FindingLedger.Proofs.Path

namespace FindingLedger

namespace Path

variable {s name : String} {segments : List String} {anchor : Anchor}

def below (p : Path) (name : String) : Path := { p with segments := p.segments ++ [name] }

theorem isPlain_below {p : Path} (hplain : IsPlain p.segments) (hname : IsPlain [name]) :
    IsPlain (p.below name).segments := by
  intro x hx
  rcases List.mem_append.1 hx with hx | hx
  · exact hplain x hx
  · exact hname x hx

theorem text_below (p : Path) (name : String) :
    (p.below name).text = anchorText p.anchor ++ "/".intercalate (p.segments ++ [name]) := by
  simp [text, below]

theorem exists_text_below (p : Path) (name : String) :
    ∃ front, (p.below name).text = front ++ name := by
  have hjoined : ∃ front, "/".intercalate (p.segments ++ [name]) = front ++ name := by
    cases p.segments with
    | nil => exact ⟨"", by simp⟩
    | cons s rest =>
      refine ⟨"/".intercalate (s :: rest) ++ "/", ?_⟩
      rw [String.intercalate_append_of_ne_nil (by simp) (by simp), String.intercalate_singleton]
  obtain ⟨front, hfront⟩ := hjoined
  refine ⟨anchorText p.anchor ++ front, ?_⟩
  rw [String.append_assoc, ← hfront, text_below]

theorem pieces_text_below {p : Path} (hplain : IsPlain p.segments) (hname : IsPlain [name]) :
    pieces (p.below name).text = p.segments ++ [name] := by
  have hjoined := pieces_intercalate (isPlain_below hplain hname)
  rw [below] at hjoined
  rw [text_below]
  cases p.anchor with
  | here => rw [anchorText, String.empty_append, hjoined]
  | root => rw [anchorText, pieces_slash, hjoined]
  | doubleRoot =>
    have htwo (tail : String) : "//" ++ tail = "/" ++ ("/" ++ tail) := by
      rw [← String.append_assoc]
      rfl
    rw [anchorText, htwo, pieces_slash, pieces_slash, hjoined]

/-- A path starts at the root where its text does. -/
theorem anchor_ofString_eq_here (s : String) :
    (ofString s).anchor = .here ↔ s.toList.head? ≠ some '/' := by
  constructor
  · intro hhere hhead
    obtain ⟨rest, hrest⟩ := List.head?_eq_some_iff.1 hhead
    rw [ofString, hrest] at hhere
    dsimp only at hhere
    unfold anchorOf at hhere
    split at hhere
    · cases hhere
    · cases hhere
    · cases hhere
    · next hother => exact hother rest rfl
  · exact anchorOf_here

/-- A path with a name behind it starts with a slash where the text of the path does. -/
theorem head?_text_below (hname : IsPlain [name]) :
    (((ofString s).below name).text.toList.head? == some '/') =
      (s.toList.head? == some '/') := by
  have hplain := isPlain_below (isPlain_ofString s) hname
  by_cases hhead : s.toList.head? = some '/'
  · have hanchor : ((ofString s).below name).anchor ≠ .here := fun hhere =>
      (anchor_ofString_eq_here s).1 hhere hhead
    rw [head?_text hanchor, hhead]
  · have hanchor : (ofString s).anchor = .here := anchorOf_here hhead
    rw [text_below, hanchor, anchorText, String.empty_append, beq_eq_false_iff_ne.2 hhead,
      beq_eq_false_iff_ne]
    exact head?_intercalate_ne hplain

/-- The characters of a segment are characters of the text. -/
theorem mem_of_mem_segments {x : String} (hx : x ∈ (ofString s).segments) :
    ∀ c ∈ x.toList, c ∈ s.toList :=
  fun _ hc => mem_of_mem_pieces (List.mem_filter.1 hx).1 hc

theorem mem_intercalate {c : Char} (hc : c ∈ ("/".intercalate segments).toList) :
    c = '/' ∨ ∃ x ∈ segments, c ∈ x.toList := by
  induction segments with
  | nil => cases hc
  | cons x rest ih =>
    cases rest with
    | nil =>
      rw [String.intercalate_singleton] at hc
      exact Or.inr ⟨x, List.mem_cons_self, hc⟩
    | cons y rest =>
      rw [String.intercalate_cons_cons, String.toList_append, String.toList_append,
        List.mem_append, List.mem_append] at hc
      rcases hc with (hc | hc) | hc
      · exact Or.inr ⟨x, List.mem_cons_self, hc⟩
      · exact Or.inl (by simpa using hc)
      · refine (ih hc).imp_right ?_
        rintro ⟨z, hz, hmem⟩
        exact ⟨z, List.mem_cons_of_mem x hz, hmem⟩

theorem mem_text_below {c : Char} (hc : c ∈ ((ofString s).below name).text.toList) :
    c = '/' ∨ c ∈ s.toList ∨ c ∈ name.toList := by
  rw [text_below, String.toList_append, List.mem_append] at hc
  rcases hc with hc | hc
  · left
    cases hanchor : (ofString s).anchor <;> rw [hanchor] at hc
    · cases hc
    · simpa [anchorText] using hc
    · simpa [anchorText] using hc
  · refine (mem_intercalate hc).imp_right ?_
    rintro ⟨x, hx, hmem⟩
    rcases List.mem_append.1 hx with hx | hx
    · exact Or.inl (mem_of_mem_segments hx c hmem)
    · exact Or.inr (List.mem_singleton.1 hx ▸ hmem)

end Path

namespace FileTree

/-! ## Names that lead nowhere else -/

/-- A single point, or nothing at all. -/
def isIdle (name : String) : Bool := name == "." || name.isEmpty

/-- Names without some that lead nowhere else. -/
inductive Thins : List String → List String → Prop
  | nil : Thins [] []
  | keep (name : String) {names names' : List String} (rest : Thins names names') :
    Thins (name :: names) (name :: names')
  | drop {name : String} (idle : isIdle name = true) {names names' : List String}
    (rest : Thins names names') : Thins (name :: names) names'

variable {names names' : List String}

theorem Thins.append_left (front : List String) (hthins : Thins names names') :
    Thins (front ++ names) (front ++ names') := by
  induction front with
  | nil => exact hthins
  | cons name front ih => exact .keep name ih

theorem thins_filter (names : List String) :
    Thins names (names.filter fun name => !isIdle name) := by
  induction names with
  | nil => exact .nil
  | cons name names ih =>
    cases hidle : isIdle name with
    | true =>
      rw [List.filter_cons_of_neg (by simp [hidle])]
      exact .drop hidle ih
    | false =>
      rw [List.filter_cons_of_pos (by simp [hidle])]
      exact .keep name ih

theorem thins_segments (path : String) : Thins (namesOf path) (Path.ofString path).segments := by
  have hpieces : ∀ name ∈ Path.pieces path, (!isIdle name) = (name != ".") := by
    intro name hname
    obtain ⟨piece, hpiece, rfl⟩ := List.mem_map.1 hname
    have hsome : piece ≠ [] := by simpa using (List.mem_filter.1 hpiece).2
    have hfull : (String.ofList piece).isEmpty = false := by
      rw [← Bool.not_eq_true, String.isEmpty_iff, ← String.toList_inj, String.toList_ofList]
      exact hsome
    rw [isIdle, hfull, Bool.or_false]
    rfl
  have htrailing : ((if path.toList.getLast? == some '/' then [""] else []).filter
      fun name => !isIdle name) = ([] : List String) := by
    split <;> rfl
  have hsegments :
      (Path.ofString path).segments = (namesOf path).filter fun name => !isIdle name := by
    rw [namesOf, List.filter_append, htrailing, List.append_nil]
    exact (List.filter_congr hpieces).symm
  rw [hsegments]
  exact thins_filter (namesOf path)

/-! ## The way to a name -/

variable {t : FileTree} {cwd dir d : Location} {purpose : Purpose} {last : String}

theorem opensSlash_append (hidle : isIdle last = false) (names : List String) :
    opensSlash purpose (names ++ [last]) = false := by
  rw [opensSlash, Bool.and_eq_false_imp]
  intro _
  rw [beq_eq_false_iff_ne, ne_eq, List.append_eq_singleton_iff]
  rintro (⟨_, hlast⟩ | ⟨_, hlast⟩)
  · rw [List.singleton_inj.1 hlast] at hidle
    cases hidle
  · cases hlast

/-- Where the way down ends at a directory, that with a name behind it goes on there; and on the
way the same links are followed. -/
theorem descend_append (hidle : isIdle last = false) (hthins : Thins names names') :
    (t.descend .content dir names = .ok (.inl (.node d .directory)) →
      t.descend purpose dir (names' ++ [last]) = t.descend purpose d [last]) ∧
    ∀ start next, t.descend .content dir names = .ok (.inr (start, next)) →
      ∃ next', Thins next next' ∧
        t.descend purpose dir (names' ++ [last]) = .ok (.inr (start, next' ++ [last])) := by
  -- By induction on what is dropped; names that lead nowhere else may be missing on one side.
  induction hthins generalizing dir with
  | nil =>
    constructor
    · intro hfound
      cases hfound
      rfl
    · rintro _ _ ⟨⟩
  | @drop name hpoint names names' _ ih =>
    rw [descend, show (name == "." || name.isEmpty) = true from hpoint]
    exact ih
  | @keep name names names' hrest ih =>
    have hmore : (names' ++ [last]).isEmpty = false := by simp
    rw [List.cons_append]
    rcases descend_step name with hskip | hup | hlong | henter
    · rw [hskip, hskip]
      exact ih
    · rw [hup, hup]
      exact ih
    · rw [hlong]
      exact ⟨by rintro ⟨⟩, by rintro _ _ ⟨⟩⟩
    rw [henter, henter, opensSlash_content, opensSlash_append hidle, if_neg Bool.false_ne_true,
      if_neg Bool.false_ne_true, enter, enter]
    cases hnode : t.node? (dir ++ [name]) with
    | none => exact ⟨by dsimp only; split <;> rintro ⟨⟩, by dsimp only; split <;> rintro _ _ ⟨⟩⟩
    | some n =>
      cases n with
      | directory => exact ih
      | file id =>
        exact ⟨by dsimp only; split <;> rintro ⟨⟩, by dsimp only; split <;> rintro _ _ ⟨⟩⟩
      | link target =>
        have hfollows : (names.isEmpty && Purpose.content == .name) = false := Bool.and_false _
        dsimp only
        rw [hfollows, hmore, Bool.false_and]
        refine ⟨by rintro ⟨⟩, ?_⟩
        rintro _ _ ⟨⟩
        exact ⟨_, hrest.append_left (namesOf target), by simp⟩

theorem walk_append (hidle : isIdle last = false) (hthins : Thins names names') {links : Nat}
    {target : Target} (hwalk : t.walk .content links dir names = .ok (.node d .directory))
    (hend : t.descend purpose d [last] = .ok (.inl target)) :
    t.walk purpose links dir (names' ++ [last]) = .ok target := by
  induction links generalizing dir names names' with
  | zero =>
    rw [walk_zero] at hwalk ⊢
    rcases hdown : t.descend .content dir names with fault | found | next <;>
      rw [hdown] at hwalk <;> cases hwalk
    rw [(descend_append hidle hthins).1 hdown, hend]
    rfl
  | succ links ih =>
    rw [walk_succ] at hwalk ⊢
    rcases hdown : t.descend .content dir names with fault | found | ⟨start, next⟩ <;>
      rw [hdown] at hwalk
    · cases hwalk
    · cases hwalk
      rw [(descend_append hidle hthins).1 hdown, hend]
      rfl
    · obtain ⟨next', hnext, hsame⟩ := (descend_append (d := d) hidle hthins).2 start next hdown
      rw [hsame]
      exact ih hnext hwalk

/-- A name that a file can have in a directory. -/
structure IsFileName (name : String) : Prop where
  plain : Path.IsPlain [name]
  notUp : name ≠ ".."
  noNull : '\x00' ∉ name.toList
  short : name.utf8ByteSize ≤ maxName

theorem IsFileName.isIdle_eq_false {name : String} (hname : IsFileName name) :
    isIdle name = false := by
  obtain ⟨hempty, _, hpoint⟩ := hname.plain name List.mem_cons_self
  simp [isIdle, hempty, hpoint]

/-- What a name stands for in a directory, unless it is a link or a directory. -/
theorem descend_name {name : String} (hname : IsFileName name) (purpose : Purpose)
    (hfile : ∀ n, t.node? (d ++ [name]) = some n → ∃ id, n = .file id) :
    t.descend purpose d [name] = .ok (.inl
      ((t.node? (d ++ [name])).elim (.absent (d ++ [name])) (.node (d ++ [name])))) := by
  have hup : (name == "..") = false := by simpa using hname.notUp
  have hslash : opensSlash purpose [] = false := by simp [opensSlash]
  rw [descend_enter hname.isIdle_eq_false hup hname.short hslash, enter]
  cases hnode : t.node? (d ++ [name]) with
  | none => rfl
  | some n =>
    obtain ⟨id, rfl⟩ := hfile n hnode
    rfl

theorem namesOf_text_below {name : String} (hname : IsFileName name) (path : String) :
    namesOf ((Path.ofString path).below name).text = (Path.ofString path).segments ++ [name] := by
  obtain ⟨hempty, hslash, _⟩ := hname.plain name List.mem_cons_self
  have hlast : (((Path.ofString path).below name).text.toList.getLast? == some '/') = false := by
    obtain ⟨front, hfront⟩ := Path.exists_text_below (Path.ofString path) name
    have hsome : name.toList ≠ [] := fun h => hempty (String.toList_inj.1 h)
    rw [hfront, String.toList_append, List.getLast?_append_of_ne_nil _ hsome, beq_eq_false_iff_ne]
    exact fun hend => hslash (List.mem_of_getLast? hend)
  rw [namesOf, hlast, if_neg Bool.false_ne_true, List.append_nil]
  exact Path.pieces_text_below (Path.isPlain_ofString path) hname.plain

/-- The path to a directory with a name behind it is looked up in this directory, unless its text
is too long. -/
theorem locate_below {path name : String} (hdir : t.status cwd path = .ok (d, .directory))
    (hname : IsFileName name) (purpose : Purpose)
    (hfile : ∀ n, t.node? (d ++ [name]) = some n → ∃ id, n = .file id) :
    t.locate cwd purpose ((Path.ofString path).below name).text =
      if maxPath < ((Path.ofString path).below name).text.utf8ByteSize then .error .nameTooLong
      else .ok ((t.node? (d ++ [name])).elim (.absent (d ++ [name])) (.node (d ++ [name]))) := by
  have hfound : t.locate cwd .content path = .ok (.node d .directory) := by
    rw [status] at hdir
    rcases hlocate : t.locate cwd .content path with fault | target <;> rw [hlocate] at hdir
    · cases hdir
    · cases target <;> cases hdir
      rfl
  have hwalk := hfound.symm.trans (locate_eq_walk hfound)
  -- The path of the directory was looked up, so it has no null character, nor has the name.
  have hnull : ¬ ((Path.ofString path).below name).text.toList.contains '\x00' = true := by
    rw [List.contains_iff_mem]
    intro hmem
    rcases Path.mem_text_below hmem with heq | hpath | hown
    · exact absurd heq (by decide)
    · have hrefused := (status_eq_nullCharacter t cwd path).2 (List.contains_iff_mem.2 hpath)
      cases hdir.symm.trans hrefused
    · exact hname.noNull hown
  have hsome : ¬ ((Path.ofString path).below name).text.isEmpty = true := by
    obtain ⟨front, hfront⟩ := Path.exists_text_below (Path.ofString path) name
    have hempty := (hname.plain name List.mem_cons_self).1
    simp [hfront, hempty]
  rw [locate, if_neg hnull, if_neg hsome]
  split
  · rfl
  · dsimp only
    rw [Path.head?_text_below hname.plain, namesOf_text_below hname]
    exact walk_append hname.isIdle_eq_false (thins_segments path) hwalk.symm
      (descend_name hname purpose hfile)

/-! ## The file of this name -/

/-- Two file systems differ at most in the file at a location. -/
structure SameBut (t t' : FileTree) (l : Location) : Prop where
  nodes : ∀ k, k ≠ l → t'.node? k = t.node? k
  bytes : ∀ k id, t.node? k = some (.file id) → t.node? l ≠ some (.file id) →
    t'.bytesOf id = t.bytesOf id

theorem SameBut.refl (t : FileTree) (l : Location) : t.SameBut t l :=
  ⟨fun _ _ => rfl, fun _ _ _ _ => rfl⟩

theorem sameBut_setBytes {l : Location} {id : Nat} (hnode : t.node? l = some (.file id))
    (bytes : ByteArray) : t.SameBut (t.setBytes id bytes) l := by
  constructor
  · intro k _
    rfl
  · intro k other _ hother
    apply bytesOf_setBytes_of_ne
    rintro rfl
    exact hother hnode

theorem sameBut_create (ht : t.IsSound) (l : Location) (bytes : ByteArray) :
    t.SameBut ((t.create l).1.setBytes t.next bytes) l := by
  constructor
  · intro k hk
    rw [node?, node?]
    exact congrArg _ (Keyed.lookup_put_of_ne hk _ _)
  · intro k id hid _
    have hlt := ht.file_lt k id (node?_eq_lookup hid)
    rw [bytesOf_setBytes_of_ne (Nat.ne_of_lt hlt)]
    exact (grown_create ht l).bytes id

section Slot

variable {path name : String} (hdir : t.status cwd path = .ok (d, .directory))
  (hname : IsFileName name) (hfile : ∀ n, t.node? (d ++ [name]) = some n → ∃ id, n = .file id)

include hdir hname hfile

/-- Whether there is a file of this name is told, unless the path is too long. -/
theorem holds_below :
    t.holds cwd ((Path.ofString path).below name).text =
      if maxPath < ((Path.ofString path).below name).text.utf8ByteSize then .error .nameTooLong
      else .ok (t.node? (d ++ [name])).isSome := by
  rw [holds, status, locate_below hdir hname .content hfile]
  by_cases hlong : maxPath < ((Path.ofString path).below name).text.utf8ByteSize
  · rw [if_pos hlong, if_pos hlong]
    rfl
  · rw [if_neg hlong, if_neg hlong]
    cases t.node? (d ++ [name]) <;> rfl

/-- The file of this name can be written, and nothing else changes. -/
theorem exists_write_below (ht : t.IsSound)
    (hshort : ¬ maxPath < ((Path.ofString path).below name).text.utf8ByteSize)
    (bytes : ByteArray) :
    ∃ t', t.write cwd ((Path.ofString path).below name).text bytes = .ok t' ∧
      t.SameBut t' (d ++ [name]) := by
  have hfound := locate_below hdir hname .creation hfile
  rw [if_neg hshort] at hfound
  cases hnode : t.node? (d ++ [name]) with
  | none =>
    rw [hnode] at hfound
    refine ⟨_, ?_, sameBut_create ht (d ++ [name]) bytes⟩
    rw [write, openFile, hfound]
    rfl
  | some n =>
    obtain ⟨id, rfl⟩ := hfile n hnode
    rw [hnode] at hfound
    refine ⟨_, ?_, sameBut_setBytes hnode bytes⟩
    rw [write, openFile, hfound]
    rfl

end Slot

end FileTree

end FindingLedger
