/-
Records as lines of JSON.

A record of a component is one line of printable ASCII, and reading the line gives what the
component told: nothing that a message or a named value holds ends the line early, and none
of it gets into another field.
-/
import FindingLedger.Journal.Record
import FindingLedger.Proofs.Json.Value
import FindingLedger.Proofs.Keyed
import FindingLedger.Text.CaseMap

namespace FindingLedger

namespace Datum

/-- Entries with new keys, set after a first one: its value is the last that was given to it,
and the others follow in their order. -/
theorem foldl_put_cons (key : String) (value : Datum) (named : List (String × Datum))
    (done : List (Scalar × Datum))
    (hnodup : (done.map Prod.fst ++ named.map fun e => Scalar.text e.1).Nodup)
    (hkey : .text key ∉ done.map Prod.fst) :
    (named.map fun e => (Scalar.text e.1, e.2)).foldl (fun done e => put e.1 e.2 done)
        ((.text key, value) :: done) =
      (.text key, (named.lookup key).getD value) ::
        (done ++ (Keyed.erase key named).map fun e => (Scalar.text e.1, e.2)) := by
  induction named generalizing value done with
  | nil => simp [Keyed.erase]
  | cons e rest ih =>
    obtain ⟨name, v⟩ := e
    rw [List.map_cons, List.foldl_cons]
    -- The value behind `key` is the one seed that a later entry can replace, once.
    by_cases hsame : name = key
    · subst hsame
      have hrest : (done.map Prod.fst ++ rest.map fun e => Scalar.text e.1).Nodup :=
        hnodup.sublist ((List.sublist_cons_self _ _).append_left _)
      have hlast : rest.lookup name = none := by
        rw [List.lookup_eq_none_iff]
        intro p hp
        have hne := (List.nodup_cons.1 (List.nodup_append.1 hnodup).2.1).1
        rw [bne_iff_ne]
        rintro rfl
        exact hne (List.mem_map.2 ⟨p, hp, rfl⟩)
      have hput : put (.text name) v ((.text name, value) :: done) = (.text name, v) :: done := by
        rw [put, if_pos (Scalar.sameAs_text.2 rfl)]
      rw [hput, ih v done hrest hkey, hlast, List.lookup_cons_self]
      simp [Keyed.erase]
    · have hnew : Scalar.text name ∉ done.map Prod.fst := fun hmem =>
        (List.nodup_append.1 hnodup).2.2 _ hmem _ List.mem_cons_self rfl
      have hput : put (.text name) v ((.text key, value) :: done) =
          (.text key, value) :: (done ++ [(.text name, v)]) := by
        have hother : ¬ (Scalar.text key).sameAs (.text name) = true := by
          rw [Scalar.sameAs_text, Scalar.text.injEq]
          exact Ne.symm hsame
        rw [put, if_neg hother, put_of_not_mem hnew]
      have hrest : ((done ++ [(Scalar.text name, v)]).map Prod.fst ++
          rest.map fun e => Scalar.text e.1).Nodup := by
        simpa using hnodup
      have hkey' : Scalar.text key ∉ (done ++ [(Scalar.text name, v)]).map Prod.fst := by
        simpa [hkey] using fun h => hsame h.symm
      have hlookup : List.lookup key ((name, v) :: rest) = rest.lookup key := by
        rw [List.lookup_cons, beq_eq_false_iff_ne.2 fun h => hsame h.symm]
      rw [hput, ih value _ hrest hkey', hlookup]
      simp [Keyed.erase, hsame]

end Datum

namespace Component

variable (c : Component) (n : Note)

/-- The context that the record of a note carries: the component, unless a named value goes by
this name, and then the other named values. -/
def contextOf : List (Scalar × Datum) :=
  (.text "component", (n.context.lookup "component").getD (.text c.name)) ::
    (Keyed.erase "component" n.context).map fun e => (.text e.1, e.2)

/-- What the line of a record holds. -/
def lineEntries (exception : Option String) (now : Moment) : List (Scalar × Datum) :=
  [(.text "timestamp", .text now.iso), (.text "level", .text (Text.upper n.level.word)),
   (.text "logger", .text c.logger),
   (.text "message", .text
      (n.message ++ String.join (n.context.map fun e => " | " ++ e.1 ++ "=" ++ e.2.display))),
   (.text "context", .dict (c.contextOf n))] ++
    (exception.map fun e => ((.text "exception", .text e) : Scalar × Datum)).toList

theorem messageWith_eq (message : String) (context : List (String × Datum)) :
    messageWith message context =
      message ++ String.join (context.map fun e => " | " ++ e.1 ++ "=" ++ e.2.display) := by
  rw [messageWith]
  induction context generalizing message with
  | nil => simp
  | cons e rest ih =>
    rw [List.map_cons, String.intercalate_cons_cons, ih, List.map_cons, String.join_cons]
    simp [toString, String.append_assoc]

theorem rankName_level (level : Level) : rankName level.rank = Text.upper level.word := by
  cases level <;> decide +kernel

variable {c n}

theorem nodup_texts {named : List (String × Datum)} (hnames : (named.map Prod.fst).Nodup) :
    (named.map fun e => Scalar.text e.1).Nodup := by
  have htexts := hnames.map fun _ _ h => Scalar.text.inj h
  rwa [List.map_map] at htexts

theorem context_record (exception : Option String) (hnames : (n.context.map Prod.fst).Nodup) :
    (c.record n exception).context = .dict (c.contextOf n) := by
  have hput := Datum.foldl_put_cons "component" (.text c.name) n.context []
    (nodup_texts hnames) nofun
  rw [record, Datum.ofEntries, List.foldl_cons]
  exact congrArg Datum.dict hput

theorem object_record (exception : Option String) (now : Moment)
    (hnames : (n.context.map Prod.fst).Nodup) :
    (c.record n exception).object now = c.lineEntries n exception now := by
  have htruthy : (Datum.dict (c.contextOf n)).truthy = true := rfl
  rw [Record.object, context_record exception hnames, if_pos htruthy]
  simp only [record, rankName_level, messageWith_eq]
  rfl

theorem isJson_context (hnames : (n.context.map Prod.fst).Nodup)
    (hvalues : ∀ e ∈ n.context, e.2.IsJson) : (Datum.dict (c.contextOf n)).IsJson := by
  refine .dict ⟨?_, ?_⟩ ?_
  · intro e he
    rcases List.mem_cons.1 he with rfl | he
    · exact ⟨_, rfl⟩
    · obtain ⟨e, _, rfl⟩ := List.mem_map.1 he
      exact ⟨_, rfl⟩
  · have hothers : ((Keyed.erase "component" n.context).map Prod.fst).Nodup :=
      hnames.sublist (List.filter_sublist.map _)
    rw [contextOf, List.map_cons, List.map_map, List.nodup_cons]
    refine ⟨?_, nodup_texts hothers⟩
    intro hmem
    obtain ⟨e, he, heq⟩ := List.mem_map.1 hmem
    have hne : e.1 ≠ "component" := by simpa using (List.mem_filter.1 he).2
    exact hne (Scalar.text.inj heq)
  · intro e he
    rcases List.mem_cons.1 he with rfl | he
    · cases hlast : n.context.lookup "component" with
      | none => exact .text c.name
      | some v =>
        obtain ⟨before, after, heq, _⟩ := List.lookup_eq_some_iff.1 hlast
        exact hvalues ("component", v) (by simp [heq])
    · obtain ⟨e, hmem, rfl⟩ := List.mem_map.1 he
      exact hvalues e (List.mem_filter.1 hmem).1

theorem isJson_line (exception : Option String) (now : Moment)
    (hnames : (n.context.map Prod.fst).Nodup) (hvalues : ∀ e ∈ n.context, e.2.IsJson) :
    (Datum.dict (c.lineEntries n exception now)).IsJson := by
  have hcontext := isJson_context (c := c) hnames hvalues
  refine .dict ?_ ?_
  · cases exception <;> exact ⟨by simp [lineEntries], by simp [lineEntries]⟩
  · cases exception <;> simp [lineEntries, hcontext, Datum.IsJson.text]

theorem depth_line (exception : Option String) (now : Moment) :
    (Datum.dict (c.lineEntries n exception now)).depth =
      (Datum.dict (c.contextOf n)).depth + 1 := by
  cases exception <;> simp [lineEntries, Datum.depth, Datum.entriesDepth]

theorem find?_texts (k : String) (named : List (String × Datum)) :
    Datum.find? (.text k) (named.map fun e => (.text e.1, e.2)) = named.lookup k := by
  induction named with
  | nil => rfl
  | cons e rest ih =>
    obtain ⟨name, v⟩ := e
    rw [List.map_cons, List.lookup_cons]
    by_cases hsame : k = name
    · subst hsame
      rw [Datum.find?_cons_self, beq_self_eq_true]
    · have hne : Scalar.text name ≠ .text k := fun h => hsame (Scalar.text.inj h).symm
      rw [Datum.find?_cons_of_ne hne, ih, beq_eq_false_iff_ne.2 hsame]

/-- What is found in the context of a note: what was given under a name, and the component
where nothing else was given under its name. -/
theorem find?_contextOf (k : String) :
    Datum.find? (.text k) (c.contextOf n) =
      (n.context.lookup k).or (if k = "component" then some (.text c.name) else none) := by
  rw [contextOf]
  split
  · next hcomponent =>
    rw [hcomponent, Datum.find?_cons_self]
    cases n.context.lookup "component" <;> rfl
  · next hother =>
    have hne : Scalar.text "component" ≠ .text k := fun h => hother (Scalar.text.inj h).symm
    rw [Datum.find?_cons_of_ne hne, find?_texts, Keyed.lookup_erase_of_ne hother, Option.or_none]

/-- The line of a record is of printable ASCII, so it is one line, and reading it gives back what
was told: the level, the logger, the message with the named values behind it, the context, and an
exception where there was one.  The context holds what was given under each name, and the component
where nothing else was given under its name. -/
theorem jsonLine_reads (c : Component) (n : Note) (exception : Option String) (now : Moment)
    (hnames : (n.context.map Prod.fst).Nodup) (hvalues : ∀ e ∈ n.context, e.2.IsJson) :
    (∀ ch ∈ ((c.record n exception).jsonLine now).toList, Json.IsPrintable ch) ∧
    (∀ room, (Datum.dict (c.contextOf n)).depth < room →
      Json.readWithin room ((c.record n exception).jsonLine now).toList =
        .ok (.dict (c.lineEntries n exception now))) ∧
    ∀ k, Datum.find? (.text k) (c.contextOf n) =
      (n.context.lookup k).or (if k = "component" then some (.text c.name) else none) := by
  have hjson := isJson_line (c := c) exception now hnames hvalues
  have hline : ((c.record n exception).jsonLine now).toList =
      Json.write (.dict (c.lineEntries n exception now)) := by
    rw [Record.jsonLine, object_record exception now hnames, String.toList_ofList]
  rw [hline]
  refine ⟨Json.isPrintable_write hjson, fun room hroom => ?_, find?_contextOf⟩
  apply Json.readWithin_write hjson
  rw [depth_line]
  exact hroom

/-- A note that tries to end its line, to have its message filled in, and to tell another level
and another component. -/
def forgingNote : Note :=
  ⟨.warning, "100% of \"a.kt\\\"\n\x7b\"level\": \"DEBUG\"\x7d %s 😀",
    [("level", .text "CRITICAL\r"),
     ("component", .dict [(.text "a\"b", .list [.null, .bool true, .int (-12)])])]⟩

/-- When it is told. -/
def newYear : Moment := ⟨⟨2024, 1, 1⟩, 0, 0, 0, 0, none⟩

/-- The level stays what it was, and the text in the message brings no exception about. -/
theorem jsonLine_reads_forgingNote :
    ∃ entries,
      Json.read (((⟨"x", none⟩ : Component).record forgingNote none).jsonLine newYear).toList =
        .ok (.dict entries) ∧
      Datum.find? (.text "level") entries = some (.text "WARNING") ∧
      Datum.find? (.text "exception") entries = none := by
  have hvalues : ∀ e ∈ forgingNote.context, e.2.IsJson := by
    simp only [forgingNote, List.forall_mem_cons]
    refine ⟨.text _, .dict ⟨by simp, by decide⟩ ?_, nofun⟩
    simp only [List.forall_mem_cons]
    refine ⟨.list ?_, nofun⟩
    simp only [List.forall_mem_cons]
    exact ⟨.null, .bool _, .int (by decide +kernel), nofun⟩
  obtain ⟨_, hread, _⟩ :=
    jsonLine_reads ⟨"x", none⟩ forgingNote none newYear (by decide) hvalues
  refine ⟨_, hread Json.maxDepth ?_, rfl, rfl⟩
  decide

end Component

end FindingLedger
