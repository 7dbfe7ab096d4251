/-
What was written, as a value.

A value that JSON has a form for is read back from its text.  How deep its collections are
is a matter of room: where there is room for all of them, the text is read, and nothing else
can go wrong.
-/
import FindingLedger.Json.Read
import FindingLedger.Proofs.Datum.Entries
import FindingLedger.Proofs.Json.Token

namespace FindingLedger

/-- A value that JSON has a form for: what is absent, a truth value, a whole number that is
not too long, a text, or a collection of such values; dictionaries have texts as keys. -/
inductive Datum.IsJson : Datum → Prop
  | null : IsJson .null
  | bool (b : Bool) : IsJson (.bool b)
  | int {n : Int} (isWritable : (Scalar.int n).isWritable = true) : IsJson (.int n)
  | text (s : String) : IsJson (.text s)
  | list {items : List Datum} (all : ∀ v ∈ items, IsJson v) : IsJson (.list items)
  | dict {entries : List (Scalar × Datum)} (keyed : IsTextKeyed entries)
      (all : ∀ e ∈ entries, IsJson e.2) : IsJson (.dict entries)

mutual

/-- How many collections stand inside of each other. -/
def Datum.depth : Datum → Nat
  | .list items => itemsDepth items + 1
  | .dict entries => entriesDepth entries + 1
  | _ => 0

/-- How many stand inside of each other among items. -/
def Datum.itemsDepth : List Datum → Nat
  | [] => 0
  | item :: rest => max item.depth (itemsDepth rest)

/-- How many stand inside of each other among the values of a dictionary. -/
def Datum.entriesDepth : List (Scalar × Datum) → Nat
  | [] => 0
  | (_, value) :: rest => max value.depth (entriesDepth rest)

end

namespace Json

open Datum

variable {room : Nat} {r r' r'' : Reader} {frames : List Frame} {cs mid rest : List Char}

/-- Reading goes on from one reader in front of a text as it does from another in front of
what is left of it, where the fuel is enough for the text. -/
def Leads (room : Nat) (r : Reader) (cs : List Char) (r' : Reader) (rest : List Char) : Prop :=
  ∀ size fuel pos, cs.length ≤ fuel → ∃ fuel' pos', rest.length ≤ fuel' ∧
    r.run room size (tokensFrom fuel pos cs) = r'.run room size (tokensFrom fuel' pos' rest)

theorem Leads.trans (hfirst : Leads room r cs r' mid) (hsecond : Leads room r' mid r'' rest) :
    Leads room r cs r'' rest := by
  intro size fuel pos hfuel
  obtain ⟨fuel', pos', hfuel', hrun⟩ := hfirst size fuel pos hfuel
  obtain ⟨fuel'', pos'', hfuel'', hrun'⟩ := hsecond size fuel' pos' hfuel'
  exact ⟨fuel'', pos'', hfuel'', hrun.trans hrun'⟩

theorem leads_mark {c : Char} {token : Token} (hmark : mark? c = some token)
    (hstep : ∀ pos, r.step room pos token = .ok r') : Leads room r (c :: rest) r' rest := by
  intro size fuel pos hfuel
  cases fuel with
  | zero => exact absurd hfuel (by simp)
  | succ fuel =>
    refine ⟨fuel, pos + 1, by simpa using hfuel, ?_⟩
    rw [tokensFrom_mark hmark, Reader.run, hstep]

theorem leads_blank : Leads room r (' ' :: rest) r rest := by
  intro size fuel pos hfuel
  cases fuel with
  | zero => exact absurd hfuel (by simp)
  | succ fuel => exact ⟨fuel, pos + 1, by simpa using hfuel, rfl⟩

/-- A value without parts is taken. -/
theorem leads_writeScalar {s : Scalar} {token : Token} (hstands : Stands s token)
    (hrest : EndsNumber rest) (hstep : ∀ pos, r.step room pos token = .ok r') :
    Leads room r (writeScalar s ++ rest) r' rest := by
  intro size fuel pos hfuel
  have hsome : 0 < (writeScalar s).length := List.length_pos_of_ne_nil (writeScalar_ne_nil hstands)
  rw [List.length_append] at hfuel
  cases fuel with
  | zero => omega
  | succ fuel =>
    obtain ⟨pos', htokens⟩ := tokensFrom_writeScalar hstands hrest fuel pos
    refine ⟨fuel, pos', by omega, ?_⟩
    rw [htokens, Reader.run, hstep]

/-- A reader that takes a value next, inside of open collections. -/
def Reader.Awaits (room : Nat) (frames : List Frame) (r : Reader) : Prop :=
  ∀ pos token, token ≠ .closeArray → r.step room pos token = takeValue room frames pos token

theorem awaits_value (room : Nat) (frames : List Frame) :
    Reader.Awaits room frames ⟨.value, frames⟩ := by
  intro pos token _
  rfl

theorem awaits_valueOrClose : Reader.Awaits room frames ⟨.valueOrClose, frames⟩ := by
  intro pos token hopen
  cases token <;> first | rfl | exact absurd rfl hopen

/-- A value has been taken whole. -/
def Takes (room : Nat) (frames : List Frame) (v : Datum) : Prop :=
  ∀ r rest, r.Awaits room frames → EndsNumber rest →
    Leads room r (write v ++ rest) ⟨.after v, frames⟩ rest

theorem endsNumber_cons {c : Char} (hc : isNumberPart c = false) : EndsNumber (c :: rest) := by
  intro d hd
  simpa [← (Option.some.inj hd : c = d)] using hc

theorem leads_writeItems {item : Datum} {items : List Datum} (done : List Datum)
    (htakes : ∀ v ∈ item :: items, ∀ done, Takes room (.array done :: frames) v)
    (hawaits : r.Awaits room (.array done :: frames)) :
    Leads room r (writeItems (item :: items) ++ ']' :: rest)
      ⟨.after (.list (done.reverse ++ item :: items)), frames⟩ rest := by
  have hitem := htakes item List.mem_cons_self done
  induction items generalizing r done item with
  | nil =>
    have hclose : Leads room ⟨.after item, .array done :: frames⟩ (']' :: rest)
        ⟨.after (.list (item :: done).reverse), frames⟩ rest :=
      leads_mark rfl fun _ => rfl
    rw [List.reverse_cons] at hclose
    exact (hitem r _ hawaits (endsNumber_cons (by decide))).trans hclose
  | cons next items ih =>
    have hcomma : Leads room ⟨.after item, .array done :: frames⟩
        (',' :: ' ' :: (writeItems (next :: items) ++ ']' :: rest))
        ⟨.value, .array (item :: done) :: frames⟩ (writeItems (next :: items) ++ ']' :: rest) :=
      (leads_mark rfl fun _ => rfl).trans leads_blank
    have hmore := ih (item :: done) (fun v hv => htakes v (List.mem_cons_of_mem item hv))
      (awaits_value room (.array (item :: done) :: frames))
      (htakes next (by simp) (item :: done))
    rw [List.reverse_cons, List.append_assoc] at hmore
    have htext : writeItems (item :: next :: items) ++ ']' :: rest =
        write item ++ ',' :: ' ' :: (writeItems (next :: items) ++ ']' :: rest) := by
      simp [writeItems]
    rw [htext]
    exact ((hitem r _ hawaits (endsNumber_cons (by decide))).trans hcomma).trans hmore

/-- A reader that takes a name next, inside of open collections, where some entries of the
innermost one have been taken. -/
def Reader.AwaitsName (room : Nat) (done : List (Scalar × Datum)) (frames : List Frame)
    (r : Reader) : Prop :=
  ∀ pos key, r.step room pos (.text key) = .ok ⟨.colon done (.text key), frames⟩

theorem awaitsName_name (room : Nat) (done : List (Scalar × Datum)) (frames : List Frame) :
    Reader.AwaitsName room done frames ⟨.name done, frames⟩ :=
  fun _ _ => rfl

theorem awaitsName_nameOrClose (room : Nat) (frames : List Frame) :
    Reader.AwaitsName room [] frames ⟨.nameOrClose, frames⟩ :=
  fun _ _ => rfl

theorem leads_entry {key : String} {value : Datum} {done : List (Scalar × Datum)}
    (rest : List Char) (htakes : Takes room (.object done (.text key) :: frames) value)
    (hawaits : r.AwaitsName room done frames) (hrest : EndsNumber rest) :
    Leads room r (writeText key ++ ':' :: ' ' :: (write value ++ rest))
      ⟨.after value, .object done (.text key) :: frames⟩ rest := by
  have hkey : Leads room r (writeText key ++ ':' :: ' ' :: (write value ++ rest))
      ⟨.colon done (.text key), frames⟩ (':' :: ' ' :: (write value ++ rest)) :=
    leads_writeScalar (.text key) (endsNumber_cons (by decide)) fun pos => hawaits pos key
  have hcolon : Leads room ⟨.colon done (.text key), frames⟩ (':' :: ' ' :: (write value ++ rest))
      ⟨.value, .object done (.text key) :: frames⟩ (write value ++ rest) :=
    (leads_mark rfl fun _ => rfl).trans leads_blank
  exact (hkey.trans hcolon).trans (htakes _ _ (awaits_value room _) hrest)

theorem leads_writeEntries {key : String} {value : Datum}
    {entries : List (Scalar × Datum)} (done : List (Scalar × Datum)) (rest : List Char)
    (htext : ∀ e ∈ entries, ∃ s, e.1 = .text s)
    (htakes : ∀ e ∈ (.text key, value) :: entries,
      ∀ done name, Takes room (.object done name :: frames) e.2)
    (hawaits : r.AwaitsName room done frames) :
    Leads room r (writeEntries ((.text key, value) :: entries) ++ '\x7d' :: rest)
      ⟨.after (.dict (Datum.ofEntries (done.reverse ++ (.text key, value) :: entries))), frames⟩
      rest := by
  have hvalue := htakes _ List.mem_cons_self done (.text key)
  induction entries generalizing r done key value with
  | nil =>
    have hclose : Leads room ⟨.after value, .object done (.text key) :: frames⟩ ('\x7d' :: rest)
        ⟨.after (.dict (Datum.ofEntries ((.text key, value) :: done).reverse)), frames⟩ rest :=
      leads_mark rfl fun _ => rfl
    have hentry := leads_entry ('\x7d' :: rest) hvalue hawaits (endsNumber_cons (by decide))
    rw [List.reverse_cons] at hclose
    simpa [writeEntries, writeName] using hentry.trans hclose
  | cons e entries ih =>
    obtain ⟨next, other⟩ := e
    obtain ⟨next, rfl⟩ := htext _ List.mem_cons_self
    have hentry := leads_entry
      (',' :: ' ' :: (writeEntries ((.text next, other) :: entries) ++ '\x7d' :: rest))
      hvalue hawaits (endsNumber_cons (by decide))
    -- The comma and the blank behind it lead to where the next name is awaited.
    have hcomma : Leads room ⟨.after value, .object done (.text key) :: frames⟩
        (',' :: ' ' :: (writeEntries ((.text next, other) :: entries) ++ '\x7d' :: rest))
        ⟨.name ((.text key, value) :: done), frames⟩
        (writeEntries ((.text next, other) :: entries) ++ '\x7d' :: rest) :=
      (leads_mark rfl fun _ => rfl).trans leads_blank
    have hmore := ih ((.text key, value) :: done) (fun e he => htext e (List.mem_cons_of_mem _ he))
      (fun e he => htakes e (List.mem_cons_of_mem _ he))
      (awaitsName_name room ((.text key, value) :: done) frames)
      (htakes _ (by simp) ((.text key, value) :: done) (.text next))
    rw [List.reverse_cons, List.append_assoc] at hmore
    have htext : writeEntries ((.text key, value) :: (.text next, other) :: entries) ++
          '\x7d' :: rest =
        writeText key ++ ':' :: ' ' :: (write value ++
          ',' :: ' ' :: (writeEntries ((.text next, other) :: entries) ++ '\x7d' :: rest)) := by
      simp [writeEntries, writeName]
    rw [htext]
    exact (hentry.trans hcomma).trans hmore

theorem depth_le_itemsDepth {v : Datum} {items : List Datum} (hmem : v ∈ items) :
    v.depth ≤ itemsDepth items := by
  induction items with
  | nil => exact absurd hmem List.not_mem_nil
  | cons item rest ih =>
    rw [itemsDepth]
    rcases List.mem_cons.1 hmem with rfl | hrest
    · exact Nat.le_max_left _ _
    · exact Nat.le_trans (ih hrest) (Nat.le_max_right _ _)

theorem depth_le_entriesDepth {e : Scalar × Datum} {entries : List (Scalar × Datum)}
    (hmem : e ∈ entries) : e.2.depth ≤ entriesDepth entries := by
  induction entries with
  | nil => exact absurd hmem List.not_mem_nil
  | cons entry rest ih =>
    rw [entriesDepth]
    rcases List.mem_cons.1 hmem with rfl | hrest
    · exact Nat.le_max_left _ _
    · exact Nat.le_trans (ih hrest) (Nat.le_max_right _ _)

theorem takes_scalar {s : Scalar} {token : Token} (hstands : Stands s token)
    (hvalue : ∀ pos, Reader.takeValue room frames pos token = .ok ⟨.after (.scalar s), frames⟩) :
    Takes room frames (.scalar s) := by
  intro r rest hawaits hrest
  have hopen : token ≠ .closeArray := by
    rintro rfl
    cases hstands
  refine leads_writeScalar hstands hrest fun pos => ?_
  rw [hawaits pos token hopen, hvalue]

/-- Items that are taken whole make an array that is. -/
theorem takes_list {items : List Datum} (hroom : frames.length < room)
    (htakes : ∀ v ∈ items, ∀ done, Takes room (.array done :: frames) v) :
    Takes room frames (.list items) := by
  intro r rest hawaits _
  have hopen : Leads room r ('[' :: (writeItems items ++ ']' :: rest))
      ⟨.valueOrClose, .array [] :: frames⟩ (writeItems items ++ ']' :: rest) := by
    refine leads_mark rfl fun pos => ?_
    rw [hawaits pos _ (by decide), Reader.takeValue, Reader.enter, if_neg (by omega)]
  have htext : write (.list items) ++ rest = '[' :: (writeItems items ++ ']' :: rest) := by
    simp [write]
  rw [htext]
  cases items with
  | nil =>
    have hclose : Leads room ⟨.valueOrClose, .array [] :: frames⟩ (']' :: rest)
        ⟨.after (.list []), frames⟩ rest :=
      leads_mark rfl fun _ => rfl
    exact hopen.trans hclose
  | cons item items => exact hopen.trans (leads_writeItems [] htakes awaits_valueOrClose)

/-- Values that are taken whole make an object that is. -/
theorem takes_dict {entries : List (Scalar × Datum)} (hkeyed : IsTextKeyed entries)
    (hroom : frames.length < room)
    (htakes : ∀ e ∈ entries, ∀ done name, Takes room (.object done name :: frames) e.2) :
    Takes room frames (.dict entries) := by
  intro r rest hawaits _
  have hopen : Leads room r ('\x7b' :: (writeEntries entries ++ '\x7d' :: rest))
      ⟨.nameOrClose, frames⟩ (writeEntries entries ++ '\x7d' :: rest) := by
    refine leads_mark rfl fun pos => ?_
    rw [hawaits pos _ (by decide), Reader.takeValue, Reader.enter, if_neg (by omega)]
  have htext : write (.dict entries) ++ rest =
      '\x7b' :: (writeEntries entries ++ '\x7d' :: rest) := by
    simp [write]
  rw [htext]
  cases entries with
  | nil =>
    have hclose : Leads room ⟨.nameOrClose, frames⟩ ('\x7d' :: rest)
        ⟨.after (.dict []), frames⟩ rest :=
      leads_mark rfl fun _ => rfl
    exact hopen.trans hclose
  | cons e entries =>
    obtain ⟨key, value⟩ := e
    obtain ⟨key, rfl⟩ := hkeyed.isText _ List.mem_cons_self
    have hentries := leads_writeEntries [] rest
      (fun e he => hkeyed.isText e (List.mem_cons_of_mem _ he)) htakes
      (awaitsName_nameOrClose room frames)
    rw [List.reverse_nil, List.nil_append, ofEntries_of_isTextKeyed hkeyed] at hentries
    exact hopen.trans hentries

/-- A value of JSON is taken whole, where there is room for it. -/
theorem takes_write {v : Datum} (hjson : v.IsJson) (frames : List Frame)
    (hroom : frames.length + v.depth ≤ room) : Takes room frames v := by
  induction hjson generalizing frames with
  | null => exact takes_scalar .null fun _ => rfl
  | bool b => exact takes_scalar (.bool b) fun _ => rfl
  | int hwritable => exact takes_scalar (.int hwritable) fun _ => rfl
  | text s => exact takes_scalar (.text s) fun _ => rfl
  | list _ ih =>
    rw [depth] at hroom
    refine takes_list (by omega) fun v hv done => ih v hv _ ?_
    have hdepth := depth_le_itemsDepth hv
    rw [List.length_cons]
    omega
  | dict hkeyed _ ih =>
    rw [depth] at hroom
    refine takes_dict hkeyed (by omega) fun e he done name => ih e he _ ?_
    have hdepth := depth_le_entriesDepth he
    rw [List.length_cons]
    omega

/-! ## The whole text -/

theorem isPrintable_writeScalar {s : Scalar} {token : Token} (hstands : Stands s token) :
    ∀ c ∈ writeScalar s, IsPrintable c := by
  cases hstands with
  | null => decide
  | bool b => cases b <;> decide
  | int _ => exact fun c hc => isPrintable_of_isNumberPart (isNumberPart_toString _ c hc)
  | text s => exact isPrintable_writeText s

theorem isPrintable_writeItems {items : List Datum}
    (hitems : ∀ v ∈ items, ∀ c ∈ write v, IsPrintable c) :
    ∀ c ∈ writeItems items, IsPrintable c := by
  induction items with
  | nil => nofun
  | cons item items ih =>
    have hitem := hitems item List.mem_cons_self
    have hmore := ih fun v hv => hitems v (List.mem_cons_of_mem item hv)
    intro c hc
    cases items with
    | nil => exact hitem c (by simpa [writeItems] using hc)
    | cons next items =>
      simp only [writeItems, List.mem_append, List.mem_cons] at hc
      rcases hc with hc | rfl | rfl | hc
      · exact hitem c hc
      · decide
      · decide
      · exact hmore c hc

theorem isPrintable_writeEntries {entries : List (Scalar × Datum)}
    (htext : ∀ e ∈ entries, ∃ s, e.1 = .text s)
    (hentries : ∀ e ∈ entries, ∀ c ∈ write e.2, IsPrintable c) :
    ∀ c ∈ writeEntries entries, IsPrintable c := by
  induction entries with
  | nil => nofun
  | cons e entries ih =>
    obtain ⟨key, value⟩ := e
    obtain ⟨key, rfl⟩ := htext _ List.mem_cons_self
    have hvalue := hentries _ List.mem_cons_self
    have hmore := ih (fun e he => htext e (List.mem_cons_of_mem _ he))
      fun e he => hentries e (List.mem_cons_of_mem _ he)
    intro c hc
    cases entries with
    | nil =>
      simp only [writeEntries, List.mem_append, List.mem_cons] at hc
      rcases hc with hc | rfl | rfl | hc
      · exact isPrintable_writeText _ c hc
      · decide
      · decide
      · exact hvalue c hc
    | cons next entries =>
      simp only [writeEntries, List.mem_append, List.mem_cons] at hc
      rcases hc with hc | rfl | rfl | hc | rfl | rfl | hc
      · exact isPrintable_writeText _ c hc
      · decide
      · decide
      · exact hvalue c hc
      · decide
      · decide
      · exact hmore c hc

/-- A value of JSON is written in printable ASCII. -/
theorem isPrintable_write {v : Datum} (hjson : v.IsJson) : ∀ c ∈ write v, IsPrintable c := by
  induction hjson with
  | null => exact isPrintable_writeScalar .null
  | bool b => exact isPrintable_writeScalar (.bool b)
  | int hwritable => exact isPrintable_writeScalar (.int hwritable)
  | text s => exact isPrintable_writeScalar (.text s)
  | list _ ih =>
    have hitems := isPrintable_writeItems ih
    intro c hc
    simp only [write, List.mem_append, List.mem_cons, List.not_mem_nil, or_false] at hc
    rcases hc with (rfl | hc) | rfl
    · decide
    · exact hitems c hc
    · decide
  | dict hkeyed _ ih =>
    have hentries := isPrintable_writeEntries hkeyed.isText ih
    intro c hc
    simp only [write, List.mem_append, List.mem_cons, List.not_mem_nil, or_false] at hc
    rcases hc with (rfl | hc) | rfl
    · decide
    · exact hentries c hc
    · decide

/-- A value of JSON is read back from its text, where there is room for its collections. -/
theorem readWithin_write {v : Datum} (hjson : v.IsJson) (hroom : v.depth ≤ room) :
    readWithin room (write v) = .ok v := by
  have hmark : ((write v).head? == some (Char.ofNat 0xfeff)) = false := by
    rw [beq_eq_false_iff_ne]
    intro hmark
    have hprintable := isPrintable_write hjson _ (List.mem_of_mem_head? hmark)
    revert hprintable
    decide
  have htakes : Takes room [] v := takes_write hjson [] (by simpa using hroom)
  have hleads := htakes ⟨.value, []⟩ [] (awaits_value room []) nofun
  rw [List.append_nil] at hleads
  obtain ⟨fuel, pos, _, hrun⟩ := hleads (write v).length (write v).length 0 (Nat.le_refl _)
  have hend : tokensFrom fuel pos [] = [] := by cases fuel <;> rfl
  rw [hend] at hrun
  rw [readWithin, hmark, tokens, hrun]
  rfl

end Json

end FindingLedger
