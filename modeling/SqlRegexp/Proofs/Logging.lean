import SqlRegexp.Logging.Setup
import SqlRegexp.Proofs.Files
import SqlRegexp.Proofs.Logging.Line

/-!
Where records go after a set-up.

A set-up leaves a state that handles records as it asks (`HandlesAs`): from its least level on they go to the console,
in lines with its version, and to its log file if it has one. Records that are logged keep it so (`HandlesAs.log`), and
by induction over them the console and the log file are extended by one line for each record (`HandlesAs.run_log`). Over
any steps **a file that no handler writes stays as it is until a set-up opens it** (`Unwritten.content?_run`); then it
is made empty (`content?_openFile`).
-/

namespace SqlRegexp.Logging

open SqlRegexp.Files SqlRegexp.Text SqlRegexp.Time

/-- What a record adds to a log file. -/
def Record.fileBytes (r : Record) : List UInt8 := Utf8.encode (r.fileLine ++ ['\n'])

namespace State

/-- Whether a set-up tries to open a log file: details are wanted, and there is no null character in the path. -/
def opens (s : State) (details : Bool) (dir : Option Path) : Bool := details && !(s.logDirectory dir).hasNull

/-- The log file that a set-up opens, if it is to and can. -/
def opened (s : State) (details : Bool) (dir : Option Path) : Option Location :=
  if s.opens details dir then (openFile s.files (s.logDirectory dir)).2 else none

/-- The log file can be opened at a location: its directory is there or can be made, its path leads to the location, and
nothing keeps a file there from being written. -/
def OpensAt (s : State) (dir : Option Path) (l : Location) : Prop :=
  (s.logDirectory dir).hasNull = false ∧ ∃ made, s.files.makeDirectories (s.logDirectory dir) = (made, none) ∧
    made.locate (made.settle ((s.logDirectory dir).child fileName)) = .ok l ∧ made.writeTrouble? l = none

/-- The handlers of a set-up: one for the console, and one for the log file if there is one. -/
def handlersOf (version : List Char) (details : Bool) (file : Option Location) : List Handler :=
  ⟨leastLevel details, .console version⟩ :: file.toList.map fun l => ⟨debug, .file l⟩

/-- A state handles records as a set-up asks. -/
structure HandlesAs (s : State) (version : List Char) (details : Bool) (file : Option Location) : Prop where
  level : s.level = leastLevel details
  handlers : s.handlers = handlersOf version details file
  /-- A log file goes with details. -/
  details_of_file : ∀ l, file = some l → details = true

/-! ### One record -/

section One

variable {s : State} {version : List Char} {details : Bool} {file : Option Location} {r : Record}

/-- A record of a lower level is not written. -/
theorem log_of_lt (h : r.level < s.level) : s.log r = s := if_pos h

/-- What a set-up has done with a record from its least level on. -/
theorem HandlesAs.log_eq (h : s.HandlesAs version details file) (hlevel : leastLevel details ≤ r.level) :
    s.log r = match file with
      | none => s.toConsole (r.consoleLine version)
      | some l => (s.toConsole (r.consoleLine version)).toFile l r.fileLine := by
  have hnot : ¬ r.level < s.level := by
    rw [h.level]
    exact Int.not_lt.mpr hlevel
  have hforce : s.inForce = handlersOf version details file := by
    rw [inForce, h.handlers]
    rfl
  have hconsole : handle r s ⟨leastLevel details, .console version⟩ = s.toConsole (r.consoleLine version) :=
    if_neg (Int.not_lt.mpr hlevel)
  rw [log, if_neg hnot, hforce, handlersOf, List.foldl_cons, hconsole]
  cases file with
  | none => rfl
  | some l =>
    rw [h.details_of_file l rfl] at hlevel
    exact if_neg (Int.not_lt.mpr hlevel)

/-- **A record that is logged keeps the set-up in force.** -/
theorem HandlesAs.log (h : s.HandlesAs version details file) (r : Record) :
    (s.log r).HandlesAs version details file := by
  by_cases hlevel : leastLevel details ≤ r.level
  · refine ⟨?_, ?_, h.details_of_file⟩
    · rw [h.log_eq hlevel]
      cases file <;> exact h.level
    · rw [h.log_eq hlevel]
      cases file <;> exact h.handlers
  · rw [log_of_lt (by rw [h.level]; exact Int.not_le.mp hlevel)]
    exact h

theorem HandlesAs.console_log (h : s.HandlesAs version details file) (hlevel : leastLevel details ≤ r.level) :
    (s.log r).console = s.console ++ [r.consoleLine version] := by
  rw [h.log_eq hlevel]
  cases file <;> rfl

theorem HandlesAs.content?_log {l : Location} {old : List UInt8} (h : s.HandlesAs version details (some l))
    (hlevel : leastLevel details ≤ r.level) (hold : s.files.content? l = some (.file old)) :
    (s.log r).files.content? l = some (.file (old ++ r.fileBytes)) := by
  rw [h.log_eq hlevel]
  exact Tree.content?_extendFile hold

end One

/-! ### Records in a row -/

section Row

variable {s : State} {version : List Char} {details : Bool} {file : Option Location}

/-- The records that a set-up has written: those from its least level on. -/
def written (details : Bool) (records : List Record) : List Record :=
  records.filter fun r => leastLevel details ≤ r.level

theorem written_cons_of_le {r : Record} (h : leastLevel details ≤ r.level) (records : List Record) :
    written details (r :: records) = r :: written details records :=
  List.filter_cons_of_pos (by simpa using h)

theorem written_cons_of_lt {r : Record} (h : r.level < leastLevel details) (records : List Record) :
    written details (r :: records) = written details records :=
  List.filter_cons_of_neg (by simpa using h)

/-- **Each record from the least level on is written once**, to the console and to the log file. -/
theorem HandlesAs.run_log (h : s.HandlesAs version details file) (records : List Record) :
    (s.run (records.map .log)).HandlesAs version details file ∧
      (s.run (records.map .log)).console =
        s.console ++ (written details records).map (Record.consoleLine · version) ∧
      ∀ l old, file = some l → s.files.content? l = some (.file old) →
        (s.run (records.map .log)).files.content? l =
          some (.file (old ++ (written details records).flatMap Record.fileBytes)) := by
  induction records generalizing s with
  | nil => exact ⟨h, (List.append_nil _).symm, fun l old _ hold => by
      rw [written, List.filter_nil, List.flatMap_nil, List.append_nil]
      exact hold⟩
  | cons r records ih =>
    obtain ⟨hhandles, hconsole, hfile⟩ := ih (h.log r)
    refine ⟨hhandles, ?_, fun l old hl hold => ?_⟩
    · show ((s.log r).run (records.map .log)).console = _
      rw [hconsole]
      -- a record below the level leaves the console as it is, any other adds its line
      by_cases hlevel : leastLevel details ≤ r.level
      · rw [h.console_log hlevel, written_cons_of_le hlevel, List.map_cons, List.append_assoc]
        rfl
      · rw [log_of_lt (by rw [h.level]; exact Int.not_le.mp hlevel), written_cons_of_lt (Int.not_le.mp hlevel)]
    · subst hl
      show ((s.log r).run (records.map .log)).files.content? l = _
      by_cases hlevel : leastLevel details ≤ r.level
      · rw [hfile l _ rfl (h.content?_log hlevel hold), written_cons_of_le hlevel, List.flatMap_cons, List.append_assoc]
      · rw [log_of_lt (by rw [h.level]; exact Int.not_le.mp hlevel)] at hfile ⊢
        rw [hfile l old rfl hold, written_cons_of_lt (Int.not_le.mp hlevel)]

end Row

/-! ### Files that no handler writes -/

section Unwritten

variable {s : State} {k : Location} {c : Content} {r : Record}

theorem handle_handlers (h : Handler) : (handle r s h).handlers = s.handlers := by
  unfold handle
  split
  · rfl
  · split <;> rfl

theorem content?_handle {h : Handler} (hk : h.file? ≠ some k) :
    (handle r s h).files.content? k = s.files.content? k := by
  unfold handle
  split
  · rfl
  · split
    · rfl
    · rfl
    · next l hl =>
      refine Tree.content?_extendFile_of_ne ?_
      rintro rfl
      exact hk (by rw [Handler.file?, hl])

theorem foldl_handle (handlers : List Handler) (hk : ∀ h ∈ handlers, h.file? ≠ some k) :
    (handlers.foldl (handle r) s).handlers = s.handlers ∧
      (handlers.foldl (handle r) s).files.content? k = s.files.content? k := by
  induction handlers generalizing s with
  | nil => exact ⟨rfl, rfl⟩
  | cons h handlers ih =>
    obtain ⟨hh, hhandlers⟩ := List.forall_mem_cons.mp hk
    obtain ⟨hsame, hcontent⟩ := @ih (handle r s h) hhandlers
    exact ⟨hsame.trans (handle_handlers h), hcontent.trans (content?_handle hh)⟩

/-- No handler writes a file. -/
def Unwritten (s : State) (k : Location) : Prop := ∀ h ∈ s.handlers, h.file? ≠ some k

theorem Unwritten.log (hk : s.Unwritten k) (r : Record) :
    (s.log r).Unwritten k ∧ (s.log r).files.content? k = s.files.content? k := by
  have hforce : ∀ h ∈ s.inForce, h.file? ≠ some k := by
    unfold inForce
    split
    · intro h hh
      rw [List.mem_singleton.mp hh]
      exact fun heq => nomatch heq
    · exact hk
  unfold State.log
  split
  · exact ⟨hk, rfl⟩
  · obtain ⟨hsame, hcontent⟩ := @foldl_handle s k r s.inForce hforce
    refine ⟨?_, hcontent⟩
    unfold Unwritten
    rw [hsame]
    exact hk

/-! ### Set-ups -/

section Opening

variable {files : Tree} {dir : Path} {l : Location}

theorem openFile_cases (files : Tree) (dir : Path) :
    (∃ l, l ≠ [] ∧ openFile files dir = ((files.makeDirectories dir).1.put l (.file []), some l)) ∨
      openFile files dir = ((files.makeDirectories dir).1, none) := by
  unfold openFile
  split
  · next made e hmade => exact .inr (by rw [hmade])
  · next made hmade =>
    split
    · next l cleared hcleared =>
      obtain ⟨hl, rfl⟩ := Tree.of_clearFile hcleared
      exact .inl ⟨l, hl, by rw [hmade]⟩
    · exact .inr (by rw [hmade])

theorem openFile_eq_some_iff :
    (openFile files dir).2 = some l ↔
      ∃ made, files.makeDirectories dir = (made, none) ∧
        made.locate (made.settle (dir.child fileName)) = .ok l ∧ made.writeTrouble? l = none := by
  constructor
  · intro h
    unfold openFile at h
    split at h
    · cases h
    · next made hmade =>
      split at h
      · next k cleared hcleared =>
        cases h
        exact ⟨made, hmade, Tree.exists_clearFile_iff.mp ⟨cleared, hcleared⟩⟩
      · cases h
  · rintro ⟨made, hmade, hl⟩
    obtain ⟨cleared, hcleared⟩ := Tree.exists_clearFile_iff.mpr hl
    rw [openFile, hmade]
    dsimp only
    rw [hcleared]

/-- A log file that is opened is empty. -/
theorem content?_openFile (h : (openFile files dir).2 = some l) :
    (openFile files dir).1.content? l = some (.file []) := by
  rcases openFile_cases files dir with ⟨l', hl', heq⟩ | heq
  · rw [heq] at h ⊢
    cases h
    exact Tree.content?_put hl'
  · rw [heq] at h
    cases h

/-- Everything else stays when a log file is opened, or is not opened. -/
theorem content?_openFile_of_ne (h : (openFile files dir).2 ≠ some k) (hk : files.content? k = some c) :
    (openFile files dir).1.content? k = some c := by
  have hmade := @Tree.content?_makeDirectories files k c dir hk
  rcases openFile_cases files dir with ⟨l, -, heq⟩ | heq
  · rw [heq] at h ⊢
    rw [← hmade]
    refine Tree.content?_put_of_ne ?_
    rintro rfl
    exact h rfl
  · rw [heq]
    exact hmade

end Opening

section SettingUp

variable {version : List Char} {details : Bool} {dir : Option Path} {o : Occasion}

/-- The record that a set-up with details makes: whether there is a log file. -/
def firstRecord? (s : State) (details : Bool) (dir : Option Path) (o : Occasion) : Option Record :=
  if s.opens details dir then
    some ((s.opened details dir).elim (failedRecord o) fun _ => openedRecord (s.logDirectory dir) o)
  else none

/-- What a set-up has changed before it logs anything. -/
def replaced (s : State) (version : List Char) (details : Bool) (dir : Option Path) : State where
  files := if s.opens details dir then (openFile s.files (s.logDirectory dir)).1 else s.files
  level := leastLevel details
  handlers := handlersOf version details (s.opened details dir)
  console := s.console

/-- A set-up opens its log file where details are wanted and the file can be opened. -/
theorem opened_eq_some_iff {l : Location} : s.opened details dir = some l ↔ details = true ∧ s.OpensAt dir l := by
  unfold opened OpensAt opens
  cases details with
  | false => simp
  | true => cases (s.logDirectory dir).hasNull <;> simp [openFile_eq_some_iff]

theorem replaced_handlesAs : (s.replaced version details dir).HandlesAs version details (s.opened details dir) where
  level := rfl
  handlers := rfl
  details_of_file _ hl := (opened_eq_some_iff.mp hl).1

theorem setUp_eq : s.setUp version details dir o =
    (s.firstRecord? details dir o).elim (s.replaced version details dir) (s.replaced version details dir).log := by
  have hdir (level : Int) (handlers : List Handler) :
      State.logDirectory { s with level, handlers } dir = s.logDirectory dir := rfl
  unfold setUp addFile replaced firstRecord? opened opens handlersOf
  simp only [hdir]
  cases details with
  | false => rfl
  | true =>
    cases (s.logDirectory dir).hasNull with
    | true => rfl
    | false =>
      cases h : openFile s.files (s.logDirectory dir) with
      | mk files file => cases file <;> simp

/-- **A set-up puts its handlers in the place of all others.** -/
theorem setUp_handlesAs : (s.setUp version details dir o).HandlesAs version details (s.opened details dir) := by
  rw [setUp_eq]
  cases s.firstRecord? details dir o with
  | none => exact replaced_handlesAs
  | some r => exact replaced_handlesAs.log r

/-- The first record of a set-up is one that the set-up has written. -/
theorem leastLevel_le_firstRecord {r : Record} (h : s.firstRecord? details dir o = some r) :
    leastLevel details ≤ r.level := by
  unfold firstRecord? at h
  split at h
  · next hopens =>
    have hdetails : details = true := (Bool.and_eq_true_iff.mp hopens).1
    subst hdetails
    cases h
    cases s.opened true dir with
    | none => exact show debug ≤ error by decide
    | some l => exact show debug ≤ info by decide
  · cases h

/-- A set-up writes its first record to the console. -/
theorem console_setUp : (s.setUp version details dir o).console =
    s.console ++ (s.firstRecord? details dir o).toList.map (Record.consoleLine · version) := by
  rw [setUp_eq]
  cases h : s.firstRecord? details dir o with
  | none => exact (List.append_nil _).symm
  | some r => exact replaced_handlesAs.console_log (leastLevel_le_firstRecord h)

/-- A log file is opened with a record that says so. -/
theorem opened_eq_some {l : Location} (h : s.opened details dir = some l) :
    (openFile s.files (s.logDirectory dir)).2 = some l ∧ s.opens details dir = true ∧
      s.firstRecord? details dir o = some (openedRecord (s.logDirectory dir) o) := by
  have hopens : s.opens details dir = true := by
    unfold opened at h
    split at h
    · assumption
    · cases h
  refine ⟨?_, hopens, ?_⟩
  · rwa [opened, if_pos hopens] at h
  · rw [firstRecord?, if_pos hopens, h]
    rfl

/-- The log file of a set-up holds its first record and nothing else. -/
theorem content?_setUp {l : Location} (h : s.opened details dir = some l) :
    (s.setUp version details dir o).files.content? l =
      some (.file (openedRecord (s.logDirectory dir) o).fileBytes) := by
  obtain ⟨hopened, hopens, hfirst⟩ := @opened_eq_some s details dir o l h
  have hempty : (s.replaced version details dir).files.content? l = some (.file []) := by
    rw [replaced, if_pos hopens]
    exact content?_openFile hopened
  have hhandles := @replaced_handlesAs s version details dir
  rw [h] at hhandles
  rw [setUp_eq, hfirst]
  exact hhandles.content?_log (leastLevel_le_firstRecord hfirst) hempty

theorem HandlesAs.unwritten {file : Option Location} (h : s.HandlesAs version details file) (hk : file ≠ some k) :
    s.Unwritten k := by
  unfold Unwritten
  rw [h.handlers]
  refine List.forall_mem_cons.mpr ⟨fun heq => (nomatch heq), fun handler hmem => ?_⟩
  obtain ⟨l, hl, rfl⟩ := List.mem_map.mp hmem
  show some l ≠ some k
  rw [← Option.mem_toList.mp hl]
  exact hk

/-- A file stays as it is in a set-up that does not open it. -/
theorem content?_setUp_of_ne (h : s.opened details dir ≠ some k) (hk : s.files.content? k = some c) :
    (s.setUp version details dir o).files.content? k = some c := by
  have hreplaced : (s.replaced version details dir).files.content? k = some c := by
    unfold opened at h
    unfold replaced
    split
    · next hopens =>
      rw [if_pos hopens] at h
      exact content?_openFile_of_ne h hk
    · exact hk
  rw [setUp_eq]
  cases s.firstRecord? details dir o with
  | none => exact hreplaced
  | some r =>
    have hunwritten := (@replaced_handlesAs s version details dir).unwritten h
    exact (hunwritten.log r).2.trans hreplaced

end SettingUp

/-! ### Runs -/

theorem Unwritten.run_log (hk : s.Unwritten k) (records : List Record) :
    (s.run (records.map .log)).files.content? k = s.files.content? k := by
  induction records generalizing s with
  | nil => rfl
  | cons r records ih =>
    obtain ⟨hafter, hcontent⟩ := hk.log r
    exact (ih hafter).trans hcontent

/-- **A file that no handler writes stays as it is**, over any steps, until a set-up opens it. -/
theorem Unwritten.content?_run (hk : s.Unwritten k) (hc : s.files.content? k = some c) (steps : List Step) :
    (s.run steps).files.content? k = some c ∨
      ∃ before version details dir o after, steps = before ++ .setUp version details dir o :: after ∧
        (s.run before).opened details dir = some k := by
  induction steps generalizing s with
  | nil => exact .inl hc
  | cons step steps ih =>
    have hrest (hunwritten : (s.take step).Unwritten k) (hcontent : (s.take step).files.content? k = some c) :
        ((s.take step).run steps).files.content? k = some c ∨
          ∃ before version details dir o after, step :: steps = before ++ .setUp version details dir o :: after ∧
            (s.run before).opened details dir = some k := by
      rcases ih hunwritten hcontent with hsame | ⟨before, version, details, dir, o, after, rfl, hopened⟩
      · exact .inl hsame
      · exact .inr ⟨step :: before, version, details, dir, o, after, rfl, hopened⟩
    cases step with
    | log r =>
      obtain ⟨hunwritten, hcontent⟩ := hk.log r
      exact hrest hunwritten (hcontent.trans hc)
    | setUp version details dir o =>
      by_cases hopened : s.opened details dir = some k
      · exact .inr ⟨[], version, details, dir, o, steps, rfl, hopened⟩
      · exact hrest (setUp_handlesAs.unwritten hopened) (content?_setUp_of_ne hopened hc)

end Unwritten

/-- **Logging is as the last set-up asks.** Whatever has been done before a set-up, it leaves its level, one handler for
the console and, exactly if details are wanted and the file can be opened, one for its log file, which holds nothing but
its first record. The records logged after it are written from its level on, each of them once, to the console and to
that file, and no others are; a line of the console is composed if the version has no per cent sign. No other file
changes, and a log file that the set-up does not open stays as it is, whatever is done later, until a later set-up opens
it. -/
theorem logging_follows_set_up (start : State) (before later : List Step) (version : List Char) (details : Bool)
    (dir : Option Path) (o : Occasion) (records : List Record) :
    let s := start.run before
    let file := s.opened details dir
    let u := s.setUp version details dir o
    let v := u.run (records.map .log)
    (u.HandlesAs version details file ∧ v.HandlesAs version details file) ∧
      (∀ l, file = some l ↔ details = true ∧ s.OpensAt dir l) ∧
      (∀ l, file = some l → u.files.content? l = some (.file (openedRecord (s.logDirectory dir) o).fileBytes)) ∧
      u.console = s.console ++ (s.firstRecord? details dir o).toList.map (Record.consoleLine · version) ∧
      v.console = u.console ++ (written details records).map (Record.consoleLine · version) ∧
      ('%' ∉ version → ∀ r : Record, r.consoleLine version = .ok (r.consoleText version)) ∧
      (∀ l, file = some l → v.files.content? l = some (.file
        ((openedRecord (s.logDirectory dir) o).fileBytes ++ (written details records).flatMap Record.fileBytes))) ∧
      (∀ k, file ≠ some k → v.files.content? k = u.files.content? k) ∧
      ∀ k c, file ≠ some k → u.files.content? k = some c →
        (u.run later).files.content? k = some c ∨
          ∃ between version' details' dir' o' after,
            later = between ++ .setUp version' details' dir' o' :: after ∧
              (u.run between).opened details' dir' = some k := by
  intro s file u v
  have hu : u.HandlesAs version details file := setUp_handlesAs
  obtain ⟨hv, hconsole, hfile⟩ := hu.run_log records
  refine ⟨⟨hu, hv⟩, fun l => opened_eq_some_iff, fun l => content?_setUp, console_setUp, hconsole,
    fun hversion r => r.consoleLine_eq hversion, fun l hl => ?_, fun k hk => ?_, fun k c hk hc => ?_⟩
  · exact hfile l _ hl (content?_setUp hl)
  · exact (hu.unwritten hk).run_log records
  · exact (hu.unwritten hk).content?_run hc later

/-- A version with a per cent sign: of a record no line is written to the console. -/
theorem console_line_missing :
    ¬ ∀ (s : State) (version : List Char) (dir : Option Path) (o : Occasion) (r : Record), warning ≤ r.level →
      ∃ line, ((s.setUp version false dir o).log r).console = (s.setUp version false dir o).console ++ [.ok line] := by
  intro h
  obtain ⟨line, hline⟩ := h { files := { root := ⟨1, []⟩ } } "5%".toList none { now := ⟨0, 0⟩ }
    { created := ⟨0, 0⟩, level := warning, message := "a".toList } (by decide)
  have hmissing : (({ files := { root := ⟨1, []⟩ } : State }.setUp "5%".toList false none { now := ⟨0, 0⟩ }).log
      { created := ⟨0, 0⟩, level := warning, message := "a".toList }).console = [.error .noPart] := by decide +kernel
  rw [hmissing] at hline
  cases hline

end State

end SqlRegexp.Logging
