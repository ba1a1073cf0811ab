import SchemaEvolution.Proofs.Declaration.Accepted
import SchemaEvolution.Proofs.Plan.Texts
import SchemaEvolution.Proofs.Report.Strictness
import SchemaEvolution.Report.MigrationFile

/-! # What a migration file executes
Whoever runs a migration file skips its empty lines and its comment lines. What is left are the
commands of the migration, line by line: every other line of the migration is one comment line,
whatever the texts hold that it repeats, and every line of a command is left. -/

namespace SchemaEvolution

/-! ## Lines as they are written -/

/-- A physical line is **executed** unless it is empty or starts with the comment mark. -/
def isExecuted (line : List Char) : Bool := !line.isEmpty && !commentMark.toList.isPrefixOf line

/-- A line of a migration is **faithful** when a file says by it what it is: of a command, which
ends in a semicolon, every physical line is executed; anything else is one physical line that is
not. -/
structure Faithful (line : String) : Prop where
  /-- A command ends in a semicolon. -/
  semicolon : classify line = .command → line.toList.getLast? = some ';'
  /-- Every physical line of a command is executed. -/
  executed : classify line = .command → ∀ part ∈ textLines line.toList, isExecuted part = true
  /-- A remark is on a single line. -/
  single : classify line ≠ .command → SingleLine line
  /-- A remark is not executed. -/
  skipped : classify line ≠ .command → isExecuted line.toList = false

/-- A physical line is executed when it starts with another character than a dash. -/
theorem isExecuted_of_head? {line : List Char} {c : Char} (hhead : line.head? = some c)
    (hdash : c ≠ '-') : isExecuted line = true := by
  obtain ⟨rest, rfl⟩ := List.head?_eq_some_iff.mp hhead
  simp [isExecuted, commentMark, List.isPrefixOf, hdash.symm]

/-- A line that starts with the comment mark is not executed. -/
theorem isExecuted_commentMark (text : String) :
    isExecuted (commentMark ++ text).toList = false := by
  simp [isExecuted, commentMark, List.isPrefixOf]

/-! ## Steps -/

/-- A remark starts with the comment mark. -/
theorem exists_commentMark_of_remark {step : Step} (h : step.kind ≠ .command) :
    ∃ text, step.sql = commentMark ++ text := by
  cases step with
  | error text => exact ⟨" ERROR: " ++ text, by rw [← String.append_assoc]; rfl⟩
  | caution text => exact ⟨" CAUTION: " ++ text, by rw [← String.append_assoc]; rfl⟩
  | note text => exact ⟨" " ++ text, by rw [← String.append_assoc]; rfl⟩
  | _ => exact absurd rfl h

/-- A remark that is made of single lines is faithful. -/
theorem faithful_of_remark {step : Step} (hkind : classify step.sql = step.kind)
    (hremark : step.kind ≠ .command) (hlines : step.OfSingleLines) : Faithful step.sql := by
  have hsingle : SingleLine step.sql :=
    hlines.sql fun name columns he => hremark (he ▸ rfl)
  have hskipped : isExecuted step.sql.toList = false := by
    obtain ⟨text, htext⟩ := exists_commentMark_of_remark hremark
    exact htext ▸ isExecuted_commentMark text
  have hnone : classify step.sql ≠ .command := hkind ▸ hremark
  exact ⟨fun h => absurd h hnone, fun h => absurd h hnone, fun _ => hsingle, fun _ => hskipped⟩

/-- The physical lines of the statement that creates a table: one that opens it, the columns, and
one that closes it. -/
theorem textLines_createTable {name : String} (hname : SingleLine name) (columns : List Column) :
    textLines (Step.createTable name columns).sql.toList =
      ("CREATE TABLE " ++ name ++ " (").toList ::
        (textLines ([',', '\n'].intercalate
          (columns.map fun column => ("  " ++ column.definition).toList)) ++ [[')', ';']]) := by
  have hopening : SingleLine ("CREATE TABLE " ++ name ++ " (") := by
    simp only [singleLine_append, hname]
    decide
  have hclosing : textLines [')', ';'] = [[')', ';']] := textLines_of_not_mem (by decide)
  -- cut behind the opening and before the closing; the columns are left as they are
  rw [toList_createTable, textLines_append_cons, textLines_append_cons,
    textLines_of_not_mem hopening, hclosing, List.singleton_append]

/-- Every physical line of a statement that creates a table is executed. -/
theorem isExecuted_of_mem_createTable {name : String} {columns : List Column}
    (hlines : (Step.createTable name columns).OfSingleLines) (hne : columns ≠ [])
    {part : List Char} (h : part ∈ textLines (Step.createTable name columns).sql.toList) :
    isExecuted part = true := by
  obtain ⟨hname, hdefinitions⟩ := List.forall_mem_cons.mp hlines
  rw [textLines_createTable hname, List.mem_cons, List.mem_append, List.mem_singleton] at h
  rcases h with rfl | hcolumn | rfl
  · exact isExecuted_of_head? (c := 'C') (by simp) (by decide)
  · -- a line of the columns starts with the two blanks before a column
    have hpieces : ∀ piece ∈ columns.map fun column => ("  " ++ column.definition).toList,
        '\n' ∉ piece := by
      rw [List.forall_mem_map] at hdefinitions ⊢
      intro column hcolumn
      have hindented : SingleLine ("  " ++ column.definition) := by
        rw [singleLine_append]
        exact ⟨by decide, hdefinitions column hcolumn⟩
      exact hindented
    obtain ⟨piece, hpiece, rest, rfl⟩ :=
      exists_prefix_of_mem_textLines (List.map_eq_nil_iff.not.mpr hne) hpieces hcolumn
    obtain ⟨column, -, rfl⟩ := List.mem_map.mp hpiece
    exact isExecuted_of_head? (c := ' ') (by simp) (by decide)
  · decide

/-- Every physical line of a statement is executed. -/
theorem isExecuted_of_mem_command {step : Step} (hkind : step.kind = .command)
    (hlines : step.OfSingleLines)
    (hcolumns : ∀ name columns, step = .createTable name columns → columns ≠ [])
    {part : List Char} (h : part ∈ textLines step.sql.toList) : isExecuted part = true := by
  -- only a new table takes more than one line
  by_cases hcreate : ∃ name columns, step = .createTable name columns
  · obtain ⟨name, columns, rfl⟩ := hcreate
    exact isExecuted_of_mem_createTable hlines (hcolumns name columns rfl) h
  · have hsingle : SingleLine step.sql :=
      hlines.sql fun name columns he => hcreate ⟨name, columns, he⟩
    rw [textLines_of_not_mem hsingle, List.mem_singleton] at h
    obtain ⟨c, hc, hhead⟩ := head?_sql_of_command hkind
    exact isExecuted_of_head? (h ▸ hhead) (plain_of_mem_initials hc).2

/-- **A step that is made of single lines is faithful**, when it is read as what it is meant to be
and creates no table without columns. -/
theorem Step.OfSingleLines.faithful {step : Step} (hlines : step.OfSingleLines)
    (hkind : classify step.sql = step.kind)
    (hcolumns : ∀ name columns, step = .createTable name columns → columns ≠ []) :
    Faithful step.sql := by
  by_cases hcommand : step.kind = .command
  · have hnone : ¬classify step.sql ≠ .command := not_not.mpr (hkind.trans hcommand)
    exact ⟨fun _ => getLast?_sql_of_command hcommand,
      fun _ _ hpart => isExecuted_of_mem_command hcommand hlines hcolumns hpart,
      fun h => absurd h hnone, fun h => absurd h hnone⟩
  · exact faithful_of_remark hkind hcommand hlines

/-! ## Migrations -/

variable {options : MatchOptions} {oldText newText : String}

/-- A schema that is read is made of single lines. -/
theorem Schema.ofSingleLines_of_ofText {text : String} {schema : Schema}
    (h : Schema.ofText text = .ok schema) : schema.OfSingleLines :=
  Schema.newline_not_mem_of_ofText h

/-- The steps of a plan between two texts are faithful. -/
theorem Planned.faithful {old new : Schema} {steps : List Step}
    (h : Planned options oldText newText old new steps) {step : Step} (hstep : step ∈ steps) :
    Faithful step.sql := by
  have hold := Schema.ofSingleLines_of_ofText h.old_read
  have hnew := Schema.ofSingleLines_of_ofText h.new_read
  rw [eq_planSteps_of_plan h.planned] at hstep
  have hfits := Matching.ofSchemas_fits options old new
  have hlines := ofSingleLines_of_mem_planSteps hfits hold hnew hstep
  refine hlines.faithful (classify_of_mem_planSteps hstep) ?_
  rintro name columns rfl
  exact Schema.columns_ne_nil_of_ofText h.new_read _ (mem_of_createTable_mem_planSteps hstep)

/-- The message that refuses one of two texts is a single line. -/
theorem singleLine_message_of_readBoth {cause : ReadError}
    (h : readBoth oldText newText = .error cause) : SingleLine cause.message := by
  simp only [readBoth, bind_eq_error_iff, pure_ne_error, and_false, exists_false, or_false] at h
  rcases h with hold | ⟨old, -, hnew⟩
  · exact singleLine_message_of_ofText hold
  · exact singleLine_message_of_ofText hnew

/-- What stands in the way of a plan is said on a single line. -/
theorem singleLine_message_of_planBetween {obstacle : Obstacle}
    (h : planBetween options oldText newText = .error obstacle) : SingleLine obstacle.message := by
  have hnothing : ∀ side : Side, SingleLine (Obstacle.nothingDeclared side).message := by
    intro side
    cases side <;> decide
  simp only [planBetween, bind_eq_error_iff, mapError_eq_error_iff, mapError_eq_ok_iff,
    Prod.exists, readBoth_eq_ok_iff] at h
  -- a text cannot be read, one of the two declares nothing, or a new column cannot be filled
  rcases h with ⟨cause, hread, rfl⟩ | ⟨old, new, ⟨-, hnew⟩, h⟩
  · exact singleLine_message_of_readBoth hread
  · split at h
    · cases h
      exact hnothing .old
    · split at h
      · cases h
        exact hnothing .new
      · obtain ⟨cause, hcause, rfl⟩ := (mapError_eq_error_iff _ _ obstacle).mp h
        exact singleLine_message_of_plan (Schema.ofSingleLines_of_ofText hnew) hcause

/-- **Every line of a migration is faithful**, whatever the two texts hold. -/
theorem faithful_of_mem_migrationLines {line : String}
    (h : line ∈ migrationLines options oldText newText) : Faithful line := by
  unfold migrationLines at h
  split at h
  · next steps hplan =>
    obtain ⟨old, new, hplanned⟩ := (planBetween_eq_ok_iff steps).mp hplan
    obtain ⟨step, hstep, rfl⟩ := List.mem_map.mp h
    exact hplanned.faithful hstep
  · next obstacle hplan =>
    obtain rfl := List.mem_singleton.mp h
    have hmessage := singleLine_message_of_planBetween hplan
    refine faithful_of_remark (classify_error obstacle.message) (by simp [Step.kind]) ?_
    exact List.forall_mem_singleton.mpr hmessage

/-! ## Files -/

/-- A number that is padded with zeros is a single line. -/
theorem singleLine_padded (width n : Nat) : SingleLine (padded width n) := by
  have hzeros : SingleLine (zeros (width - (toString n).length)) := by
    rw [SingleLine, zeros, String.toList_ofList]
    intro hmem
    exact absurd (List.eq_of_mem_replicate hmem) (by decide)
  have hdigits := singleLine_toString n
  simp only [padded, singleLine_append, hzeros, hdigits, and_self]

namespace ClockTime

/-- A year is written on a single line. -/
theorem singleLine_yearText (year : Int) : SingleLine (yearText year) := by
  have hplus : SingleLine "+" := by decide
  have hminus : SingleLine "-" := by decide
  unfold yearText
  split
  · split
    · exact singleLine_padded 4 _
    · exact (singleLine_append _ _).mpr ⟨hplus, singleLine_padded 4 _⟩
  · exact (singleLine_append _ _).mpr ⟨hminus, singleLine_padded 4 _⟩

/-- The fraction of a second is written on a single line. -/
theorem singleLine_fractionText (nanosecond : Nat) : SingleLine (fractionText nanosecond) := by
  have hpoint : SingleLine "." := by decide
  unfold fractionText
  split
  · decide
  · split
    · exact (singleLine_append _ _).mpr ⟨hpoint, singleLine_padded 3 _⟩
    · split
      · exact (singleLine_append _ _).mpr ⟨hpoint, singleLine_padded 6 _⟩
      · exact (singleLine_append _ _).mpr ⟨hpoint, singleLine_padded 9 _⟩

/-- The digits of a date and a time of day are a single line. -/
theorem singleLine_stamp (time : ClockTime) : SingleLine time.stamp := by
  simp only [stamp, singleLine_append, singleLine_yearText, singleLine_padded, and_self]

/-- A date and a time of day are written on a single line. -/
theorem singleLine_text (time : ClockTime) : SingleLine time.text := by
  simp only [text, singleLine_append, singleLine_yearText, singleLine_padded]
  decide

end ClockTime

namespace Instant

/-- The stamp is a single line. -/
theorem singleLine_stamp (instant : Instant) : SingleLine instant.stamp :=
  instant.localTime.singleLine_stamp

/-- An offset is written on a single line, whichever its sign. -/
theorem singleLine_offsetText (offset : Int) : SingleLine (offsetText offset) := by
  have hsign : SingleLine (if offset < 0 then "-" else "+") := by
    split <;> decide
  simp only [offsetText, singleLine_append, singleLine_padded, hsign]
  decide

/-- An instant in full is a single line, wherever it was taken. -/
theorem singleLine_full (instant : Instant) : SingleLine instant.full := by
  simp only [full, singleLine_append, ClockTime.singleLine_text,
    ClockTime.singleLine_fractionText, singleLine_offsetText, and_self]

end Instant

/-- The physical lines of lines that are written one after the other: those of each of them, and an
empty one after the last line feed. -/
theorem textLines_join (lines : List String) :
    textLines (String.join (lines.map fun line => line ++ "\n")).toList =
      lines.flatMap (fun line => textLines line.toList) ++ [[]] := by
  induction lines with
  | nil => rfl
  | cons line rest ih =>
    have hcons : (String.join ((line :: rest).map fun line => line ++ "\n")).toList =
        line.toList ++ '\n' :: (String.join (rest.map fun line => line ++ "\n")).toList := by
      simp
    rw [hcons, textLines_append_cons, ih, List.flatMap_cons, List.append_assoc]

/-- Of faithful lines those of the commands are executed. -/
theorem filter_isExecuted_flatMap {lines : List String} (h : ∀ line ∈ lines, Faithful line) :
    (lines.flatMap fun line => textLines line.toList).filter isExecuted =
      (lines.filter fun line => classify line == .command).flatMap
        fun line => textLines line.toList := by
  induction lines with
  | nil => rfl
  | cons line rest ih =>
    rw [List.forall_mem_cons] at h
    rw [List.flatMap_cons, List.filter_append, ih h.2]
    -- a command keeps all its physical lines, and anything else loses its only one
    by_cases hcommand : classify line = .command
    · have hkept : (textLines line.toList).filter isExecuted = textLines line.toList :=
        List.filter_eq_self.mpr (h.1.executed hcommand)
      rw [hkept, List.filter_cons_of_pos (by simpa using hcommand), List.flatMap_cons]
    · have hskipped : (textLines line.toList).filter isExecuted = [] := by
        rw [textLines_of_not_mem (h.1.single hcommand)]
        exact List.filter_cons_of_neg (by simpa using h.1.skipped hcommand)
      rw [hskipped, List.filter_cons_of_neg (by simpa using hcommand), List.nil_append]

/-- The physical lines of a file whose name has no line feed: two comment lines, an empty one, and
those of the lines of the migration. -/
theorem MigrationFile.textLines_render {file : MigrationFile} (hname : SingleLine file.name) :
    textLines file.render.toList =
      (commentMark ++ " @name: " ++ file.stem).toList ::
        (commentMark ++ " @created: " ++ file.created.full).toList :: [] ::
          textLines (String.join (file.lines.map fun line => line ++ "\n")).toList := by
  have hstem : SingleLine (commentMark ++ " @name: " ++ file.stem) := by
    simp only [stem, singleLine_append, file.created.singleLine_stamp, hname]
    decide
  have hcreated : SingleLine (commentMark ++ " @created: " ++ file.created.full) := by
    simp only [singleLine_append, file.created.singleLine_full]
    decide
  have hrender : file.render.toList =
      (commentMark ++ " @name: " ++ file.stem).toList ++ '\n' ::
        ((commentMark ++ " @created: " ++ file.created.full).toList ++ '\n' ::
          ([] ++ '\n' :: (String.join (file.lines.map fun line => line ++ "\n")).toList)) := by
    simp [render, header]
  -- the two lines of the header are whole lines, and an empty one follows
  rw [hrender, textLines_append_cons, textLines_append_cons, textLines_append_cons,
    textLines_of_not_mem hstem, textLines_of_not_mem hcreated]
  rfl

/-- Without the empty lines and the comment lines, a file of faithful lines has exactly the physical
lines of the commands. -/
theorem MigrationFile.filter_isExecuted_render (file : MigrationFile)
    (hname : SingleLine file.name) (hlines : ∀ line ∈ file.lines, Faithful line) :
    (textLines file.render.toList).filter isExecuted =
      (file.lines.filter fun line => classify line == .command).flatMap
        fun line => textLines line.toList := by
  have hstem := isExecuted_commentMark (" @name: " ++ file.stem)
  have hcreated := isExecuted_commentMark (" @created: " ++ file.created.full)
  have hempty : isExecuted [] = false := rfl
  rw [← String.append_assoc] at hstem hcreated
  -- of the header nothing is left, and of the empty line at the end neither
  rw [textLines_render hname, textLines_join,
    List.filter_cons_of_neg (ne_true_of_eq_false hstem),
    List.filter_cons_of_neg (ne_true_of_eq_false hcreated),
    List.filter_cons_of_neg (ne_true_of_eq_false hempty), List.filter_append,
    List.filter_cons_of_neg (ne_true_of_eq_false hempty), List.filter_nil, List.append_nil]
  exact filter_isExecuted_flatMap hlines

/-- **A migration file executes the commands and nothing else.** Every command ends in a semicolon;
without the empty lines and the comment lines, the file has exactly the physical lines of the
commands; and no other line of the migration has a line feed. -/
theorem render_executes_commands (options : MatchOptions) (oldText newText name : String)
    (created : Instant) (hname : '\n' ∉ name.toList) :
    (∀ line ∈ migrationLines options oldText newText,
      classify line = .command → line.toList.getLast? = some ';') ∧
    (textLines (MigrationFile.mk name created
        (migrationLines options oldText newText)).render.toList).filter isExecuted =
      ((migrationLines options oldText newText).filter fun line =>
        classify line == .command).flatMap (fun line => textLines line.toList) ∧
    ∀ line ∈ migrationLines options oldText newText,
      classify line ≠ .command → '\n' ∉ line.toList := by
  have hfaithful : ∀ line ∈ migrationLines options oldText newText, Faithful line :=
    fun _ hline => faithful_of_mem_migrationLines hline
  -- where the lines come from does not matter any more
  generalize migrationLines options oldText newText = lines at hfaithful ⊢
  have hexecuted := MigrationFile.filter_isExecuted_render ⟨name, created, lines⟩ hname hfaithful
  exact ⟨fun line hline => (hfaithful line hline).semicolon, hexecuted,
    fun line hline => (hfaithful line hline).single⟩

namespace Sample

/-- A schema text with a value on two lines and a table to be dropped. -/
def moodText : String := "CREATE TYPE mood AS ENUM ('ok', 'so\nso'); CREATE TABLE log (at DATE);"

/-- A schema text that lacks the value and declares another table. -/
def tagText : String := "CREATE TYPE mood AS ENUM ('ok'); CREATE TABLE tag (label TEXT, kind mood);"

/-- The four lines of the migration between the two texts: an error, a new table, and a dropped one
with its caution. -/
theorem migrationLines_moodText_tagText : migrationLines .standard moodText tagText =
    ["-- ERROR: Cannot remove existing enum value in mood ('so so')",
      "CREATE TABLE tag (\n  label TEXT,\n  kind mood\n);",
      "-- CAUTION: Dropping table log will permanently delete its data",
      "DROP TABLE log;"] := by decide +kernel

/-- The second of January 2025 at four minutes past three, where clocks are three and a half hours
behind and still show the day before. -/
def eveningBefore : Instant := ⟨1735787045, 0, -12600⟩

/-- The migration between the two texts as a file. -/
def newTags : MigrationFile :=
  ⟨"new_tags", eveningBefore, migrationLines .standard moodText tagText⟩

end Sample

/-- The file of a migration with an error, a new table and a dropped one: its header has the local
time with its offset, the new table is created and the old one dropped. -/
theorem sample_file_executes :
    '\n' ∉ Sample.newTags.name.toList ∧
    Sample.newTags.header =
      "-- @name: 20250101233405_new_tags\n-- @created: 2025-01-01T23:34:05-03:30\n\n" ∧
    (textLines Sample.newTags.render.toList).filter isExecuted =
      ["CREATE TABLE tag (", "  label TEXT,", "  kind mood", ");", "DROP TABLE log;"].map
        String.toList := by
  have hname : '\n' ∉ "new_tags".toList := by decide
  have hfile := render_executes_commands .standard Sample.moodText Sample.tagText "new_tags"
    Sample.eveningBefore hname
  refine ⟨hname, by decide +kernel, hfile.2.1.trans ?_⟩
  rw [Sample.migrationLines_moodText_tagText]
  decide +kernel

end SchemaEvolution
