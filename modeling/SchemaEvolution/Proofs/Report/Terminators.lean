import SchemaEvolution.Proofs.Declaration.CommentMarks
import SchemaEvolution.Proofs.Declaration.WellFormed
import SchemaEvolution.Proofs.Plan.Texts

/-! # Statements keep their semicolons
The semicolon at the end of a statement would be lost behind a comment mark. None of the words that
a statement is put together with makes one, so a statement has a comment mark only if a text of the
schemas has one; and from texts that join no dashes no such schema is read. -/

namespace SchemaEvolution

/-! ## Statements without comment marks -/

/-- To have no comment mark is seamless. -/
theorem seamless_unmarked : Seamless (Apart (· == '-')) where
  nil := .nil
  of_prefix hpart h := h.of_infix hpart.isInfix
  double h := Apart.doubleQuotes (by decide) h
  join {cs ds word} hword hcs hds := by
    obtain ⟨⟨first, hfirst, hopens⟩, ⟨last, hlast, hcloses⟩, -, hapart⟩ :=
      (isSeam_iff word).mp hword
    have hfront : Apart (· == '-') (cs ++ word.toList) :=
      Apart.append hcs hapart (.inr fun c hc => by
        rw [hfirst, Option.mem_some_iff] at hc
        simpa [← hc] using hopens)
    refine hfront.append hds (.inl fun c hc => ?_)
    rw [List.getLast?_append, hlast, Option.some_or, Option.mem_some_iff] at hc
    simpa [← hc] using hcloses

/-- A statement that creates a table has no comment mark when its texts have none. -/
theorem unmarked_createTable {name : String} {columns : List Column}
    (hstep : (Step.createTable name columns).MadeOf (Apart (· == '-'))) :
    Apart (· == '-') (Step.createTable name columns).sql.toList := by
  obtain ⟨hname, hdefinitions⟩ := List.forall_mem_cons.mp hstep
  have hopening : Apart (· == '-') ("CREATE TABLE " ++ name ++ " (").toList :=
    seamless_unmarked.append_seam (by decide) (seamless_unmarked.seam_append (by decide) hname)
  have hcolumns : Apart (· == '-') ([',', '\n'].intercalate
      (columns.map fun column => ("  " ++ column.definition).toList)) := by
    rw [← joinWith_eq_intercalate]
    refine Apart.joinWith (by decide) (List.forall_mem_map.mpr fun column hcolumn => ?_)
    exact seamless_unmarked.seam_append (by decide)
      (hdefinitions _ (List.mem_map_of_mem hcolumn))
  rw [toList_createTable, Apart.append_cons_iff_of_not (by decide),
    Apart.append_cons_iff_of_not (by decide)]
  exact ⟨hopening, hcolumns, by decide⟩

/-- **A statement has no comment mark** when its texts have none. -/
theorem Step.MadeOf.not_hasMark {step : Step} (hstep : step.MadeOf (Apart (· == '-')))
    (hkind : step.kind = .command) : ¬HasMark step.sql.toList := by
  rw [← apart_dash_iff]
  by_cases hcreate : ∃ name columns, step = .createTable name columns
  · obtain ⟨name, columns, rfl⟩ := hcreate
    exact unmarked_createTable hstep
  · exact hstep.sql seamless_unmarked hkind fun name columns he => hcreate ⟨name, columns, he⟩

/-! ## Migrations without comment marks -/

/-- A schema that is read from a text that joins no dashes has no comment mark. -/
theorem Schema.unmarked_of_ofText {text : String} {schema : Schema}
    (hdashes : ¬JoinsDashes text.toList) (hread : Schema.ofText text = .ok schema) :
    schema.MadeOf (Apart (· == '-')) :=
  (handsOn_unmarked hdashes).of_eq_ok hread

/-- **Comments are removed, and statements keep their semicolons, where no text joins dashes.**
Cleaning leaves no name delimiter, and a comment mark exactly where the text joins dashes. A schema
that is read from a text that joins none has no comment mark, and neither has a statement of a plan
from another such schema to it, which ends in a semicolon. -/
theorem unmarked_of_unjoined (text : String) :
    (∀ c ∈ clean text.toList, isNameDelimiter c = false) ∧
    (HasMark (clean text.toList) ↔ JoinsDashes text.toList) ∧
    (¬JoinsDashes text.toList → ∀ schema, Schema.ofText text = .ok schema →
      (∀ part ∈ schema.texts, ¬HasMark part) ∧
      ∀ options formerText former steps, ¬JoinsDashes formerText.toList →
        Schema.ofText formerText = .ok former → plan options former schema = .ok steps →
        ∀ step ∈ steps, step.kind = .command →
          ¬HasMark step.sql.toList ∧ step.sql.toList.getLast? = some ';') := by
  refine ⟨fun c hc => isNameDelimiter_of_mem_clean hc, hasMark_clean_iff _, ?_⟩
  intro hdashes schema hread
  have hschema := Schema.unmarked_of_ofText hdashes hread
  refine ⟨fun part hpart => (apart_dash_iff part).mp (hschema part hpart), ?_⟩
  intro options formerText former steps hapart hformer hplan step hstep hkind
  rw [eq_planSteps_of_plan hplan] at hstep
  have hmade := madeOf_of_mem_planSteps seamless_unmarked
    (Matching.ofSchemas_fits options former schema) (Schema.unmarked_of_ofText hapart hformer)
    hschema hstep
  exact ⟨hmade.not_hasMark hkind, getLast?_sql_of_command hkind⟩

namespace Sample

/-- A schema text with name delimiters and a comment in which they keep dashes apart. -/
def unbilled : String := "CREATE TABLE \x22t\x22 (id INT); -- 1 -\x22- 2"

/-- A schema text with a new column whose default has two dashes and a blank between them. -/
def billed : String := "CREATE TABLE t (id INT, total INT DEFAULT 1 - -\x222\x22);"

/-- A schema text with a new column whose default has two dashes and a delimiter between them. -/
def misquoted : String := "CREATE TABLE t (id INT, total INT DEFAULT 1 -\x22- 2\n);"

/-- The schema without the new column. -/
def unbilledSchema : Schema := ⟨.empty, .ofList [("t", [⟨"id", "INT", false, none⟩])]⟩

/-- The schema with the new column and a given default. -/
def billedSchema (value : String) : Schema :=
  ⟨.empty, .ofList [("t", [⟨"id", "INT", false, none⟩, ⟨"total", "INT", false, some value⟩])]⟩

/-- The step that adds the new column. -/
def billing (value : String) : Step := .addColumn "t" ⟨"total", "INT", false, some value⟩

end Sample

/-- A blank keeps the dashes of the default apart, and a comment may hold any dashes. -/
theorem sample_unmarked_of_unjoined :
    ¬JoinsDashes Sample.unbilled.toList ∧ ¬JoinsDashes Sample.billed.toList ∧
      Schema.ofText Sample.unbilled = .ok Sample.unbilledSchema ∧
      Schema.ofText Sample.billed = .ok (Sample.billedSchema "1 - -2") ∧
      plan .standard Sample.unbilledSchema (Sample.billedSchema "1 - -2") =
        .ok [Sample.billing "1 - -2"] ∧
      (∀ part ∈ (Sample.billedSchema "1 - -2").texts, ¬HasMark part) ∧
      ¬HasMark (Sample.billing "1 - -2").sql.toList := by
  have hformer : ¬JoinsDashes Sample.unbilled.toList := by decide +kernel
  have hdashes : ¬JoinsDashes Sample.billed.toList := by decide +kernel
  have hold : Schema.ofText Sample.unbilled = .ok Sample.unbilledSchema := by decide +kernel
  have hnew : Schema.ofText Sample.billed = .ok (Sample.billedSchema "1 - -2") := by decide +kernel
  have hplan : plan .standard Sample.unbilledSchema (Sample.billedSchema "1 - -2") =
      .ok [Sample.billing "1 - -2"] := by decide +kernel
  obtain ⟨-, -, hread⟩ := unmarked_of_unjoined Sample.billed
  obtain ⟨hschema, hsteps⟩ := hread hdashes _ hnew
  exact ⟨hformer, hdashes, hold, hnew, hplan, hschema,
    (hsteps _ _ _ _ hformer hold hplan _ List.mem_cons_self rfl).1⟩

/-- A delimiter does not keep the dashes of the default apart: a comment mark is left in the cleaned
text, in the schema and in the statement, whose semicolon stands behind it. -/
theorem sample_semicolon_lost :
    HasMark (clean Sample.misquoted.toList) ∧
      Schema.ofText Sample.unbilled = .ok Sample.unbilledSchema ∧
      Schema.ofText Sample.misquoted = .ok (Sample.billedSchema "1 -- 2") ∧
      plan .standard Sample.unbilledSchema (Sample.billedSchema "1 -- 2") =
        .ok [Sample.billing "1 -- 2"] ∧
      (Sample.billing "1 -- 2").sql = "ALTER TABLE t ADD COLUMN total INT DEFAULT 1 -- 2;" ∧
      beforeComment (Sample.billing "1 -- 2").sql.toList =
        "ALTER TABLE t ADD COLUMN total INT DEFAULT 1 ".toList := by
  decide +kernel

end SchemaEvolution
