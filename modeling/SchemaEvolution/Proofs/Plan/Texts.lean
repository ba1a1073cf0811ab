import SchemaEvolution.Proofs.Declaration.Texts
import SchemaEvolution.Proofs.Report.Line
import SchemaEvolution.Proofs.Text.Lines
import SchemaEvolution.Proofs.Text.Literal

/-! # The texts that the steps of a plan are made of
The text of a step is put together from fixed words and from texts of the schemas. The words are
**seams**: a property is **seamless** when it passes from texts to what they are joined to by such
words, and a plan hands every seamless property of the schemas on to its steps. One of them is to be
on a single line, so every step is that but the creation of a table, which has a line for each
column. -/

namespace SchemaEvolution

/-! ## Seams -/

/-- A **seam** is a fixed word that stands between texts: one line that neither starts nor ends with
a dash and has no two dashes side by side. -/
def isSeam (word : String) : Bool :=
  word.toList.head?.any (· != '-') && word.toList.getLast?.any (· != '-') &&
    !word.toList.contains '\n' && decide (Apart (· == '-') word.toList)

/-- A seam starts and ends with other characters than dashes, and holds neither a line feed nor a
comment mark. -/
theorem isSeam_iff (word : String) :
    isSeam word = true ↔
      (∃ c, word.toList.head? = some c ∧ c ≠ '-') ∧
        (∃ c, word.toList.getLast? = some c ∧ c ≠ '-') ∧ '\n' ∉ word.toList ∧
          Apart (· == '-') word.toList := by
  simp [isSeam, Option.any_eq_true, and_assoc]

/-- A property of texts is **seamless** when joining texts by seams hands it on. -/
structure Seamless (P : List Char → Prop) : Prop where
  /-- The empty text has it. -/
  nil : P []
  /-- The front of a text inherits it. -/
  of_prefix : ∀ {cs ds : List Char}, cs <+: ds → P ds → P cs
  /-- The content of a literal inherits it from the value. -/
  double : ∀ {cs : List Char}, P cs → P (doubleQuotes cs)
  /-- Texts with a seam between them hand it on. -/
  join : ∀ {cs ds : List Char} {word : String}, isSeam word = true → P cs → P ds →
    P (cs ++ word.toList ++ ds)

namespace Seamless

variable {P : List Char → Prop} {first second word : String}

/-- Texts with a seam between them. -/
theorem append (h : Seamless P) (hword : isSeam word = true) (hfirst : P first.toList)
    (hsecond : P second.toList) : P (first ++ word ++ second).toList := by
  rw [String.toList_append, String.toList_append]
  exact h.join hword hfirst hsecond

/-- A seam behind a text. -/
theorem append_seam (h : Seamless P) (hword : isSeam word = true) (hfirst : P first.toList) :
    P (first ++ word).toList := by
  rw [String.toList_append, ← List.append_nil (first.toList ++ word.toList)]
  exact h.join hword hfirst h.nil

/-- A seam in front of a text. -/
theorem seam_append (h : Seamless P) (hword : isSeam word = true) (hsecond : P second.toList) :
    P (word ++ second).toList := by
  rw [String.toList_append]
  exact h.join hword h.nil hsecond

/-- A seam alone. -/
theorem seam (h : Seamless P) (hword : isSeam word = true) : P word.toList := by
  rw [← String.append_empty (s := word)]
  exact h.seam_append hword h.nil

/-- A literal inherits the property from its value. -/
theorem quote (h : Seamless P) {value : String} (hvalue : P value.toList) :
    P (quote value).toList := by
  have hmark : isSeam "'" = true := by decide
  have hopened : P (quoteMark :: doubleQuotes value.toList) :=
    h.join hmark h.nil (h.double hvalue)
  have hclosed := h.join hmark hopened h.nil
  rw [List.append_nil] at hclosed
  rw [toList_quote, literal]
  exact hclosed

/-- Texts with commas inherit the property. -/
theorem commaList (h : Seamless P) {texts : List String} (htexts : ∀ text ∈ texts, P text.toList) :
    P (Step.commaList texts).toList := by
  rw [Step.commaList, String.toList_intercalate]
  induction texts with
  | nil => exact h.nil
  | cons text rest ih =>
    rw [List.forall_mem_cons] at htexts
    cases rest with
    | nil =>
      rw [List.map_singleton, List.intercalate_singleton]
      exact htexts.1
    | cons next rest =>
      rw [List.map_cons, List.map_cons, List.intercalate_cons_cons]
      exact h.join (by decide) htexts.1 (ih htexts.2)

end Seamless

/-! ## Texts of steps -/

/-- The **texts** that a step is made of. -/
def Step.texts : Step → List String
  | .error text => [text]
  | .caution text => [text]
  | .note text => [text]
  | .addEnumValue typeName value => [typeName, value]
  | .createEnum name values => name :: values
  | .renameTable source target => [source, target]
  | .createTable name columns => name :: columns.map Column.definition
  | .copyData source target columns => source :: target :: columns
  | .dropTable name => [name]
  | .addColumn table column => [table, column.definition]
  | .dropColumn table column => [table, column]
  | .alterType table column newType conversion => table :: column :: newType :: conversion.toList
  | .setDefault table column value => [table, column, value]
  | .dropDefault table column => [table, column]
  | .setNotNull table column => [table, column]
  | .dropNotNull table column => [table, column]
  | .addPrimaryKey table column => [table, column]
  | .dropPrimaryKey table => [table]

/-- A step is **made of** texts with a property. -/
def Step.MadeOf (P : List Char → Prop) (step : Step) : Prop := ∀ text ∈ step.texts, P text.toList

variable {P : List Char → Prop}

/-- The start of a statement about a column. -/
theorem Seamless.alterColumn (h : Seamless P) {table column : String} (htable : P table.toList)
    (hcolumn : P column.toList) : P (Step.alterColumn table column).toList :=
  h.append (by decide) (h.seam_append (by decide) htable) hcolumn

/-- **A statement has every seamless property of its texts**, unless it creates a table. -/
theorem Step.MadeOf.sql (h : Seamless P) {step : Step} (hstep : step.MadeOf P)
    (hkind : step.kind = .command) (hcreate : ∀ name columns, step ≠ .createTable name columns) :
    P step.sql.toList := by
  cases step with
  | error | caution | note => cases hkind
  | createTable name columns => exact absurd rfl (hcreate name columns)
  | createEnum name values =>
    obtain ⟨hname, hvalues⟩ := List.forall_mem_cons.mp hstep
    have hlist : P (Step.commaList (values.map SchemaEvolution.quote)).toList :=
      h.commaList (List.forall_mem_map.mpr fun value hvalue => h.quote (hvalues value hvalue))
    exact h.append_seam (by decide) (h.append (by decide) (h.seam_append (by decide) hname) hlist)
  | copyData source target columns =>
    simp only [MadeOf, texts, List.forall_mem_cons] at hstep
    obtain ⟨hsource, htarget, hcolumns⟩ := hstep
    have hlist := h.commaList hcolumns
    have hinto : P ("INSERT INTO " ++ target ++ " (" ++ Step.commaList columns).toList :=
      h.append (by decide) (h.seam_append (by decide) htarget) hlist
    exact h.append_seam (by decide)
      (h.append (by decide) (h.append (by decide) hinto hlist) hsource)
  | addEnumValue typeName value =>
    simp only [MadeOf, texts, List.forall_mem_cons] at hstep
    exact h.append_seam (by decide)
      (h.append (by decide) (h.seam_append (by decide) hstep.1) (h.quote hstep.2.1))
  | alterType table column newType conversion =>
    simp only [MadeOf, texts, List.forall_mem_cons, Option.mem_toList] at hstep
    obtain ⟨htable, hcolumn, htype, hconversion⟩ := hstep
    have htyped : P (Step.alterColumn table column ++ " TYPE " ++ newType).toList :=
      h.append (by decide) (h.alterColumn htable hcolumn) htype
    -- the conversion of the values is written only where there is one
    refine h.append_seam (by decide) ?_
    cases conversion with
    | none => rwa [String.append_empty]
    | some expression =>
      rw [← String.append_assoc]
      exact h.append (by decide) htyped (hconversion expression rfl)
  | setDefault table column value =>
    simp only [MadeOf, texts, List.forall_mem_cons] at hstep
    exact h.append_seam (by decide)
      (h.append (by decide) (h.alterColumn hstep.1 hstep.2.1) hstep.2.2.1)
  | dropDefault table column | setNotNull table column | dropNotNull table column =>
    simp only [MadeOf, texts, List.forall_mem_cons] at hstep
    exact h.append_seam (by decide) (h.alterColumn hstep.1 hstep.2.1)
  | dropTable name =>
    exact h.append_seam (by decide) (h.seam_append (by decide) (hstep name List.mem_cons_self))
  | dropPrimaryKey table =>
    have htable := hstep table List.mem_cons_self
    exact h.append_seam (by decide)
      (h.append (by decide) (h.seam_append (by decide) htable) htable)
  | renameTable source target | addColumn table column | dropColumn table column
    | addPrimaryKey table column =>
    simp only [MadeOf, texts, List.forall_mem_cons] at hstep
    exact h.append_seam (by decide)
      (h.append (by decide) (h.seam_append (by decide) hstep.1) hstep.2.1)

/-- The statement that creates a table: a line that opens it, the lines of the columns, and a line
that closes it. -/
theorem toList_createTable (name : String) (columns : List Column) :
    (Step.createTable name columns).sql.toList =
      ("CREATE TABLE " ++ name ++ " (").toList ++ '\n' ::
        ([',', '\n'].intercalate (columns.map fun column => ("  " ++ column.definition).toList) ++
          '\n' :: [')', ';']) := by
  change ("CREATE TABLE " ++ name ++ " (\n" ++
    String.intercalate ",\n" (columns.map fun column => "  " ++ column.definition) ++
      "\n);").toList = _
  simp [String.toList_intercalate, Function.comp_def]

/-! ## Texts of schemas -/

/-- A column is **made of** texts with a property. -/
def Column.MadeOf (P : List Char → Prop) (column : Column) : Prop := ∀ part ∈ column.texts, P part

/-- A schema is **made of** texts with a property. -/
def Schema.MadeOf (P : List Char → Prop) (schema : Schema) : Prop := ∀ part ∈ schema.texts, P part

/-- The base type stands at the front of the type text. -/
theorem Column.prefix_baseText (cs : List Char) : baseText cs <+: cs := by
  unfold baseText
  dsimp only
  split
  · exact (prefix_trimEnd _).trans ((List.take_prefix _ _).trans (prefix_trimEnd cs))
  · exact prefix_trimEnd cs

namespace Column.MadeOf

variable {column : Column}

/-- The name of a column is one of its texts. -/
theorem name (hcolumn : column.MadeOf P) : P column.name.toList := hcolumn _ List.mem_cons_self

/-- The type of a column is one of its texts. -/
theorem dataType (hcolumn : column.MadeOf P) : P column.dataType.toList :=
  hcolumn _ (List.mem_cons_of_mem _ List.mem_cons_self)

/-- The default of a column is one of its texts. -/
theorem defaultValue (hcolumn : column.MadeOf P) {value : String}
    (hvalue : column.defaultValue = some value) : P value.toList := by
  refine hcolumn _ (List.mem_cons_of_mem _ (List.mem_cons_of_mem _ ?_))
  rw [hvalue]
  exact List.mem_singleton.mpr rfl

/-- The base type is the front of the type. -/
theorem baseType (h : Seamless P) (hcolumn : column.MadeOf P) : P column.baseType.toList := by
  rw [Column.baseType, String.toList_ofList]
  exact h.of_prefix (prefix_baseText _) hcolumn.dataType

/-- The clause that declares a column has the seamless properties of its texts. -/
theorem definition (h : Seamless P) (hcolumn : column.MadeOf P) : P column.definition.toList := by
  have htyped : P (column.name ++ " " ++ column.dataType).toList :=
    h.append (by decide) hcolumn.name hcolumn.dataType
  have hnull : ∀ text : String, P text.toList →
      P (text ++ if column.notNull then " NOT NULL" else "").toList := by
    intro text htext
    cases column.notNull with
    | false => rwa [if_neg (by decide), String.append_empty]
    | true => exact h.append_seam (by decide) htext
  unfold Column.definition
  apply hnull
  cases hvalue : column.defaultValue with
  | none => rwa [String.append_empty]
  | some value =>
    rw [← String.append_assoc]
    exact h.append (by decide) htyped (hcolumn.defaultValue hvalue)

end Column.MadeOf

namespace Schema.MadeOf

variable {schema : Schema}

/-- The name of a type and its texts have the property. -/
theorem type (hschema : schema.MadeOf P) {entry : String × TypeDefinition}
    (hentry : entry ∈ schema.types.entries) :
    P entry.1.toList ∧ ∀ part ∈ entry.2.texts, P part := by
  have hparts : ∀ part ∈ entry.1.toList :: entry.2.texts, P part := fun part hpart =>
    hschema part (List.mem_append_left _ (List.mem_flatMap.mpr ⟨entry, hentry, hpart⟩))
  exact List.forall_mem_cons.mp hparts

/-- The name of a table has the property, and its columns are made of texts that have it. -/
theorem table (hschema : schema.MadeOf P) {table : NamedTable}
    (htable : table ∈ schema.tables.entries) :
    P table.1.toList ∧ ∀ column ∈ table.2, column.MadeOf P := by
  have hparts : ∀ part ∈ table.1.toList :: table.2.flatMap Column.texts, P part :=
    fun part hpart =>
      hschema part (List.mem_append_right _ (List.mem_flatMap.mpr ⟨table, htable, hpart⟩))
  obtain ⟨hname, hcolumns⟩ := List.forall_mem_cons.mp hparts
  exact ⟨hname, fun column hcolumn part hpart =>
    hcolumns part (List.mem_flatMap.mpr ⟨column, hcolumn, hpart⟩)⟩

/-- The name of a table has the property. -/
theorem tableName (hschema : schema.MadeOf P) {table : String}
    (htable : table ∈ schema.tables.names) : P table.toList := by
  obtain ⟨entry, hentry, rfl⟩ := List.mem_map.mp htable
  exact (hschema.table hentry).1

end Schema.MadeOf

/-! ## The phases of a plan -/

/-- The texts that the message of a conflict repeats. -/
def TypeConflict.texts : TypeConflict → List String
  | .changedValue typeName old new => [typeName, old, new]
  | .removedValue typeName value => [typeName, value]
  | .changedComposite typeName => [typeName]
  | .changedKind typeName _ _ => [typeName]

/-- The word for a kind of types is a seam. -/
theorem TypeDefinition.isSeam_kindName (definition : TypeDefinition) :
    isSeam definition.kindName = true := by
  cases definition with
  | enumeration values =>
    show isSeam "ENUM" = true
    decide
  | composite text =>
    show isSeam "composite" = true
    decide

/-- The message of a conflict has the seamless properties of the texts that it repeats. -/
theorem TypeConflict.madeOf (h : Seamless P) {conflict : TypeConflict}
    (htexts : ∀ text ∈ conflict.texts, P text.toList) : conflict.step.MadeOf P := by
  have hmessage : P conflict.message.toList := by
    cases conflict with
    | changedValue typeName old new =>
      simp only [TypeConflict.texts, List.forall_mem_cons] at htexts
      obtain ⟨hname, hold, hnew, -⟩ := htexts
      have hopening :
          P ("Cannot modify existing enum value in " ++ typeName ++ " ('" ++ old).toList :=
        h.append (by decide) (h.seam_append (by decide) hname) hold
      exact h.append_seam (by decide) (h.append (by decide) hopening hnew)
    | removedValue typeName value =>
      simp only [TypeConflict.texts, List.forall_mem_cons] at htexts
      exact h.append_seam (by decide)
        (h.append (by decide) (h.seam_append (by decide) htexts.1) htexts.2.1)
    | changedComposite typeName =>
      have hname := htexts typeName List.mem_cons_self
      exact h.append_seam (by decide) (h.seam_append (by decide) hname)
    | changedKind typeName old new =>
      have hname := htexts typeName List.mem_cons_self
      have hold : P ("Cannot change type " ++ typeName ++ " between " ++ old.kindName).toList :=
        h.append (by decide) (h.seam_append (by decide) hname) (h.seam old.isSeam_kindName)
      exact h.append (by decide) hold (h.seam new.isSeam_kindName)
  rintro text htext
  obtain rfl := List.mem_singleton.mp htext
  exact hmessage

/-- The values of an enumeration have the property. -/
theorem TypeDefinition.forall_mem_values {values : List String}
    (h : ∀ part ∈ (TypeDefinition.enumeration values).texts, P part) :
    ∀ value ∈ values, P value.toList :=
  fun _ hvalue => h _ (List.mem_map_of_mem hvalue)

/-- The steps that report conflicts between values are made of the values. -/
theorem madeOf_of_mem_valueConflicts (h : Seamless P) {typeName : String}
    (hname : P typeName.toList) {olds news : List String} (holds : ∀ value ∈ olds, P value.toList)
    (hnews : ∀ value ∈ news, P value.toList) {step : Step}
    (hstep : step ∈ valueConflicts typeName olds news) : step.MadeOf P := by
  induction olds generalizing news with
  | nil => cases hstep
  | cons old olds ih =>
    cases news with
    | nil => cases hstep
    | cons new news =>
      rw [List.forall_mem_cons] at holds hnews
      have hrest : step ∈ valueConflicts typeName olds news → step.MadeOf P := ih holds.2 hnews.2
      rw [valueConflicts] at hstep
      split at hstep
      · exact hrest hstep
      · rcases List.mem_cons.mp hstep with rfl | hmem
        · exact TypeConflict.madeOf h (by simp [TypeConflict.texts, hname, holds.1, hnews.1])
        · exact hrest hmem

/-- The steps for an enumeration are made of its name and the values. -/
theorem madeOf_of_mem_enumerationChanges (h : Seamless P) {typeName : String}
    (hname : P typeName.toList) {olds news : List String} (holds : ∀ value ∈ olds, P value.toList)
    (hnews : ∀ value ∈ news, P value.toList) {step : Step}
    (hstep : step ∈ enumerationChanges typeName olds news) : step.MadeOf P := by
  rcases List.mem_append.mp hstep with hconflict | hadded
  · rcases List.mem_append.mp hconflict with hchanged | hremoved
    · exact madeOf_of_mem_valueConflicts h hname holds hnews hchanged
    · obtain ⟨value, hvalue, rfl⟩ := List.mem_map.mp hremoved
      have hold := holds value (List.mem_of_mem_drop hvalue)
      exact TypeConflict.madeOf h (by simp [TypeConflict.texts, hname, hold])
  · obtain ⟨value, hvalue, rfl⟩ := List.mem_map.mp hadded
    have hnew := hnews value (List.mem_of_mem_drop hvalue)
    simp [Step.MadeOf, Step.texts, hname, hnew]

variable {matching : Matching} {old new : Schema}

/-- The first phase is made of the texts of the types. -/
theorem madeOf_of_mem_typeChanges (h : Seamless P) (hold : old.MadeOf P)
    {types : List (String × TypeDefinition)}
    (htypes : ∀ entry ∈ types, P entry.1.toList ∧ ∀ part ∈ entry.2.texts, P part)
    {step : Step} (hstep : step ∈ typeChanges old.types types) : step.MadeOf P := by
  induction types with
  | nil => cases hstep
  | cons entry rest ih =>
    obtain ⟨name, definition⟩ := entry
    rw [List.forall_mem_cons] at htypes
    obtain ⟨⟨hname, hdefinition⟩, hrest⟩ := htypes
    have hothers : step ∈ typeChanges old.types rest → step.MadeOf P := ih hrest
    rw [typeChanges] at hstep
    split at hstep
    · exact hothers hstep
    · next former hformer =>
      have hparts := (hold.type ((Catalog.get?_eq_some_iff _ _ former).mp hformer)).2
      -- both are enumerations, both are composite, or the kind has changed
      split at hstep
      · rcases List.mem_append.mp hstep with hfirst | hmem
        · exact madeOf_of_mem_enumerationChanges h hname (TypeDefinition.forall_mem_values hparts)
            (TypeDefinition.forall_mem_values hdefinition) hfirst
        · exact hothers hmem
      · split at hstep
        · exact hothers hstep
        · obtain rfl := List.mem_singleton.mp hstep
          exact TypeConflict.madeOf h (by simpa [TypeConflict.texts] using hname)
      · rcases List.mem_cons.mp hstep with rfl | hmem
        · exact TypeConflict.madeOf h (by simpa [TypeConflict.texts] using hname)
        · exact hothers hmem

/-- The expression that converts a column has the seamless properties of the column's name. -/
theorem Seamless.booleanConversion (h : Seamless P) {oldType newType column expression : String}
    (hcolumn : P column.toList)
    (hexpression : SchemaEvolution.booleanConversion oldType newType column = some expression) :
    P expression.toList := by
  unfold SchemaEvolution.booleanConversion at hexpression
  split at hexpression
  · split at hexpression
    · cases hexpression
    · rw [← Option.some.inj hexpression]
      exact h.append_seam (by decide) hcolumn
    · rw [← Option.some.inj hexpression]
      exact h.append_seam (by decide) (h.seam_append (by decide) hcolumn)
    · rw [← Option.some.inj hexpression]
      exact h.append_seam (by decide) hcolumn
  · cases hexpression

/-- The steps for a column that stays are made of its texts. -/
theorem madeOf_of_mem_columnChanges (h : Seamless P) {table : String} (htable : P table.toList)
    {former column : Column} (hcolumn : column.MadeOf P) {step : Step}
    (hstep : step ∈ columnChanges table former column) : step.MadeOf P := by
  have hname := hcolumn.name
  -- most of the steps only name the table and the column
  have hnames : ∀ text ∈ [table, column.name], P text.toList := by simp [htable, hname]
  rcases List.mem_append.mp hstep with hfirst | hnull
  · rcases List.mem_append.mp hfirst with htype | hkey
    · rcases shape_of_mem_typeAndDefaultChanges htype with rfl | rfl | ⟨value, hvalue, rfl⟩
      · exact hnames
      · -- the base type is written, and the expression where there is one
        have hexpression : ∀ text ∈ (booleanConversion former.baseType column.baseType
            column.name).toList, P text.toList := fun text htext =>
          h.booleanConversion hname (Option.mem_toList.mp htext)
        have hbase := hcolumn.baseType h
        simpa only [Step.MadeOf, Step.texts, List.forall_mem_cons] using
          ⟨htable, hname, hbase, hexpression⟩
      · have hdefault := hcolumn.defaultValue hvalue
        simp [Step.MadeOf, Step.texts, htable, hname, hdefault]
    · unfold keyChanges at hkey
      split at hkey
      · obtain rfl := List.mem_singleton.mp hkey
        simpa [Step.MadeOf, Step.texts] using htable
      · obtain rfl := List.mem_singleton.mp hkey
        exact hnames
      · cases hkey
  · unfold nullChanges at hnull
    split at hnull
    · obtain rfl := List.mem_singleton.mp hnull
      exact hnames
    · obtain rfl := List.mem_singleton.mp hnull
      exact hnames
    · cases hnull

/-- The steps for a table are made of the texts of its columns. -/
theorem madeOf_of_mem_columnSteps (h : Seamless P) {table : String} (htable : P table.toList)
    {olds news : List Column} (holds : ∀ column ∈ olds, column.MadeOf P)
    (hnews : ∀ column ∈ news, column.MadeOf P) {step : Step}
    (hstep : step ∈ columnSteps table olds news) : step.MadeOf P := by
  rcases List.mem_append.mp hstep with hfirst | hdropped
  · rcases List.mem_append.mp hfirst with hadded | hkept
    · obtain ⟨column, hcolumn, rfl⟩ := List.mem_map.mp hadded
      have hdefinition := (hnews column (List.mem_of_mem_filter hcolumn)).definition h
      simp [Step.MadeOf, Step.texts, htable, hdefinition]
    · obtain ⟨column, hcolumn, hchange⟩ := List.mem_flatMap.mp hkept
      split at hchange
      · exact madeOf_of_mem_columnChanges h htable (hnews column hcolumn) hchange
      · cases hchange
  · obtain ⟨column, hcolumn, rfl⟩ := List.mem_map.mp hdropped
    have hname := (holds column (List.mem_of_mem_filter hcolumn)).name
    simp [Step.MadeOf, Step.texts, htable, hname]

/-- The hint to copy data is made of the names that it repeats. -/
theorem madeOf_of_mem_copyHint (h : Seamless P) {source target : String} {shared : List String}
    (hsource : P source.toList) (htarget : P target.toList)
    (hshared : ∀ name ∈ shared, P name.toList) {step : Step}
    (hstep : step ∈ copyHint source target shared) : step.MadeOf P := by
  unfold copyHint at hstep
  split at hstep
  · cases hstep
  · rcases List.mem_pair.mp hstep with rfl | rfl
    · intro text htext
      obtain rfl := List.mem_singleton.mp htext
      exact h.append_seam (by decide)
        (h.append (by decide) (h.seam_append (by decide) hsource) htarget)
    · exact List.forall_mem_cons.mpr ⟨hsource, List.forall_mem_cons.mpr ⟨htarget, hshared⟩⟩

/-- The steps for a table that comes are made of the texts of its columns. -/
theorem madeOf_of_mem_tableCreation (h : Seamless P) (hfits : matching.Fits old new)
    (hold : old.MadeOf P) {table : NamedTable} (htable : P table.1.toList)
    (hcolumns : ∀ column ∈ table.2, column.MadeOf P) {step : Step}
    (hstep : step ∈ tableCreation matching old table) : step.MadeOf P := by
  rcases List.mem_cons.mp hstep with rfl | hhint
  · have hdefinitions : ∀ text ∈ table.2.map Column.definition, P text.toList :=
      List.forall_mem_map.mpr fun column hcolumn => (hcolumns column hcolumn).definition h
    exact List.forall_mem_cons.mpr ⟨htable, hdefinitions⟩
  · split at hhint
    · cases hhint
    · next source hsource =>
      have hsourceName := hold.tableName
        (hfits.replaced_lost _ (Matching.mem_replacements_of_replacedBy? hsource)).1
      split at hhint
      · cases hhint
      · refine madeOf_of_mem_copyHint h hsourceName htable ?_ hhint
        refine List.forall_mem_map.mpr fun column hcolumn => ?_
        exact (hcolumns column (List.mem_of_mem_filter hcolumn)).name

/-- The steps for a table that goes are made of its name. -/
theorem madeOf_of_mem_tableDrop (h : Seamless P) {table : String} (htable : P table.toList)
    {step : Step} (hstep : step ∈ tableDrop table) : step.MadeOf P := by
  rcases List.mem_pair.mp hstep with rfl | rfl
  · intro text htext
    obtain rfl := List.mem_singleton.mp htext
    exact h.append_seam (by decide) (h.seam_append (by decide) htable)
  · simpa [Step.MadeOf, Step.texts] using htable

/-- **A plan hands every seamless property of the schemas on** to the texts of its steps. -/
theorem madeOf_of_mem_planSteps (h : Seamless P) (hfits : matching.Fits old new)
    (hold : old.MadeOf P) (hnew : new.MadeOf P) {step : Step}
    (hstep : step ∈ planSteps matching old new) : step.MadeOf P := by
  -- names that are left behind come from the old schema, all other texts from the new one
  rcases mem_planSteps_iff.mp hstep with htypes | ⟨pair, hpair, rfl⟩ | ⟨table, htable, hchanges⟩ |
    henums | ⟨table, htable, -, hcreation⟩ | ⟨table, htable, -, hdrop⟩
  · exact madeOf_of_mem_typeChanges h hold (fun _ hentry => hnew.type hentry) htypes
  · have hsource := hold.tableName (hfits.source_lost _ (List.mem_map_of_mem hpair)).1
    have htarget := hnew.tableName (hfits.target_gained _ (List.mem_map_of_mem hpair)).1
    simp [Step.MadeOf, Step.texts, hsource, htarget]
  · unfold keptSteps at hchanges
    split at hchanges
    · cases hchanges
    · next former hformer =>
      have hcolumns := (hold.table ((Catalog.get?_eq_some_iff _ _ former).mp hformer)).2
      exact madeOf_of_mem_columnSteps h (hnew.table htable).1 hcolumns (hnew.table htable).2
        hchanges
  · obtain ⟨⟨name, definition⟩, hentry, hcreate⟩ := List.mem_filterMap.mp henums
    obtain ⟨hname, hparts⟩ := hnew.type (List.mem_of_mem_filter hentry)
    cases definition with
    | enumeration values =>
      obtain rfl := Option.some.inj hcreate
      exact List.forall_mem_cons.mpr ⟨hname, TypeDefinition.forall_mem_values hparts⟩
    | composite definition => cases hcreate
  · exact madeOf_of_mem_tableCreation h hfits hold (hnew.table htable).1 (hnew.table htable).2
      hcreation
  · exact madeOf_of_mem_tableDrop h (hold.tableName htable) hdrop

/-! ## Single lines -/

/-- To be on a single line is seamless. -/
theorem seamless_singleLine : Seamless fun cs => '\n' ∉ cs where
  nil := List.not_mem_nil
  of_prefix hpart h hmem := h (hpart.subset hmem)
  double h hmem := h ((mem_doubleQuotes_iff _ _).mp hmem)
  join {cs ds word} hword hcs hds := by
    have hline : '\n' ∉ word.toList := ((isSeam_iff word).mp hword).2.2.1
    simp [hcs, hds, hline]

/-- A step is made of single lines. -/
def Step.OfSingleLines (step : Step) : Prop := ∀ text ∈ step.texts, SingleLine text

/-- A schema is made of single lines. -/
def Schema.OfSingleLines (schema : Schema) : Prop := ∀ part ∈ schema.texts, '\n' ∉ part

/-- **A step that is made of single lines is on a single line**, unless it creates a table. -/
theorem Step.OfSingleLines.sql {step : Step} (h : step.OfSingleLines)
    (hcreate : ∀ name columns, step ≠ .createTable name columns) : SingleLine step.sql := by
  cases step with
  | error text | caution text | note text =>
    have htext := h text List.mem_cons_self
    unfold Step.sql
    simp only [singleLine_append, htext]
    decide
  | _ => exact MadeOf.sql seamless_singleLine h rfl hcreate

/-- **The steps of a plan are made of single lines** when the schemas are. -/
theorem ofSingleLines_of_mem_planSteps (hfits : matching.Fits old new) (hold : old.OfSingleLines)
    (hnew : new.OfSingleLines) {step : Step} (h : step ∈ planSteps matching old new) :
    step.OfSingleLines :=
  madeOf_of_mem_planSteps seamless_singleLine hfits hold hnew h

/-- **The message that refuses a plan is a single line** when the new schema is made of such. -/
theorem singleLine_message_of_plan {options : MatchOptions} (hnew : new.OfSingleLines)
    {cause : UnfillableColumn} (h : plan options old new = .error cause) :
    SingleLine cause.message := by
  obtain ⟨table, htable, column, hcolumn, rfl⟩ := exists_of_plan_eq_error h
  obtain ⟨hname, hcolumns⟩ := Schema.MadeOf.table hnew htable
  have hcolumnName := (hcolumns column hcolumn).name
  exact seamless_singleLine.append_seam (by decide)
    (seamless_singleLine.append (by decide) (seamless_singleLine.seam_append (by decide) hname)
      hcolumnName)

end SchemaEvolution
