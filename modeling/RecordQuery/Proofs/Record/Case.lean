import RecordQuery.Proofs.Document.Plain
import RecordQuery.Proofs.Record.Entries

/-!
# Cases written as plain scalars

A schema takes the cases of an enumeration for strings as they are written, while a record gives a
plain scalar a type before its text is looked for among the cases.  So a case that is written the
same in both is found exactly if the spelling is that of a string, or the one spelling that its
Boolean or number is written back in.
-/

namespace RecordQuery

namespace Schema

/-! ## The schema -/

/-- The text of a schema declares an enumeration field, as the first of the name, with one case that
is written as a plain scalar. -/
inductive DeclaresCase (schemaText name case : String) : Prop where
  | intro {node fields declaration : Yaml.Node} {entries parts : List (String × Yaml.Node)}
      {earlier later : List Yaml.Node} (written : Yaml.Node.read? schemaText = some node)
      (mapping : nodeEntries? node = some entries)
      (listed : required? entries "fields" = some fields)
      (declarations : nodeItems? fields = some (earlier ++ declaration :: later))
      (first : ∀ other ∈ earlier, ∀ field, fieldOf? other = some field → field.name ≠ name)
      (declared : nodeEntries? declaration = some parts)
      (named : (required? parts "name").bind Yaml.Node.text? = some name)
      (kind : (required? parts "type").bind kindOf? = some .enum)
      (cases : valuesOf parts "cases" = [.sequence [.scalar true case]])

theorem fieldOf?_of_parts {declaration : Yaml.Node} {parts : List (String × Yaml.Node)}
    {name case : String} (declared : nodeEntries? declaration = some parts)
    (named : (required? parts "name").bind Yaml.Node.text? = some name)
    (kind : (required? parts "type").bind kindOf? = some .enum)
    (cases : valuesOf parts "cases" = [.sequence [.scalar true case]]) :
    fieldOf? declaration = some ⟨name, .enum, [case]⟩ := by
  obtain ⟨nameNode, hasName, named⟩ := Option.bind_eq_some_iff.mp named
  obtain ⟨kindNode, hasKind, kind⟩ := Option.bind_eq_some_iff.mp kind
  have hasCases : casesOf? parts = some [case] := by
    rw [casesOf?, cases]
    rfl
  simp only [fieldOf?, declared, hasName, named, hasKind, kind, hasCases, Option.bind_eq_bind,
    Option.bind_some]
  rfl

theorem exists_of_mem_mapM {α β : Type} {read : α → Option β} {items : List α} {results : List β}
    (reads : items.mapM read = some results) {result : β} (member : result ∈ results) :
    ∃ item ∈ items, read item = some result := by
  induction items generalizing results with
  | nil =>
      obtain rfl := Option.some.inj reads
      cases member
  | cons item items ih =>
      rw [List.mapM_cons] at reads
      obtain ⟨first, readsFirst, reads⟩ := Option.bind_eq_some_iff.mp reads
      obtain ⟨others, readsOthers, same⟩ := Option.bind_eq_some_iff.mp reads
      obtain rfl := Option.some.inj same
      rcases List.mem_cons.mp member with rfl | inside
      · exact ⟨item, List.mem_cons_self, readsFirst⟩
      · obtain ⟨other, listed, readsOther⟩ := ih readsOthers inside
        exact ⟨other, List.mem_cons_of_mem _ listed, readsOther⟩

/-- A loaded schema has the field that its text declares, with the case as it is written. -/
theorem field?_of_declaresCase {tree : Files.Tree} {path schemaText name case : String}
    {schema : Schema} (read : tree.read path = .ok schemaText)
    (loaded : load tree path = .ok schema) (declares : DeclaresCase schemaText name case) :
    schema.field? name = some ⟨name, .enum, [case]⟩ := by
  obtain ⟨written, mapping, listed, declarations, first, declared, named, kind, cases⟩ := declares
  have declaredField := fieldOf?_of_parts declared named kind cases
  have isRead := (load_eq_ok_iff read).mp loaded
  rw [read?, written, Option.bind_eq_bind, Option.bind_some] at isRead
  simp only [ofNode?, mapping, listed, declarations, Option.bind_eq_bind, Option.bind_some]
    at isRead
  obtain ⟨modelNode, -, isNamed⟩ := Option.bind_eq_some_iff.mp isRead
  obtain ⟨model, -, hasFields⟩ := Option.bind_eq_some_iff.mp isNamed
  obtain ⟨fields, readsFields, same⟩ := Option.bind_eq_some_iff.mp hasFields
  obtain rfl := Option.some.inj same
  simp only [List.mapM_append, List.mapM_cons, declaredField, Option.bind_eq_bind,
    Option.bind_some] at readsFields
  obtain ⟨before, readsBefore, readsOthers⟩ := Option.bind_eq_some_iff.mp readsFields
  obtain ⟨others, readsAfter, sameFields⟩ := Option.bind_eq_some_iff.mp readsOthers
  obtain ⟨after, -, sameOthers⟩ := Option.bind_eq_some_iff.mp readsAfter
  obtain rfl := Option.some.inj sameOthers
  obtain rfl := Option.some.inj sameFields
  have passed : before.find? (fun field => field.name == name) = none := by
    rw [List.find?_eq_none]
    intro field member
    obtain ⟨other, inside, readsOther⟩ := exists_of_mem_mapM readsBefore member
    exact fun same => first other inside field readsOther (eq_of_beq same)
  rw [field?, List.find?_append, passed, Option.none_or]
  exact List.find?_cons_of_pos (beq_self_eq_true name)

end Schema

/-! ## The record -/

/-- An entry stands under one name at most, and converts in one way. -/
theorem Schema.Converts.unique {schema : Schema} {entry : Document × Document} {name other : String}
    {result result' : Except SchemaError (Option Value)} (first : schema.Converts entry name result)
    (second : schema.Converts entry other result') : other = name ∧ result' = result := by
  obtain ⟨key, field, declared, converts⟩ := first
  obtain ⟨key', field', declared', converts'⟩ := second
  obtain rfl := Option.some.inj (key'.symm.trans key)
  obtain rfl := Option.some.inj (declared'.symm.trans declared)
  exact ⟨rfl, converts'.symm.trans converts⟩

/-- The text of a record holds a plain scalar under a name, and nothing else in it stands in the way
of loading it: the other entries are read, none of them is under the name, and all convert. -/
inductive Schema.HoldsPlain (schema : Schema) (recordText name scalar : String) : Prop where
  | intro {before after : List (Yaml.Node × Yaml.Node)} {key : Yaml.Node}
      {earlier later : List (Document × Document)}
      (written : Yaml.Node.read? recordText =
        some (.mapping (before ++ (key, .scalar true scalar) :: after)))
      (named : Document.ofNode? key = some (.string name))
      (readEarlier : Document.ofEntries? before = some earlier)
      (readLater : Document.ofEntries? after = some later)
      (shallow : (Document.mapping (earlier ++ (.string name, .null) :: later)).depth ≤
        Document.maxDepth)
      (unique : (Document.mapping (earlier ++ (.string name, .null) :: later)).hasUniqueKeys = true)
      (others : ∀ entry ∈ earlier ++ later, entry.1.string? ≠ some name ∧
        ∀ other error, ¬ schema.Converts entry other (.error error))

namespace Document

variable {before after : List (Yaml.Node × Yaml.Node)} {key : Yaml.Node}
  {earlier later : List (Document × Document)} {recordText name scalar : String}

/-- A text is no document if a plain scalar in it has no type. -/
theorem read?_of_untyped
    (written : Yaml.Node.read? recordText =
      some (.mapping (before ++ (key, .scalar true scalar) :: after)))
    (untyped : ofPlain? scalar = none) : read? recordText = none := by
  have noEntries : ofEntries? (before ++ (key, .scalar true scalar) :: after) = none := by
    rw [ofEntries?_append, ofEntries?, ofNode?, untyped]
    cases ofEntries? before with
    | none => rfl
    | some entries => cases ofNode? key <;> rfl
  rw [read?, ofText?, written]
  simp only [Option.bind_eq_bind, Option.bind_some, ofNode?, noEntries, Option.map_none,
    Option.bind_none, Option.filter_none]

/-- A plain scalar that is not null is read in its place, and the document is the same otherwise. -/
theorem read?_of_scalar {document : Document}
    (written : Yaml.Node.read? recordText =
      some (.mapping (before ++ (key, .scalar true scalar) :: after)))
    (named : ofNode? key = some (.string name)) (readEarlier : ofEntries? before = some earlier)
    (readLater : ofEntries? after = some later)
    (shallow : (mapping (earlier ++ (.string name, .null) :: later)).depth ≤ maxDepth)
    (unique : (mapping (earlier ++ (.string name, .null) :: later)).hasUniqueKeys = true)
    (typed : ofPlain? scalar = some document) (isScalar : document.IsScalar) :
    read? recordText = some (.mapping (earlier ++ (.string name, document) :: later)) := by
  obtain ⟨-, flat, keyless⟩ := isScalar.leaf
  have entries : ofEntries? (before ++ (key, .scalar true scalar) :: after) =
      some (earlier ++ (.string name, document) :: later) := by
    rw [ofEntries?_append, ofEntries?, ofNode?, typed, named, readEarlier, readLater]
    rfl
  have depth : (mapping (earlier ++ (.string name, document) :: later)).depth ≤ maxDepth := by
    simp only [Document.depth, entriesDepth_append, entriesDepth, flat] at shallow ⊢
    exact shallow
  have keys : (mapping (earlier ++ (.string name, document) :: later)).hasUniqueKeys = true := by
    have same : document.hasUniqueKeys = Document.null.hasUniqueKeys := keyless
    rw [hasUniqueKeys, entriesHaveUniqueKeys_append_cons earlier later (.string name) same]
    exact unique
  rw [read?, ofText?, written]
  simp only [Option.bind_eq_bind, Option.bind_some, ofNode?, entries, Option.map_some, if_pos depth]
  exact Option.filter_some_pos keys

end Document

namespace Record

variable {schema : Schema} {name case : String} {document : Document}

/-- The entry of a case stores it if it is written back as the case is spelled, and is refused for
what it is written back as otherwise. -/
theorem converts_of_scalar (declared : schema.field? name = some ⟨name, .enum, [case]⟩)
    {written : String} (spelled : document.scalarText? = some written) :
    schema.Converts (.string name, document) name
      (if written = case then .ok (some (.enum case)) else .error (.unknownCase name written)) := by
  refine ⟨rfl, ⟨name, .enum, [case]⟩, declared, ?_⟩
  have notNull := (show document.IsScalar from ⟨written, spelled⟩).leaf.1
  rw [Field.convert, notNull, if_neg Bool.false_ne_true, Value.ofDocument?, spelled]
  by_cases same : written = case
  · subst same
    have cased : (⟨name, .enum, [written]⟩ : Field).caseOf written = .ok (.enum written) :=
      if_pos List.mem_cons_self
    rw [if_pos rfl]
    exact congrArg (Except.map some) cased
  · have cased : (⟨name, .enum, [case]⟩ : Field).caseOf written =
        .error (.unknownCase name written) :=
      if_neg fun member => same (List.mem_singleton.mp member)
    rw [if_neg same]
    exact congrArg (Except.map some) cased

variable {earlier later : List (Document × Document)} {entry : Document × Document} {label : String}

/-- Among entries that all convert, the one under a name decides what the record holds there. -/
theorem ofEntries_of_converts {value : Value}
    (converts : schema.Converts entry name (.ok (some value)))
    (others : ∀ other ∈ earlier ++ later, other.1.string? ≠ some name ∧
      ∀ key error, ¬ schema.Converts other key (.error error)) :
    ∃ record, ofEntries schema label (earlier ++ entry :: later) = .ok record ∧
      record.target name = .ok (some value) := by
  have split {other : Document × Document} (member : other ∈ earlier ++ entry :: later) :
      other = entry ∨ other ∈ earlier ++ later := by
    rcases List.mem_append.mp member with before | after
    · exact .inr (List.mem_append_left _ before)
    · exact (List.mem_cons.mp after).imp_right (List.mem_append_right _)
  cases loads : ofEntries schema label (earlier ++ entry :: later) with
  | error error =>
      obtain ⟨other, member, key, failure, refused⟩ :=
        exists_ofEntries_eq_error_iff.mp ⟨error, loads⟩
      rcases split member with rfl | inside
      · cases (converts.unique refused).2
      · exact absurd refused ((others other inside).2 key failure)
  | ok record =>
      refine ⟨record, rfl, ?_⟩
      obtain ⟨values, hold, rfl⟩ := map_eq_ok_iff.mp loads
      have only {held : Value} (stored : (name, held) ∈ values) : held = value := by
        obtain ⟨other, member, stores⟩ := (mem_entryValues_iff hold).mp stored
        rcases split member with rfl | inside
        · exact Option.some.inj (Except.ok.inj (converts.unique stores).2)
        · exact absurd stores.key (others other inside).1
      have stored : (name, value) ∈ values :=
        (mem_entryValues_iff hold).mpr ⟨entry, List.mem_append_right _ List.mem_cons_self, converts⟩
      obtain ⟨-, field, declared, -⟩ := converts
      refine target_eq_ok_iff.mpr ⟨⟨field, declared⟩, ?_⟩
      cases found : values.lookup name with
      | none => simpa using List.lookup_eq_none_iff.mp found _ stored
      | some held => rw [get?, found, only (mem_of_lookup found)]

/-- Among entries that all convert, one that does not is what the record is refused for. -/
theorem ofEntries_of_refused {error : SchemaError}
    (refused : schema.Converts entry name (.error error))
    (others : ∀ other ∈ earlier ++ later, other.1.string? ≠ some name ∧
      ∀ key error, ¬ schema.Converts other key (.error error)) :
    ofEntries schema label (earlier ++ entry :: later) = .error error :=
  ofEntries_eq_error_iff.mpr (entryValues_eq_error_iff.mpr ⟨earlier, entry, later, name, rfl,
    fun other member => (others other (List.mem_append_left _ member)).2, refused⟩)

variable {tree : Files.Tree} {path recordText : String}

theorem load_of_document {entries : List (Document × Document)}
    (recordRead : tree.read path = .ok recordText)
    (reads : Document.read? recordText = some (.mapping entries)) :
    load tree schema path label =
      (ofEntries schema label entries).map fun record => [record] := by
  rw [load, recordRead]
  dsimp only
  rw [reads]
  rfl

/-- A record that holds a case as a plain scalar with a text is loaded from the entry of the case
and entries that all convert. -/
theorem exists_entries_of_holdsPlain {written : String}
    (declared : schema.field? name = some ⟨name, .enum, [case]⟩)
    (recordRead : tree.read path = .ok recordText)
    (holds : schema.HoldsPlain recordText name case)
    (spelled : Document.respelled? case = some written) :
    ∃ earlier entry later,
      load tree schema path label =
        (ofEntries schema label (earlier ++ entry :: later)).map (fun record => [record]) ∧
      schema.Converts entry name
        (if written = case then .ok (some (.enum case)) else .error (.unknownCase name written)) ∧
      ∀ other ∈ earlier ++ later, other.1.string? ≠ some name ∧
        ∀ key error, ¬ schema.Converts other key (.error error) := by
  obtain ⟨text, named, readEarlier, readLater, shallow, unique, others⟩ := holds
  obtain ⟨document, typed, isWritten⟩ := Document.respelled?_eq_some_iff.mp spelled
  have reads := Document.read?_of_scalar text named readEarlier readLater shallow unique typed
    ⟨written, isWritten⟩
  exact ⟨_, _, _, load_of_document recordRead reads, converts_of_scalar declared isWritten, others⟩

/-- A case that a schema and a record spell alike, as the same plain scalar, is found exactly if the
scalar is written back as it is spelled: if it is a string or is spelled as its Boolean or its
number is written.  Spelled in another way it is refused for what it is written back as; and the
record is no document at all if the scalar is an integer that no number holds. -/
theorem load_plainCase {schemaPath schemaText : String}
    (schemaRead : tree.read schemaPath = .ok schemaText)
    (loaded : Schema.load tree schemaPath = .ok schema)
    (declares : Schema.DeclaresCase schemaText name case)
    (recordRead : tree.read path = .ok recordText)
    (holds : schema.HoldsPlain recordText name case) (notNull : case ∉ Yaml.nullTexts) :
    (Document.respelled? case = some case → ∃ record,
      load tree schema path label = .ok [record] ∧ record.target name = .ok (some (.enum case))) ∧
    (∀ written, Document.respelled? case = some written → written ≠ case →
      load tree schema path label = .error (.unknownCase name written)) ∧
    (Document.respelled? case = none →
      load tree schema path label = .error (.invalidYaml path)) := by
  have declared := Schema.field?_of_declaresCase schemaRead loaded declares
  refine ⟨?found, ?refused, ?untyped⟩
  case found =>
    intro spelled
    obtain ⟨earlier, entry, later, loads, converts, others⟩ :=
      exists_entries_of_holdsPlain declared recordRead holds spelled
    rw [if_pos rfl] at converts
    obtain ⟨record, built, held⟩ := ofEntries_of_converts converts others
    refine ⟨record, ?_, held⟩
    rw [loads, built]
    rfl
  case refused =>
    intro written spelled different
    obtain ⟨earlier, entry, later, loads, converts, others⟩ :=
      exists_entries_of_holdsPlain declared recordRead holds spelled
    rw [if_neg different] at converts
    rw [loads, ofEntries_of_refused converts others]
    rfl
  case untyped =>
    intro noText
    have untyped := (Document.respelled?_eq_none_iff notNull).mp noText
    obtain ⟨text⟩ := holds
    rw [load, recordRead]
    dsimp only
    rw [Document.read?_of_untyped text untyped]

/-- The tree of a schema of one status, with the text of its case and that of a record. -/
def statusTree (schemaText recordText : String) : Files.Tree :=
  ⟨.directory [("schema.yaml", .file schemaText), ("a.yaml", .file recordText)], []⟩

/-- The schema of posts whose status is always the same. -/
def statusSchema (case : String) : Schema := ⟨"Post", [⟨"status", .enum, [case]⟩]⟩

theorem ofNode?_status :
    Document.ofNode? (.scalar true "status") = some (.string "status") := by
  rw [Document.ofNode?]
  exact Document.ofPlain?_eq_string (by decide) (by decide) (by decide)

/-- The text of a schema of drafts. -/
def draftSchemaText : String :=
  "name: Post\nfields:\n- name: status\n  type: enum\n  cases: [draft]\n"

theorem load_plainCase_draft :
    (statusTree draftSchemaText "status: draft\n").read "schema.yaml" = .ok draftSchemaText ∧
      Schema.load (statusTree draftSchemaText "status: draft\n") "schema.yaml" =
        .ok (statusSchema "draft") ∧
      Schema.DeclaresCase draftSchemaText "status" "draft" ∧
      (statusTree draftSchemaText "status: draft\n").read "a.yaml" = .ok "status: draft\n" ∧
      (statusSchema "draft").HoldsPlain "status: draft\n" "status" "draft" ∧
      "draft" ∉ Yaml.nullTexts ∧
      ∃ record, load (statusTree draftSchemaText "status: draft\n") (statusSchema "draft") "a.yaml"
          "a.yaml" = .ok [record] ∧ record.target "status" = .ok (some (.enum "draft")) := by
  obtain ⟨schemaNode, recordNode⟩ : (Yaml.Node.read? draftSchemaText = some (.mapping
      [(.scalar true "name", .scalar true "Post"), (.scalar true "fields", .sequence [.mapping
        [(.scalar true "name", .scalar true "status"), (.scalar true "type", .scalar true "enum"),
          (.scalar true "cases", .sequence [.scalar true "draft"])]])])) ∧
      Yaml.Node.read? "status: draft\n" =
        some (.mapping ([] ++ (.scalar true "status", .scalar true "draft") :: [])) := by
    decide +kernel
  have loaded : Schema.load (statusTree draftSchemaText "status: draft\n") "schema.yaml" =
      .ok (statusSchema "draft") := by
    rw [Schema.load_eq_ok_iff rfl, Schema.read?, schemaNode]
    rfl
  have declares : Schema.DeclaresCase draftSchemaText "status" "draft" :=
    .intro schemaNode rfl rfl (show _ = some ([] ++ _ :: []) from rfl)
      (fun _ member => absurd member List.not_mem_nil) rfl rfl rfl rfl
  have holds : (statusSchema "draft").HoldsPlain "status: draft\n" "status" "draft" :=
    .intro recordNode ofNode?_status rfl rfl (by decide) (by decide)
      (fun _ member => absurd member List.not_mem_nil)
  have notNull : "draft" ∉ Yaml.nullTexts := by decide
  exact ⟨rfl, loaded, declares, rfl, holds, notNull,
    (load_plainCase rfl loaded declares rfl holds notNull).1 (by decide)⟩

/-- The text of a schema with a case that is spelled like a Boolean. -/
def trueSchemaText : String :=
  "name: Post\nfields: [\x7bname: status, type: enum, cases: [True]\x7d]\n"

/-- The schema lists the case as it is spelled, and the record that spells it so is refused. -/
theorem load_capitalTrue :
    "True" ∉ Yaml.nullTexts ∧
      Schema.load (statusTree trueSchemaText "status: True\n") "schema.yaml" =
        .ok (statusSchema "True") ∧
      load (statusTree trueSchemaText "status: True\n") (statusSchema "True") "a.yaml" "a.yaml" =
        .error (.unknownCase "status" "true") := by
  obtain ⟨holds, written⟩ : Schema.read? trueSchemaText = some (statusSchema "True") ∧
      Yaml.Node.read? "status: True\n" =
        some (.mapping ([] ++ (.scalar true "status", .scalar true "True") :: [])) := by
    decide +kernel
  refine ⟨by decide, (Schema.load_eq_ok_iff rfl).mpr holds, ?_⟩
  have typed : Document.ofPlain? "True" = some (.bool true) := by
    rw [Document.ofPlain?, if_neg (by decide), if_pos (by decide)]
  have reads : Document.read? "status: True\n" =
      some (.mapping [(.string "status", .bool true)]) :=
    Document.read?_of_scalar written ofNode?_status rfl rfl (by decide) (by decide) typed
      ⟨"true", rfl⟩
  rw [load_of_document rfl reads]
  rfl

end Record
end RecordQuery
