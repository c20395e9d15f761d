import SchemaGraph.Proofs.Identifiers
import SchemaGraph.Sql.Statement

/-!
# Quoting in statements

Whoever reads a script takes an identifier to end at the first closing bracket that is not doubled.
The writer puts names between brackets as they are and doubles nothing. `readTable_render` says when
the statement that creates a table reads as that table all the same: just when neither its name nor
the name of a column has a closing bracket in it.
-/

namespace SchemaGraph

/-! ### Reading tables -/

/-- What a statement that creates a table says by its identifiers: the name of the table, those of
its columns, and those in its constraint. -/
structure TableReading where
  table : String
  columns : List String
  constraint : List String
deriving DecidableEq, Repr

/-- Whether an identifier is the name of a constraint. -/
def Mention.startsConstraint (m : Mention) : Bool :=
  "CONSTRAINT ".toList.isSuffixOf m.lead

/-- What the identifiers of a text say about a table: the first one names it, and those before the
constraint name its columns. -/
def readTable (text : String) : Option TableReading :=
  match readMentions text.toList with
  | some (m :: ms) => some {
      table := .ofList m.name
      columns := (ms.takeWhile (!·.startsConstraint)).map fun m => .ofList m.name
      constraint := (ms.dropWhile (!·.startsConstraint)).map fun m => .ofList m.name }
  | _ => none

lemma Mention.map_ofList_name {ms : List Mention} {names : List String}
    (h : ms.map (·.name) = names.map String.toList) : ms.map (fun m => .ofList m.name) = names := by
  have hnames := congrArg (List.map String.ofList) h
  rw [List.map_map, List.map_map, String.ofList_comp_toList, List.map_id] at hnames
  exact hnames

/-! ### Written tables -/

lemma Block.foldr_write_map {α : Type} {f : α → Block} {g : α → List Char}
    (h : ∀ a text, (f a).write text = g a ++ text) (items : List α) (text : List Char) :
    (items.map f).foldr write text = items.flatMap g ++ text := by
  induction items with
  | nil => rfl
  | cons a items ih => rw [List.map_cons, List.foldr_cons, ih, h, List.flatMap_cons,
      List.append_assoc]

lemma toList_intercalate_cons (separator part : String) (parts : List String) :
    (separator.intercalate (part :: parts)).toList =
      part.toList ++ parts.flatMap fun part => separator.toList ++ part.toList := by
  induction parts generalizing part with
  | nil => simp
  | cons next parts ih =>
    rw [String.intercalate_cons_cons, String.toList_append, String.toList_append, ih,
      List.flatMap_cons, List.append_assoc, List.append_assoc]

lemma toList_bracketed (identifier : String) :
    (bracketed identifier).toList = '[' :: (identifier.toList ++ [']']) := by
  simp [bracketed]

/-- What stands between two lines of a statement that creates a table. -/
def lineSeparator : String := ",\n" ++ indent

namespace ColumnDefinition

/-- The text of a column definition behind the name. -/
def trail (c : ColumnDefinition) : List Char :=
  ([c.type] ++ c.mark.toList ++ (if c.notNull then ["NOT NULL"] else []) ++
    (if c.unique then ["UNIQUE"] else [])).flatMap fun part => " ".toList ++ part.toList

/-- A column definition as a block. -/
def block (front : String) (c : ColumnDefinition) : Block :=
  ⟨front.toList, c.name.toList, c.trail⟩

lemma write_block (front : String) (c : ColumnDefinition) (text : List Char) :
    (c.block front).write text = front.toList ++ c.render.toList ++ text := by
  have hparts : c.render = " ".intercalate (bracketed c.name :: ([c.type] ++ c.mark.toList ++
      (if c.notNull then ["NOT NULL"] else []) ++ (if c.unique then ["UNIQUE"] else []))) := rfl
  rw [hparts, toList_intercalate_cons, toList_bracketed, Block.write, block, trail]
  simp only [List.append_assoc, List.cons_append, List.nil_append]

end ColumnDefinition

/-- Column definitions as blocks, line by line. -/
def columnBlocks : List ColumnDefinition → List Block
  | [] => []
  | c :: cs => c.block indent :: cs.map (·.block lineSeparator)

/-- An identifier as a block. -/
def nameBlock (front name trail : String) : Block :=
  ⟨front.toList, name.toList, trail.toList⟩

lemma write_nameBlock (front name trail : String) (text : List Char) :
    (nameBlock front name trail).write text =
      (front ++ bracketed name ++ trail).toList ++ text := by
  simp only [nameBlock, Block.write, String.toList_append, toList_bracketed, List.append_assoc,
    List.cons_append, List.nil_append]

lemma plain_nameBlock {front name trail : String} (hfront : Unbracketed front.toList)
    (htrail : Unbracketed trail.toList) : (nameBlock front name trail).Plain :=
  ⟨hfront, htrail⟩

/-- The key constraint of a table as blocks. -/
def keyBlocks (table : String) : List Column → List Block
  | [] => []
  | key :: keys =>
    nameBlock (lineSeparator ++ "CONSTRAINT ") ("PK_" ++ table) " PRIMARY KEY (" ::
      nameBlock "" key.name "" :: keys.map fun key => nameBlock ", " key.name ""

/-- The end of the statement that creates a table with some keys. -/
def closing : List Column → String
  | [] => "\n);"
  | _ :: _ => ")\n);"

/-- The statement that creates a table as blocks. -/
def Table.blocks (t : Table) (d : Dialect) : List Block :=
  nameBlock "CREATE TABLE " t.name " (\n" ::
    (columnBlocks (t.columns.map (·.define d)) ++
      keyBlocks t.name (t.columns.filter (·.primaryKey)))

lemma render_createTable (name : String) (cs : List ColumnDefinition)
    (constraints : List TableConstraint) :
    (Statement.createTable name cs constraints).render =
      "CREATE TABLE " ++ bracketed name ++ " (\n" ++
        ",\n".intercalate ((cs.map (·.render) ++ constraints.map (·.render)).map (indent ++ ·)) ++
        "\n);" := rfl

/-- Of the lines of a statement the first one has no comma before it. -/
lemma toList_render_createTable (name : String) (c : ColumnDefinition)
    (cs : List ColumnDefinition) (constraints : List TableConstraint) :
    (Statement.createTable name (c :: cs) constraints).render.toList =
      ("CREATE TABLE " ++ bracketed name ++ " (\n").toList ++ (indent.toList ++ c.render.toList ++
        (cs.flatMap (fun c => lineSeparator.toList ++ c.render.toList) ++
          (constraints.flatMap (fun k => lineSeparator.toList ++ k.render.toList) ++
            "\n);".toList))) := by
  have hlines : ((c :: cs).map (·.render) ++ constraints.map (·.render)).map (indent ++ ·) =
      (indent ++ c.render) ::
        (cs.map (indent ++ ·.render) ++ constraints.map (indent ++ ·.render)) := by
    simp [Function.comp_def]
  rw [render_createTable, hlines, String.toList_append, String.toList_append,
    toList_intercalate_cons, List.flatMap_append, List.flatMap_map, List.flatMap_map]
  simp only [lineSeparator, String.toList_append, List.append_assoc]

lemma foldr_write_keyBlocks (t : Table) :
    (keyBlocks t.name (t.columns.filter (·.primaryKey))).foldr Block.write
        (closing (t.columns.filter (·.primaryKey))).toList =
      t.keyConstraint?.toList.flatMap (fun k => lineSeparator.toList ++ k.render.toList) ++
        "\n);".toList := by
  rw [Table.keyConstraint?]
  cases t.columns.filter (·.primaryKey) with
  | nil => rfl
  | cons key keys =>
    have hkeys : ∀ (key : Column) (text : List Char), (nameBlock ", " key.name "").write text =
        (", " ++ bracketed key.name).toList ++ text := by
      intro key text
      rw [write_nameBlock, String.append_empty]
    have hnames : (keys.map (·.name)).map bracketed = keys.map (bracketed ·.name) :=
      List.map_map
    have hrender : (TableConstraint.primaryKey ("PK_" ++ t.name)
        ((key :: keys).map (·.name))).render =
          "CONSTRAINT " ++ bracketed ("PK_" ++ t.name) ++ " PRIMARY KEY (" ++
            ", ".intercalate (bracketed key.name :: keys.map (bracketed ·.name)) ++ ")" := by
      rw [← hnames]
      rfl
    rw [keyBlocks, List.foldr_cons, List.foldr_cons, Block.foldr_write_map hkeys, write_nameBlock,
      write_nameBlock, Option.toList_some, List.flatMap_singleton, hrender]
    simp only [String.toList_append, toList_intercalate_cons, List.flatMap_map, List.append_assoc,
      closing]
    rfl

lemma toList_render_create (t : Table) (d : Dialect) :
    (t.create d).render.toList =
      (t.blocks d).foldr Block.write (closing (t.columns.filter (·.primaryKey))).toList := by
  rw [Table.create, Table.blocks, List.foldr_cons, List.foldr_append, write_nameBlock,
    foldr_write_keyBlocks]
  cases hcolumns : t.columns with
  | nil =>
    have hconstraint : t.keyConstraint? = none := by
      rw [Table.keyConstraint?, hcolumns]
      rfl
    rw [hconstraint, render_createTable]
    simp only [String.toList_append, List.append_assoc]
    rfl
  | cons c cs =>
    rw [List.map_cons, toList_render_createTable, columnBlocks, List.foldr_cons,
      Block.foldr_write_map (ColumnDefinition.write_block lineSeparator),
      ColumnDefinition.write_block]

/-! ### Dialects -/

namespace Dialect

/-- No dialect has brackets in its types or marks. -/
lemma unbracketed_mapType (n : DialectName) (type : String) :
    Unbracketed ((named n).mapType type).toList := by
  rw [mapType]
  cases DataType.ofName? type with
  | none => cases n <;> decide
  | some dataType => cases n <;> cases dataType <;> decide

lemma unbracketed_columnType (n : DialectName) (type : String) (counting : Bool) :
    Unbracketed ((named n).columnType type counting).toList := by
  rw [columnType]
  split
  · cases n with
    | postgresql =>
      show Unbracketed "SERIAL".toList
      decide
    | _ => exact unbracketed_mapType _ type
  · exact unbracketed_mapType n type

lemma unbracketed_countingMark (n : DialectName) {mark : String}
    (h : mark ∈ (named n).countingMark) : Unbracketed mark.toList := by
  cases n with
  | access =>
    cases h
    decide
  | mysql =>
    cases h
    decide
  | _ => cases h

end Dialect

lemma unbracketed_flatMap {parts : List String} (h : ∀ part ∈ parts, Unbracketed part.toList) :
    Unbracketed (parts.flatMap fun part => " ".toList ++ part.toList) := by
  induction parts with
  | nil => decide
  | cons part parts ih =>
    obtain ⟨hpart, hparts⟩ := List.forall_mem_cons.mp h
    rw [List.flatMap_cons, unbracketed_append, unbracketed_append]
    exact ⟨⟨by decide, hpart⟩, ih hparts⟩

lemma Column.unbracketed_trail (c : Column) (n : DialectName) :
    Unbracketed (c.define (.named n)).trail := by
  refine unbracketed_flatMap fun part hpart => ?_
  simp only [List.mem_append, List.mem_singleton, Option.mem_toList] at hpart
  rcases hpart with ((rfl | hmark) | hnull) | hunique
  · exact Dialect.unbracketed_columnType n c.type c.autoIncrement
  · rw [define] at hmark
    split at hmark
    · exact Dialect.unbracketed_countingMark n hmark
    · cases hmark
  · split at hnull
    · rw [List.mem_singleton.mp hnull]
      decide
    · cases hnull
  · split at hunique
    · rw [List.mem_singleton.mp hunique]
      decide
    · cases hunique

namespace Table

variable {t : Table} {n : DialectName}

lemma plain_columnBlocks {b : Block} (h : b ∈ columnBlocks (t.columns.map (·.define (.named n)))) :
    b.Plain ∧ indent.toList <:+ b.front := by
  cases hcolumns : t.columns with
  | nil =>
    rw [hcolumns] at h
    cases h
  | cons c cs =>
    rw [hcolumns, List.map_cons, columnBlocks, List.mem_cons, List.map_map, List.mem_map] at h
    rcases h with rfl | ⟨c', -, rfl⟩
    · have hindent : Unbracketed indent.toList := by decide
      exact ⟨⟨hindent, c.unbracketed_trail n⟩, List.suffix_refl _⟩
    · have hbreak : Unbracketed lineSeparator.toList := by decide
      have hindent : indent.toList <:+ lineSeparator.toList := by decide
      exact ⟨⟨hbreak, c'.unbracketed_trail n⟩, hindent⟩

lemma plain_keyBlocks {table : String} {keys : List Column} {b : Block}
    (h : b ∈ keyBlocks table keys) : b.Plain := by
  cases keys with
  | nil => cases h
  | cons key keys =>
    rw [keyBlocks, List.mem_cons, List.mem_cons, List.mem_map] at h
    rcases h with rfl | rfl | ⟨key, -, rfl⟩
    · exact plain_nameBlock (by decide) (by decide)
    · exact plain_nameBlock (by decide) (by decide)
    · exact plain_nameBlock (by decide) (by decide)

lemma plain_blocks {b : Block} (h : b ∈ t.blocks (.named n)) : b.Plain := by
  rw [blocks, List.mem_cons, List.mem_append] at h
  rcases h with rfl | h | h
  · exact plain_nameBlock (by decide) (by decide)
  · exact (plain_columnBlocks h).1
  · exact plain_keyBlocks h

end Table

/-! ### What is read of a written table -/

/-- The identifiers in a constraint. -/
def TableConstraint.identifiers : TableConstraint → List String
  | .primaryKey name columns => name :: columns
  | .foreignKey name column table key => [name, column, table, key]

/-- An identifier right behind the indentation of its line is not the name of a constraint. -/
lemma startsConstraint_of_indent {lead name : List Char} (h : indent.toList <:+ lead) :
    (Mention.mk lead name).startsConstraint = false := by
  obtain ⟨text, rfl⟩ := h
  rw [Mention.startsConstraint, List.isSuffixOf, List.reverse_append]
  rfl

lemma startsConstraint_of_suffix {lead name : List Char} (h : "CONSTRAINT ".toList <:+ lead) :
    (Mention.mk lead name).startsConstraint = true :=
  List.isSuffixOf_iff_suffix.mpr h

namespace Block

/-- The blocks of columns end where those of a constraint start. -/
lemma map_name_takeWhile_mentions {bs bs' : List Block} (pending : List Char)
    (h : ∀ b ∈ bs, indent.toList <:+ b.front)
    (h' : ∀ b ∈ bs'.head?, "CONSTRAINT ".toList <:+ b.front) :
    ((mentions pending (bs ++ bs')).takeWhile (!·.startsConstraint)).map (·.name) =
        bs.map (·.name) ∧
      ((mentions pending (bs ++ bs')).dropWhile (!·.startsConstraint)).map (·.name) =
        bs'.map (·.name) := by
  induction bs generalizing pending with
  | nil =>
    cases bs' with
    | nil => exact ⟨rfl, rfl⟩
    | cons b bs' =>
      have hstarts : (Mention.mk (pending ++ b.front) b.name).startsConstraint = true :=
        startsConstraint_of_suffix ((h' b rfl).trans (List.suffix_append _ _))
      rw [List.nil_append, mentions, List.takeWhile_cons, List.dropWhile_cons, hstarts]
      exact ⟨rfl, congrArg _ (map_name_mentions b.trail bs')⟩
  | cons b bs ih =>
    obtain ⟨hb, hbs⟩ := List.forall_mem_cons.mp h
    have hstarts : (Mention.mk (pending ++ b.front) b.name).startsConstraint = false :=
      startsConstraint_of_indent (hb.trans (List.suffix_append _ _))
    obtain ⟨htake, hdrop⟩ := ih b.trail hbs
    rw [List.cons_append, mentions, List.takeWhile_cons, List.dropWhile_cons, hstarts]
    exact ⟨congrArg _ htake, hdrop⟩

end Block

namespace Table

variable {t : Table} {n : DialectName}

/-- The names that the blocks of a table hold. -/
lemma map_name_columnBlocks (t : Table) (d : Dialect) :
    (columnBlocks (t.columns.map (·.define d))).map (·.name) =
      (t.columns.map (·.name)).map String.toList := by
  cases t.columns with
  | nil => rfl
  | cons c cs =>
    rw [List.map_cons, columnBlocks, List.map_cons, List.map_map, List.map_map, List.map_map]
    rfl

lemma map_name_keyBlocks (t : Table) :
    (keyBlocks t.name (t.columns.filter (·.primaryKey))).map (·.name) =
      (t.keyConstraint?.toList.flatMap (·.identifiers)).map String.toList := by
  rw [keyConstraint?]
  cases t.columns.filter (·.primaryKey) with
  | nil => rfl
  | cons key keys =>
    rw [keyBlocks, List.map_cons, List.map_cons, List.map_map, Option.toList_some,
      List.flatMap_singleton, TableConstraint.identifiers, List.map_cons, List.map_cons,
      List.map_cons, List.map_map]
    rfl

/-- What the statement that creates a table is meant to say. -/
def reading (t : Table) : TableReading where
  table := t.name
  columns := t.columns.map (·.name)
  constraint := t.keyConstraint?.toList.flatMap (·.identifiers)

lemma map_name_blocks (t : Table) (d : Dialect) :
    (t.blocks d).map (·.name) =
      (t.name :: (t.reading.columns ++ t.reading.constraint)).map String.toList := by
  rw [blocks, List.map_cons, List.map_append, map_name_columnBlocks, map_name_keyBlocks,
    List.map_cons, List.map_append]
  rfl

/-- The name of a constraint has the brackets of the name of its table. -/
lemma forall_blocks_iff (t : Table) (d : Dialect) :
    (∀ b ∈ t.blocks d, ']' ∉ b.name) ↔
      ']' ∉ t.name.toList ∧ ∀ c ∈ t.columns, ']' ∉ c.name.toList := by
  have hnames : (∀ b ∈ t.blocks d, ']' ∉ b.name) ↔
      ∀ name ∈ t.name :: (t.reading.columns ++ t.reading.constraint), ']' ∉ name.toList := by
    rw [← List.forall_mem_map (f := fun b : Block => b.name) (P := fun name => ']' ∉ name),
      map_name_blocks, List.forall_mem_map]
  have hcolumns : (∀ name ∈ t.reading.columns, ']' ∉ name.toList) ↔
      ∀ c ∈ t.columns, ']' ∉ c.name.toList :=
    List.forall_mem_map
  rw [hnames, List.forall_mem_cons, List.forall_mem_append, hcolumns]
  refine and_congr_right fun htable => and_iff_left_of_imp fun hall name hname => ?_
  rw [reading, keyConstraint?] at hname
  split at hname
  · cases hname
  · rw [Option.toList_some, List.flatMap_singleton, TableConstraint.identifiers, List.mem_cons,
      List.mem_map] at hname
    rcases hname with rfl | ⟨key, hkey, rfl⟩
    · simpa using htable
    · exact hall key (List.mem_filter.mp hkey).1

lemma readMentions_create (t : Table) (n : DialectName) {ms : List Mention} :
    readMentions (t.create (.named n)).render.toList = some ms ∧
        ms.map (·.name) = (t.blocks (.named n)).map (·.name) ↔
      ms = Block.mentions [] (t.blocks (.named n)) ∧
        ∀ b ∈ t.blocks (.named n), ']' ∉ b.name := by
  have hclosing : Unbracketed (closing (t.columns.filter (·.primaryKey))).toList := by
    cases t.columns.filter (·.primaryKey) with
    | nil => decide
    | cons =>
      show Unbracketed ")\n);".toList
      decide
  rw [toList_render_create, ← List.nil_append (List.foldr _ _ _)]
  exact Block.readMentions_foldr_write (by decide) (fun b hb => plain_blocks hb) hclosing

lemma keyBlocks_head? (table : String) (keys : List Column) :
    ∀ b ∈ (keyBlocks table keys).head?, "CONSTRAINT ".toList <:+ b.front := by
  intro b hb
  cases keys with
  | nil => cases hb
  | cons key keys =>
    cases hb
    have hword : "CONSTRAINT ".toList <:+ (lineSeparator ++ "CONSTRAINT ").toList := by decide
    exact hword

/-- What can be read back is read as it is meant. -/
lemma readTable_create (h : ∀ b ∈ t.blocks (.named n), ']' ∉ b.name) :
    readTable (t.create (.named n)).render = some t.reading := by
  obtain ⟨hread, -⟩ := (readMentions_create t n).mpr ⟨rfl, h⟩
  obtain ⟨htake, hdrop⟩ := Block.map_name_takeWhile_mentions
    (nameBlock "CREATE TABLE " t.name " (\n").trail
    (fun b hb => (plain_columnBlocks (t := t) (n := n) hb).2)
    (keyBlocks_head? t.name (t.columns.filter (·.primaryKey)))
  have htable : String.ofList t.name.toList = t.name := String.ofList_toList
  rw [readTable, hread]
  show some (TableReading.mk (String.ofList t.name.toList) _ _) = _
  rw [Mention.map_ofList_name (htake.trans (map_name_columnBlocks t (.named n))),
    Mention.map_ofList_name (hdrop.trans (map_name_keyBlocks t)), htable]
  rfl

end Table

/-- The identifiers that a reading is made of. -/
lemma exists_readMentions {text : String} {reading : TableReading}
    (h : readTable text = some reading) :
    ∃ ms, readMentions text.toList = some ms ∧ ms.map (·.name) =
      (reading.table :: (reading.columns ++ reading.constraint)).map String.toList := by
  rw [readTable] at h
  split at h
  · next m ms hread =>
    cases h
    refine ⟨m :: ms, hread, ?_⟩
    simp only [List.map_cons, ← List.map_append, List.takeWhile_append_dropWhile, List.map_map,
      String.toList_ofList, Function.comp_def]
  · cases h

/-- In every dialect the statement that creates a table reads as the table, with the names of its
columns in their order and no others before its constraint, just when there is no closing bracket in
its name or in that of a column. -/
theorem readTable_render (t : Table) (n : DialectName) :
    readTable (t.create (.named n)).render =
        some ⟨t.name, t.columns.map (·.name), t.keyConstraint?.toList.flatMap (·.identifiers)⟩ ↔
      ']' ∉ t.name.toList ∧ ∀ c ∈ t.columns, ']' ∉ c.name.toList := by
  show readTable _ = some t.reading ↔ _
  rw [← t.forall_blocks_iff (.named n)]
  constructor
  · intro h
    obtain ⟨ms, hread, hnames⟩ := exists_readMentions h
    have hblocks := hnames.trans (t.map_name_blocks (.named n)).symm
    exact ((t.readMentions_create n).mp ⟨hread, hblocks⟩).2
  · exact Table.readTable_create

/-- A table with one column, the name of which closes its own bracket. -/
private def splitColumn : Table :=
  ⟨"t", "T", [⟨"c", "a] LONG,\n    [b", "TEXT", false, true, false, false, false, none, none⟩],
    .zero, .zero⟩

/-- A table with the two columns that the name seems to define. -/
private def twoColumns : Table :=
  ⟨"t", "T", [⟨"c", "a", "LONG", false, true, false, false, false, none, none⟩,
    ⟨"d", "b", "TEXT", false, true, false, false, false, none, none⟩], .zero, .zero⟩

/-- The statements of both tables are the same, so nobody can tell the one column from the two. -/
theorem readTable_render_splitColumn :
    (splitColumn.create .access).render = (twoColumns.create .access).render ∧
      readTable (splitColumn.create .access).render = some ⟨"T", ["a", "b"], []⟩ ∧
      readTable (splitColumn.create .access).render ≠
        some ⟨"T", splitColumn.columns.map (·.name), []⟩ := by
  have hclean : ∀ b ∈ twoColumns.blocks (.named .access), ']' ∉ b.name :=
    (twoColumns.forall_blocks_iff _).mpr (by decide)
  have hread : readTable (twoColumns.create (.named .access)).render = some twoColumns.reading :=
    Table.readTable_create hclean
  have hsame : (splitColumn.create .access).render = (twoColumns.create .access).render := by
    decide +kernel
  have hsplit : readTable (splitColumn.create .access).render = some ⟨"T", ["a", "b"], []⟩ :=
    (congrArg readTable hsame).trans hread
  have hne : (⟨"T", ["a", "b"], []⟩ : TableReading) ≠
      ⟨"T", splitColumn.columns.map (·.name), []⟩ := by
    decide
  refine ⟨hsame, hsplit, fun h => hne ?_⟩
  rw [hsplit] at h
  exact Option.some.inj h

end SchemaGraph
