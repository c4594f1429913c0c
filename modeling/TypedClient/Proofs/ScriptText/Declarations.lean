import TypedClient.Proofs.ScriptText.Legible
import TypedClient.Script.File

/-!
Contract: reading files.

Owns:
- `readFile`, the imports and the functions of a file, the functions with the trees of their
  parameters and of their statements; `readPair`, a name with the trees of its type or value;
- that a file is read as its imports and its functions in their order, whatever stands in the
  comments in front of them.

Does not own: which types and statements the trees are. Imports take names only, and what a file
exports are functions.
-/

namespace TypedClient.ScriptText

open Script (File Function Import)

/-! ## Reading -/

/-- A function that a file exports. -/
structure FunctionTrees where
  name : String
  isAsync : Bool
  parameters : List Row
  body : List Row

/-- What stands at the top level of a file. -/
inductive Declaration where
  | takes (taken : Import)
  | gives (function : FunctionTrees)

def readName : Row → Option String
  | [.token (.word name)] => if isVariable name.toList then some name else none
  | _ => none

/-- What stands behind the keywords of an import. -/
def readImport (typesOnly : Bool) : Row → Option Import
  | [.group .brace items, .token (.word "from"), .token (.quoted source)] =>
      (items.mapM readName).map (⟨none, ·, source, typesOnly⟩)
  | _ => none

/-- A function behind its name. -/
def readFunction (name : String) (isAsync : Bool) : Row → Option FunctionTrees
  | [.group .round parameters, .token .arrow, .group .block body] =>
      some ⟨name, isAsync, parameters, body⟩
  | [.group .round parameters, .token .arrow, .group .brace []] =>
      some ⟨name, isAsync, parameters, []⟩
  | _ => none

def readDeclaration : Row → Option Declaration
  | .token (.word "import") :: .token (.word "type") :: rest => (readImport true rest).map .takes
  | .token (.word "import") :: rest => (readImport false rest).map .takes
  | .token (.word "export") :: .token (.word "const") :: .token (.word name) :: .token .equals ::
      .token (.word "async") :: rest =>
      if isVariable name.toList then (readFunction name true rest).map .gives else none
  | .token (.word "export") :: .token (.word "const") :: .token (.word name) :: .token .equals ::
      rest =>
      if isVariable name.toList then (readFunction name false rest).map .gives else none
  | _ => none

/-- The rows between the semicolons of a file, which is scanned like the inside of a block. -/
def readRows (text : String) : Option (List Row) :=
  match scan ⟨.between, [⟨.block, [], []⟩], []⟩ (text.toList ++ ['\x7d']) with
  | some [.group .block rows] => some rows
  | _ => none

def readFile (text : String) : Option (List Declaration) :=
  (readRows text).bind (·.mapM readDeclaration)

/-- A name, and what stands behind its colon. -/
def readPair : Row → Option (String × Row)
  | .token (.word name) :: .token .colon :: behind => some (name, behind)
  | _ => none

/-! ## Rows one after the other -/

/-- Between statements, a text is scanned as some more of them. -/
def WritesRows (text : String) (rows : List Row) : Prop :=
  ∀ (opened : List Opened) (before : Row) (earlier : List Row) (rest : List Char),
    scan ⟨.between, ⟨.block, earlier, before⟩ :: opened, []⟩ (text.toList ++ rest) =
      scan ⟨.between, ⟨.block, earlier ++ rows, before⟩ :: opened, []⟩ rest

section Rows

variable {first second text : String} {rows more : List Row} {row : Row}

theorem WritesRows.append (ofFirst : WritesRows first rows) (ofSecond : WritesRows second more) :
    WritesRows (first ++ second) (rows ++ more) := by
  intro opened before earlier rest
  rw [String.toList_append, List.append_assoc, ofFirst, ofSecond, List.append_assoc]

/-- Blanks and comments are no statements. -/
theorem Exact.writesRows (exact : Exact text []) : WritesRows text [] := by
  intro opened before earlier rest
  rw [List.append_nil]
  exact exact _ [] rest

theorem WritesRow.statement (written : WritesRow text row) : WritesRows (text ++ ";\n") [row] :=
  fun opened before earlier rest => (ends_statement earlier).scan_row written opened before rest

theorem WritesRows.join {α : Type} {items : List α} {textOf : α → String} {rowsOf : α → List Row}
    (ofItems : ∀ item ∈ items, WritesRows (textOf item) (rowsOf item)) :
    WritesRows (String.join (items.map textOf)) (items.flatMap rowsOf) := by
  induction items with
  | nil => exact Exact.empty.writesRows
  | cons item items inductionHypothesis =>
      rw [List.forall_mem_cons] at ofItems
      rw [List.map_cons, String.join_cons, List.flatMap_cons]
      exact ofItems.1.append (inductionHypothesis ofItems.2)

theorem WritesRows.intercalate {α : Type} {items : List α} {textOf : α → String}
    {rowsOf : α → List Row} {separator : String} (isBlank : Exact separator [])
    (ofItems : ∀ item ∈ items, WritesRows (textOf item) (rowsOf item)) :
    WritesRows (separator.intercalate (items.map textOf)) (items.flatMap rowsOf) := by
  induction items with
  | nil => exact Exact.empty.writesRows
  | cons item items inductionHypothesis =>
      rw [List.forall_mem_cons] at ofItems
      have behind := inductionHypothesis ofItems.2
      cases items with
      | nil =>
          rw [List.map_singleton, String.intercalate_singleton, List.flatMap_singleton]
          exact ofItems.1
      | cons next items =>
          rw [List.map_cons, List.map_cons, String.intercalate_cons_cons, List.flatMap_cons]
          rw [String.append_assoc]
          exact ofItems.1.append (isBlank.writesRows.append behind)

theorem WritesRows.readRows (written : WritesRows text rows) : readRows text = some rows := by
  have closed : scan ⟨.between, [⟨.block, rows, []⟩], []⟩ ['\x7d'] = some [.group .block rows] :=
    congrArg (fun rows => some [Tree.group .block rows]) (List.append_nil rows)
  rw [ScriptText.readRows, written [] [] [] ['\x7d'], List.nil_append, closed]

end Rows

/-! ## Imports -/

structure IsWrittenImport (taken : Import) : Prop where
  noDefault : taken.default = none
  nonempty : taken.items ≠ []
  items : ∀ item ∈ taken.items, isVariable item.toList = true
  /-- Nothing in the source has to be escaped. -/
  plain : Script.literal taken.source = "\"" ++ taken.source ++ "\""
  onOneLine : Script.OnOneLine taken.source.toList

/-- An import that is only there on a condition. -/
theorem isWrittenImport_unless {condition : Bool} {taken : Import}
    (written : condition = false → IsWrittenImport taken) :
    ∀ other ∈ (if condition then [] else [taken]), IsWrittenImport other := by
  cases condition with
  | true => exact List.forall_mem_nil _
  | false => exact List.forall_mem_singleton.2 (written rfl)

def rowOfImport (taken : Import) : Row :=
  .token (.word "import") :: ((if taken.typesOnly then [.token (.word "type")] else []) ++
    [.group .brace (taken.items.map rowOfType), .token (.word "from"),
      .token (.quoted taken.source)])

theorem readDeclaration_rowOfImport {taken : Import} (written : IsWrittenImport taken) :
    readDeclaration (rowOfImport taken) = some (.takes taken) := by
  obtain ⟨default, items, source, typesOnly⟩ := taken
  obtain rfl : default = none := written.noDefault
  have ofItems : (items.map rowOfType).mapM readName = some items :=
    mapM_map_of_inverse fun item member => if_pos (written.items item member)
  cases typesOnly <;> simp [rowOfImport, readDeclaration, readImport, ofItems]

theorem writes_opening (typesOnly : Bool) :
    Writes ("import" ++ (if typesOnly then " type" else "") ++ "")
      (.token (.word "import") :: if typesOnly then [.token (.word "type")] else []) := by
  have keyword : Writes "import" [.token (.word "import")] := .word (by decide)
  have typed : Writes " type" [.token (.word "type")] :=
    Exact.space.append_writes (.word (by decide : isWord "type".toList = true))
  rw [String.append_empty]
  cases typesOnly with
  | false => exact keyword
  | true => exact keyword.append (.of_head rfl) typed

theorem exact_item {item : String} (named : isVariable item.toList = true) :
    Exact (" \x7b " ++ item ++ " \x7d") [.group .brace [rowOfType item]] := by
  have braces := Exact.members (.cons (.word (isWord_of_isVariable named)) .nil)
  rw [String.intercalate_singleton] at braces
  have opening : " \x7b " = " " ++ "\x7b " := rfl
  have whole := Exact.space.append braces
  rw [← String.append_assoc, ← String.append_assoc] at whole
  rw [opening]
  exact whole

theorem exact_itemLines {items : List String}
    (named : ∀ item ∈ items, isVariable item.toList = true) :
    Exact (" \x7b\n" ++ String.join (items.map (fun item =>
      Script.indentation 1 ++ item ++ ",\n")) ++ "\x7d") [.group .brace (items.map rowOfType)] := by
  have words : List.Forall₂ WritesRow (items.map (Script.indentation 1 ++ ·))
      (items.map rowOfType) := by
    rw [List.forall₂_map_left_iff, List.forall₂_map_right_iff, List.forall₂_same]
    exact fun item member =>
      (WritesRow.word (isWord_of_isVariable (named item member))).indented 1
  have braces := Exact.memberLines words 0
  have closing : Script.indentation 0 ++ "\x7d" = "\x7d" := by decide
  have opening : " \x7b\n" = " " ++ "\x7b\n" := rfl
  have whole := Exact.space.append braces
  rw [List.map_map, closing, ← String.append_assoc, ← String.append_assoc] at whole
  rw [opening]
  exact whole

/-- An import behind its keywords: names in braces, and a source. -/
theorem writesRow_from {braces : String} {rows : List Row} (typesOnly : Bool) {source : String}
    (plain : Script.literal source = "\"" ++ source ++ "\"")
    (onOneLine : Script.OnOneLine source.toList) (opens : Opens braces)
    (exact : Exact braces [.group .brace rows]) :
    WritesRows ("import" ++ (if typesOnly then " type" else "") ++ "" ++ braces ++
        (" from \"" ++ source ++ "\";") ++ "\n")
      [.token (.word "import") :: ((if typesOnly then [.token (.word "type")] else []) ++
        [.group .brace rows, .token (.word "from"), .token (.quoted source)])] := by
  have ofFrom : Exact " from " [.token (.word "from")] := fun _ _ _ => rfl
  have ofSource := Exact.literal onOneLine
  have whole := (((writes_opening typesOnly).append_exact opens exact).append
    (ofFrom.append ofSource)).writesRow (by simp)
  have statement := whole.statement
  have opening : " from \"" = " from " ++ "\"" := rfl
  have closing : "\"" ++ ";\n" = "\";" ++ "\n" := rfl
  rw [plain, List.cons_append, List.cons_append, List.append_assoc] at statement
  simp only [opening, String.append_assoc, closing] at statement ⊢
  exact statement

theorem writesRows_import {taken : Import} (written : IsWrittenImport taken) :
    WritesRows (taken.render ++ "\n") [rowOfImport taken] := by
  obtain ⟨default, items, source, typesOnly⟩ := taken
  obtain rfl : default = none := written.noDefault
  have named : ∀ item ∈ items, isVariable item.toList = true := written.items
  rcases items with _ | ⟨item, _ | ⟨next, items⟩⟩
  · exact absurd rfl written.nonempty
  · have braces := exact_item (named item List.mem_cons_self)
    have opens : Opens (" \x7b " ++ item ++ " \x7d") := .append_right (.append rfl _) _
    have whole := writesRow_from typesOnly written.plain written.onOneLine opens braces
    simp only [Import.render, Import.opening, ← String.append_assoc] at whole ⊢
    exact whole
  · have braces := exact_itemLines named
    have opens : Opens (" \x7b\n" ++ String.join ((item :: next :: items).map (fun item =>
        Script.indentation 1 ++ item ++ ",\n")) ++ "\x7d") := .append_right (.append rfl _) _
    have whole := writesRow_from typesOnly written.plain written.onOneLine opens braces
    simp only [Import.render, Import.opening, ← String.append_assoc] at whole ⊢
    exact whole

/-! ## Functions -/

theorem readPair_typed {name : String} (isWord : isWord name.toList = true) (type : String) :
    readPair (rowOfBinder (.typed name type)) = some (name, treesOfText type) := by
  show readPair (treesOfText name ++ .token .colon :: treesOfText type) = _
  rw [treesOfText_word isWord]
  rfl

structure IsWrittenFunction (function : Function) : Prop where
  name : isVariable function.name.toList = true
  parameters : ∀ parameter ∈ function.parameters, IsWrittenBinder parameter
  statements : ∀ statement ∈ function.body, IsWrittenStatement statement
  inBody : EverywhereInStatements IsWritten function.body

def treesOfFunction (function : Function) : FunctionTrees where
  name := function.name
  isAsync := function.isAsync
  parameters := function.parameters.map rowOfBinder
  body := rowsOfStatements function.body

def rowOfFunction (function : Function) : Row :=
  [.token (.word "export"), .token (.word "const"), .token (.word function.name), .token .equals] ++
    ((if function.isAsync then [.token (.word "async")] else []) ++
      (treesOfParameters function.parameters ++ [bodyTree (rowsOfStatements function.body)]))

theorem readDeclaration_rowOfFunction {function : Function}
    (named : isVariable function.name.toList = true) :
    readDeclaration (rowOfFunction function) = some (.gives (treesOfFunction function)) := by
  obtain ⟨name, comment, isAsync, parameters, body⟩ := function
  have isNamed : isVariable name.toList = true := named
  cases isAsync <;> cases body <;>
    simp [rowOfFunction, readDeclaration, treesOfParameters, readFunction, bodyTree, isNamed,
      treesOfFunction, rowsOfStatements]

theorem writesRows_function {function : Function} (written : IsWrittenFunction function) :
    WritesRows function.render [rowOfFunction function] := by
  obtain ⟨name, comment, isAsync, parameters, body⟩ := function
  obtain ⟨texts, rendered, rows⟩ :=
    writes_statements body written.statements written.inBody 1
  have isExport : Exact "export " [.token (.word "export")] := fun _ _ _ => rfl
  have isConst : Exact "const " [.token (.word "const")] := fun _ _ _ => rfl
  have equals : Exact " = " [.token .equals] := fun _ _ _ => rfl
  have async : Exact (if isAsync then "async " else "")
      (if isAsync then [.token (.word "async")] else []) := by
    cases isAsync with
    | false => exact .empty
    | true => exact (fun _ _ _ => rfl : Exact "async " [.token (.word "async")])
  have ofName : Writes name [.token (.word name)] := .word (isWord_of_isVariable written.name)
  have ofBody := (writes_parameters written.parameters).append (Exact.statements rows 0)
  have front := ((isExport.append isConst).append_writes ofName).append_exact (.of_head rfl) equals
  have whole := ((Exact.comment comment).append
    (front.append (async.append ofBody))).writesRow (by simp)
  have statement := whole.statement
  have keywords : "export const " = "export " ++ "const " := rfl
  have arrow : " => \x7b\n" = " => " ++ "\x7b\n" := rfl
  have closing : "\x7d;\n" = "\x7d" ++ ";\n" := rfl
  have noBlanks : Script.indentation 0 = "" := rfl
  rw [Function.render, rendered, keywords, arrow, closing]
  simp only [noBlanks, String.empty_append, String.append_assoc] at statement ⊢
  exact statement

/-! ## Files -/

theorem exact_headerLine {line : String} (isLine : Script.IsLine line) :
    Exact (Script.renderHeaderLine line) [] := by
  rw [Script.renderHeaderLine]
  split
  · exact .lineComment (by decide : Script.IsLine "")
  · have isComment : Script.IsLine (" " ++ line) :=
      Script.isLine_append.2 ⟨by decide, isLine⟩
    have whole := Exact.lineComment isComment
    rwa [← String.append_assoc] at whole

/-- A file of functions is read as its imports and its functions, in their order. -/
theorem readFile_render {file : File} {functions : List Function}
    (items : file.items = functions.map Function.render)
    (header : ∀ line ∈ file.header, Script.IsLine line)
    (imports : ∀ taken ∈ file.imports, IsWrittenImport taken)
    (written : ∀ function ∈ functions, IsWrittenFunction function) :
    readFile file.render = some (file.imports.map .takes ++
      functions.map (fun function => .gives (treesOfFunction function))) := by
  have blankUnless : ∀ condition : Bool, WritesRows (if condition then "" else "\n") [] := by
    intro condition
    cases condition with
    | true => exact Exact.empty.writesRows
    | false => exact Exact.newline.writesRows
  have ofHeader : WritesRows (String.join (file.header.map Script.renderHeaderLine))
      (file.header.flatMap fun _ => []) :=
    .join fun line member => (exact_headerLine (header line member)).writesRows
  have ofImports : WritesRows (String.join (file.imports.map fun taken => taken.render ++ "\n"))
      (file.imports.flatMap fun taken => [rowOfImport taken]) :=
    .join fun taken member => writesRows_import (imports taken member)
  have ofItems : WritesRows ("\n".intercalate (functions.map Function.render))
      (functions.flatMap fun function => [rowOfFunction function]) :=
    .intercalate Exact.newline fun function member => writesRows_function (written function member)
  have whole := (((ofHeader.append (blankUnless file.header.isEmpty)).append ofImports).append
    (blankUnless (file.imports.isEmpty || file.items.isEmpty))).append ofItems
  have noHeader : (file.header.flatMap fun _ => []) = ([] : List Row) := by simp
  rw [← items, noHeader, ← List.map_eq_flatMap, ← List.map_eq_flatMap] at whole
  have takes := mapM_map_of_reads fun taken member =>
    readDeclaration_rowOfImport (imports taken member)
  have gives := mapM_map_of_reads fun function member =>
    readDeclaration_rowOfFunction (written function member).name
  rw [readFile, File.render, whole.readRows, Option.bind_some, List.append_nil, List.append_nil,
    List.nil_append, List.mapM_append, takes, gives]
  rfl

/-- A file with one function for each of its sources is read as its imports and one function for
each source, in their order. What is found of a function is its trees. -/
theorem exists_readFile_each {α : Type} {file : File} {sources : List α} {function : α → Function}
    {holds : α → FunctionTrees → Prop}
    (items : file.items = sources.map fun source => (function source).render)
    (header : ∀ line ∈ file.header, Script.IsLine line)
    (imports : ∀ taken ∈ file.imports, IsWrittenImport taken)
    (written : ∀ source ∈ sources, IsWrittenFunction (function source))
    (reads : ∀ source ∈ sources, holds source (treesOfFunction (function source))) :
    ∃ found : List FunctionTrees,
      readFile file.render = some (file.imports.map .takes ++ found.map .gives) ∧
      List.Forall₂ holds sources found := by
  refine ⟨sources.map fun source => treesOfFunction (function source), ?_, ?_⟩
  · have ofFunctions : file.items = (sources.map function).map Function.render := by
      rw [items, List.map_map]
      rfl
    rw [readFile_render ofFunctions header imports (List.forall_mem_map.2 written), List.map_map,
      List.map_map]
    rfl
  · rw [List.forall₂_map_right_iff, List.forall₂_same]
    exact reads

end TypedClient.ScriptText
