import QueryGateway.Session.Query
import QueryGateway.Sql.Piece

/-!
# Listing the catalog

The tables and views of a source with their columns.  A name that the catalog
lists both as a table and as a view is a view, and names are listed once and in
order, tables before views.
-/

namespace QueryGateway

open Sql

/-- Names in order, each once. -/
def orderedNames (names : List String) : List String :=
  (distinct names).mergeSort fun left right => left ≤ right

/-- A column of a table as it is listed. -/
def CatalogColumn.column (column : CatalogColumn) : Column :=
  ⟨column.name, column.type.shown, column.nullable⟩

/-- The error of a step that could not read the catalog of a source.  It names the source, whose
identifier must be short enough to be written. -/
def SessionError.ofCatalog (source : DataSource) (message : String) : SessionError :=
  if source.id.isWritable then
    .connection source.id
      ("Could not read schema of datasource " ++ source.id.shown ++ ": " ++ message)
  else
    .longNumber

namespace Run

/-- Ask the catalog something over a connection of a pool. -/
def askCatalog {α : Type}
    (run : Run)
    (number : Nat)
    (event : Event)
    (answer : Catalog → Except String α) :
    Except String α × Run :=
  match run.connect number with
  | (.error failure, run) => (.error failure.message, run)
  | (.ok connection, run) =>
      let run := run.note event
      (answer run.server.catalog, run.giveBack connection)

/-- Look at a pool before its catalog is read: one connection is checked out and goes back. -/
def inspect (run : Run) (number : Nat) : Except String Unit × Run :=
  match run.connect number with
  | (.error failure, run) => (.error failure.message, run)
  | (.ok connection, run) => (.ok (), run.giveBack connection)

/-- Read the columns of tables of one kind. -/
def listColumns
    (number : Nat)
    (scope kind : String) :
    List String → Run → Except String (List TableInfo) × Run
  | [], run => (.ok [], run)
  | name :: rest, run =>
      match run.askCatalog number (.listingColumns scope name) (·.columnsOf name) with
      | (.error message, run) => (.error message, run)
      | (.ok columns, run) =>
          let table : TableInfo := ⟨name, kind, columns.map CatalogColumn.column⟩
          match listColumns number scope kind rest run with
          | (.error message, run) => (.error message, run)
          | (.ok tables, run) => (.ok (table :: tables), run)

/-- Read the catalog over a pool. -/
def listCatalog (run : Run) (number : Nat) (scope : String) :
    Except String (List TableInfo) × Run :=
  match run.inspect number with
  | (.error message, run) => (.error message, run)
  | (.ok (), run) =>
      match run.askCatalog number (.listingViews scope) Catalog.views with
      | (.error message, run) => (.error message, run)
      | (.ok views, run) =>
          match run.askCatalog number (.listingTables scope) Catalog.tables with
          | (.error message, run) => (.error message, run)
          | (.ok tables, run) =>
              let tableNames := orderedNames (tables.filter fun name => !views.contains name)
              match listColumns number scope "TABLE" tableNames run with
              | (.error message, run) => (.error message, run)
              | (.ok tables, run) =>
                  match listColumns number scope "VIEW" (orderedNames views) run with
                  | (.error message, run) => (.error message, run)
                  | (.ok views, run) => (.ok (tables ++ views), run)

/-- List the tables and views of a source. -/
def schemaInfo (run : Run) (source : DataSource) : Except SessionError (List TableInfo) × Run :=
  let scope := (Dialect.ofEngine true source.engine).catalogScope source
  match run.acquirePool source with
  | (.error failure, run) => (.error failure.toSessionError, run)
  | (.ok number, run) =>
      match run.listCatalog number scope with
      | (.ok tables, run) => (.ok tables, run)
      | (.error message, run) => (.error (.ofCatalog source message), run)

end Run

end QueryGateway
