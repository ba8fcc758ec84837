import QueryGateway.Value.Basic

/-!
# Servers

How the servers behind a session behave during one step of it: whether a pool
can be built and a connection opened, what a statement does, and what the
catalog holds.
-/

namespace QueryGateway

/-- What happens while one connection is opened.  Another caller may evict the pool meanwhile, and
may have a new one built at once. -/
inductive Opening where
  | succeeds
  | fails (message : String)
  | evicted
  | replaced
  deriving Repr, DecidableEq

/-- A column of a result as a driver describes it: its name, a code for its type, and whether it
may hold nothing, as far as that is known. -/
structure ColumnDescription where
  name : Value
  typeCode : Value
  nullOk : Value
  deriving Repr

/-- The type of a column in the catalog.  A type without a text of its own goes by the name of its
class. -/
inductive CatalogType where
  | written (text : String)
  | untyped (className : String)
  deriving Repr, DecidableEq

/-- The text of a type. -/
def CatalogType.shown : CatalogType → String
  | .written text => text
  | .untyped className => className

/-- A column of a table in the catalog. -/
structure CatalogColumn where
  name : String
  type : CatalogType
  nullable : Bool
  deriving Repr, DecidableEq

/-- What a catalog answers: the names of views and tables, and the columns of each. -/
structure Catalog where
  views : Except String (List String)
  tables : Except String (List String)
  columns : List (String × Except String (List CatalogColumn))

/-- The columns of a table or a view; a name that is not listed has none. -/
def Catalog.columnsOf (catalog : Catalog) (name : String) : Except String (List CatalogColumn) :=
  (catalog.columns.lookup name).getD (.ok [])

/-- Why a pool was not built, or why rows were not fetched: that was refused with a message, or a
number that had to be written on the way is too long. -/
inductive ServerFailure where
  | refused (message : String)
  | longNumber
  deriving Repr, DecidableEq

/-- The description of a failure. -/
def ServerFailure.message : ServerFailure → String
  | .refused message => message
  | .longNumber => Numeral.unwritableMessage

/-- How servers behave during a step.  `openings` says what happens to the first connections that
are opened and `connectError` why all further ones fail, if they do.  A statement without columns returns no
rows. -/
structure Server where
  factoryError : Option ServerFailure
  openings : List Opening
  connectError : Option String
  executeError : Option String
  columns : Option (List ColumnDescription)
  rows : List (List Value)
  fetchError : Option ServerFailure
  catalog : Catalog

namespace Server

/-- What happens while the next connection is opened, and how the servers behave after that. -/
def nextOpening (server : Server) : Opening × Server :=
  match server.openings with
  | opening :: rest => (opening, { server with openings := rest })
  | [] => ((server.connectError.map Opening.fails).getD .succeeds, server)

end Server

end QueryGateway
