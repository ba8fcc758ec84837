import QueryGateway.Proofs.WritableCells
import QueryGateway.Session.Query

/-!
# Sent statements

What a statement is answered with depends on the servers only, and sending it
leaves nothing behind but its events.  Columns are described and rows are shown
if the integers that have to be written down for that are short enough.
-/

namespace QueryGateway

open List Sql

/-! ## Columns and rows -/

/-- A code whose integers are short names a type. -/
theorem Sql.Dialect.exists_columnTypeName?
    (dialect : Dialect)
    {code : Value}
    (short : code.hasShortIntegers = true) :
    ∃ name, dialect.columnTypeName? code = some name := by
  have plain : ∃ name, plainTypeName? code = some name := by
    cases code with
    | null | typeName => exact ⟨_, rfl⟩
    | _ => exact ⟨_, Value.plainText?_eq_some_iff.mpr ⟨short, rfl⟩⟩
  obtain ⟨name, isName⟩ := plain
  cases dialect with
  | clickHouse _ =>
      exact ⟨name, isName⟩
  | postgres =>
      cases code with
      | int code =>
          rw [columnTypeName?, isName]
          cases postgresTypeName? code <;> exact ⟨_, rfl⟩
      | _ =>
          exact ⟨name, isName⟩

/-- A column is described if the integers in its name and in the code of its type are short. -/
theorem ColumnDescription.exists_column?
    (dialect : Dialect)
    {description : ColumnDescription}
    (nameShort : description.name.hasShortIntegers = true)
    (codeShort : description.typeCode.hasShortIntegers = true) :
    ∃ column, description.column? dialect = some column := by
  obtain ⟨type, isType⟩ := dialect.exists_columnTypeName? codeShort
  rw [column?, Value.plainText?_eq_some_iff.mpr ⟨nameShort, rfl⟩, isType]
  exact ⟨_, rfl⟩

/-- The rows of a result are the first ones, and it is truncated if there are more. -/
theorem QueryResult.ofRows?_eq
    (columns : List Column)
    (limit : Nat)
    (fetched : List (List Value)) :
    ofRows? columns limit fetched =
      ((fetched.take limit).mapM Value.toCells?).map fun rows =>
        ⟨columns, rows, rows.length, .ofInt 0, decide (limit < fetched.length)⟩ := by
  rw [ofRows?]
  cases (fetched.take limit).mapM Value.toCells? <;> rfl

/-- One row more than the limit tells as much as all rows. -/
theorem QueryResult.ofRows?_take
    (columns : List Column)
    (limit : Nat)
    (rows : List (List Value)) :
    ofRows? columns limit (rows.take (limit + 1)) = ofRows? columns limit rows := by
  have more : limit < (rows.take (limit + 1)).length ↔ limit < rows.length := by
    rw [length_take]
    omega
  simp only [ofRows?_eq, take_take, Nat.min_eq_left (Nat.le_succ limit), more]

/-- A row has cells exactly if each of its values has one. -/
theorem Value.exists_toCells?_iff
    {row : List Value} :
    (∃ cells, toCells? row = some cells) ↔ ∀ value ∈ row, ∃ cell, value.toCell? = some cell := by
  rw [toCells?_eq_mapM, exists_mapM_iff]

/-- Rows are shown if the integers in the mappings of the first of them are short. -/
theorem QueryResult.exists_ofRows?
    (columns : List Column)
    {limit : Nat}
    {fetched : List (List Value)}
    (short : ∀ row ∈ fetched.take limit, ∀ value ∈ row, value.hasShortMappings = true) :
    ∃ result, ofRows? columns limit fetched = some result := by
  obtain ⟨rows, shown⟩ :=
    exists_mapM_iff.mpr fun row member =>
      Value.exists_toCells?_iff.mpr fun value inRow =>
        value.exists_toCell? (short row member value inRow)
  rw [ofRows?_eq, shown]
  exact ⟨_, rfl⟩

/-! ## Answers of the servers -/

/-- What a statement that is sent to a source is answered with. -/
def Server.reply
    (server : Server)
    (source : SourceId)
    (dialect : Dialect)
    (statement : String)
    (limit : Nat) :
    Except SessionError QueryResult :=
  match server.executeError, server.columns with
  | some message, _ => .error (.execution source message statement)
  | none, none => .ok .empty
  | none, some descriptions =>
      match descriptions.mapM (ColumnDescription.column? dialect), server.fetchError with
      | none, _ => .error .longNumber
      | some _, some failure => .error (failure.toExecutionError source statement)
      | some columns, none =>
          match QueryResult.ofRows? columns limit (server.rows.take (limit + 1)) with
          | some result => .ok result
          | none => .error .longNumber

/-- A statement whose columns are described is answered with its first rows, or with a failure to
fetch or to show them. -/
theorem Server.reply_of_described
    {server : Server}
    {dialect : Dialect}
    {descriptions : List ColumnDescription}
    {columns : List Column}
    (executed : server.executeError = none)
    (described : server.columns = some descriptions)
    (found : descriptions.mapM (ColumnDescription.column? dialect) = some columns)
    (source : SourceId)
    (statement : String)
    (limit : Nat) :
    server.reply source dialect statement limit =
      match server.fetchError with
      | some failure => .error (failure.toExecutionError source statement)
      | none =>
          match QueryResult.ofRows? columns limit server.rows with
          | some result => .ok result
          | none => .error .longNumber := by
  rw [reply, executed, described]
  dsimp only
  rw [found]
  cases server.fetchError with
  | some failure => rfl
  | none =>
      dsimp only
      rw [QueryResult.ofRows?_take]

/-- What happens while a statement is sent: rows are fetched once the columns are described. -/
def Server.sending (server : Server) (dialect : Dialect) (statement : String) (limit : Nat) :
    List Event :=
  match server.executeError, server.columns.map (·.mapM (ColumnDescription.column? dialect)) with
  | none, some (some _) => [.executing statement, .fetching (limit + 1)]
  | _, _ => [.executing statement]

/-- A run in which several things have happened. -/
def Run.notes (run : Run) (events : List Event) : Run :=
  { run with log := run.log ++ events }

theorem Run.sendStatement_eq
    (run : Run)
    (source : DataSource)
    (dialect : Dialect)
    (statement : String)
    (limit : Nat) :
    run.sendStatement source dialect statement limit =
      (run.server.reply source.id dialect statement limit,
        run.notes (run.server.sending dialect statement limit)) := by
  rw [sendStatement, Server.reply, Server.sending]
  simp only [server_note]
  cases run.server.executeError with
  | some message =>
      rfl
  | none =>
      cases run.server.columns with
      | none =>
          rfl
      | some descriptions =>
          simp only [Option.map_some]
          cases descriptions.mapM (ColumnDescription.column? dialect) with
          | none =>
              rfl
          | some columns =>
              cases run.server.fetchError with
              | some failure =>
                  simp [note, notes]
              | none =>
                  cases shown :
                      QueryResult.ofRows? columns limit (run.server.rows.take (limit + 1)) <;>
                    simp [shown, note, notes]

/-- A statement with a positive limit is bounded, a connection is checked out, the statement is sent
and the connection goes back. -/
theorem Run.executeQuery_eq
    (run : Run)
    (source : DataSource)
    (statement : String)
    {limit : Int}
    (positive : 1 ≤ limit) :
    run.executeQuery source statement limit =
      match capped? statement (limit + 1) with
      | none => (.error .longNumber, run)
      | some bounded =>
          match run.checkOut source with
          | (.error failure, later) => (.error (failure.toSessionError source), later)
          | (.ok connection, later) =>
              let dialect := Dialect.ofEngine true source.engine
              (later.server.reply source.id dialect bounded limit.toNat,
                (later.notes (later.server.sending dialect bounded limit.toNat)).giveBack
                  connection) := by
  rw [executeQuery, if_neg (Int.not_lt.mpr positive)]
  cases capped? statement (limit + 1) with
  | none =>
      rfl
  | some bounded =>
      dsimp only
      obtain ⟨checked, later⟩ := run.checkOut source
      cases checked with
      | error failure =>
          rfl
      | ok connection =>
          dsimp only
          rw [sendStatement_eq]

end QueryGateway
