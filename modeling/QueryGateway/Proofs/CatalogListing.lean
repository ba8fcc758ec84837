import Mathlib.Data.List.Nodup
import Mathlib.Data.String.Basic
import QueryGateway.Proofs.CatalogCalls
import QueryGateway.Proofs.NamedValues

/-!
# The list of a catalog

A list of the tables and views of a source names each of them once, tables
before views and in order, with its columns.  There is one such list for every
catalog, whatever the order in which the catalog gives its names and however
often; it is given if every call that reads the catalog succeeds, and otherwise
nothing is.
-/

namespace QueryGateway

open List Sql

/-! ## Names in order -/

/-- Putting names in order keeps the names. -/
theorem mem_orderedNames
    {name : String}
    {names : List String} :
    name ∈ orderedNames names ↔ name ∈ names := by
  rw [orderedNames, mem_mergeSort, mem_distinct]

/-- Of names that are told apart none is met twice. -/
theorem nodup_distinct
    (names : List String) :
    (distinct names).Nodup :=
  (pairwise_idxOf_distinct names).imp fun {first second} earlier (same : first = second) =>
    Nat.lt_irrefl _ (same ▸ earlier)

/-- Ordered names are met once each. -/
theorem nodup_orderedNames
    (names : List String) :
    (orderedNames names).Nodup :=
  (mergeSort_perm _ _).nodup_iff.mpr (nodup_distinct names)

/-- Ordered names stand in increasing order. -/
theorem pairwise_orderedNames
    (names : List String) :
    (orderedNames names).Pairwise (· < ·) := by
  have sorted :
      (orderedNames names).Pairwise fun left right => decide (left ≤ right) = true := by
    refine pairwise_mergeSort (fun first second third => ?_) (fun first second => ?_) _
    · simpa only [decide_eq_true_eq] using le_trans
    · simpa only [Bool.or_eq_true, decide_eq_true_eq] using le_total first second
  exact sorted.imp₂
    (fun _ _ before other => lt_of_le_of_ne (of_decide_eq_true before) other)
    (nodup_orderedNames names)

/-- The names in order depend only on which names there are. -/
theorem orderedNames_congr
    {names others : List String}
    (same : ∀ name, name ∈ names ↔ name ∈ others) :
    orderedNames names = orderedNames others := by
  refine Perm.eq_of_pairwise
    (fun first second _ _ before after => absurd before (lt_asymm after))
    (pairwise_orderedNames names) (pairwise_orderedNames others) ?_
  refine (perm_ext_iff_of_nodup (nodup_orderedNames _) (nodup_orderedNames _)).mpr fun name => ?_
  rw [mem_orderedNames, mem_orderedNames, same]

/-! ## Lists of a catalog -/

/-- Whether one entry comes before another: tables come before views, and names of one kind in
order. -/
def TableInfo.Precedes (first second : TableInfo) : Prop :=
  first.type = "TABLE" ∧ second.type = "VIEW" ∨
    first.type = second.type ∧ first.name < second.name

/-- No two relations precede each other. -/
theorem TableInfo.Precedes.asymm
    {first second : TableInfo}
    (before : first.Precedes second) :
    ¬ second.Precedes first := by
  have kinds : "TABLE" ≠ "VIEW" := by decide
  intro after
  rcases before with ⟨isTable, isView⟩ | ⟨same, before⟩ <;>
    rcases after with ⟨isTable', isView'⟩ | ⟨same', after⟩
  · exact kinds (isTable'.symm.trans isView)
  · exact kinds (isTable.symm.trans (same'.symm.trans isView))
  · exact kinds (isTable'.symm.trans (same.symm.trans isView'))
  · exact lt_asymm before after

namespace Catalog

/-- A list of what a catalog holds, from the names of its views and its tables. -/
structure IsListing
    (catalog : Catalog)
    (views tables : List String)
    (infos : List TableInfo) :
    Prop where
  /-- What is named in the list is a table or a view, and each of them is named. -/
  complete : ∀ name, name ∈ infos.map TableInfo.name ↔ name ∈ tables ∨ name ∈ views
  /-- Nothing is named twice. -/
  once : (infos.map TableInfo.name).Nodup
  /-- What is a view is listed as one, also if it is a table too. -/
  kinds : ∀ info ∈ infos, info.type = if info.name ∈ views then "VIEW" else "TABLE"
  ordered : infos.Pairwise TableInfo.Precedes
  /-- An entry has the columns that the catalog gives for its name, in their order. -/
  columns :
    ∀ info ∈ infos,
      ∃ columns,
        catalog.columnsOf info.name = .ok columns ∧
          info.columns = columns.map CatalogColumn.column

/-- The names of the views, in order. -/
def viewNames (catalog : Catalog) : List String :=
  orderedNames (catalog.views.toOption.getD [])

/-- The names of the tables that are not views, in order. -/
def tableNames (catalog : Catalog) : List String :=
  orderedNames
    ((catalog.tables.toOption.getD []).filter fun name =>
      !(catalog.views.toOption.getD []).contains name)

/-- The calls that read a catalog. -/
def calls (catalog : Catalog) : List CatalogCall :=
  .inspecting :: .views :: .tables ::
    (catalog.tableNames ++ catalog.viewNames).map .columns

/-- The entry for a name. -/
def entry (catalog : Catalog) (kind name : String) : TableInfo :=
  ⟨name, kind, ((catalog.columnsOf name).toOption.getD []).map CatalogColumn.column⟩

/-- The entries for all names of a catalog. -/
def listing (catalog : Catalog) : List TableInfo :=
  catalog.tableNames.map (catalog.entry "TABLE") ++
    catalog.viewNames.map (catalog.entry "VIEW")

/-- The failure of the first call that a catalog does not answer. -/
def fault? (catalog : Catalog) : Option String :=
  catalog.calls.findSome? fun call => errorOf? (call.answer catalog)

variable
  {catalog : Catalog}
  {views tables : List String}

/-! ## There is one list -/

/-- Forgetting what an answer says keeps whether there is one. -/
theorem map_eq_ok_iff
    {α : Type}
    {answer : Except String α} :
    (answer.map fun _ => ()) = .ok () ↔ ∃ value, answer = .ok value := by
  cases answer <;> simp [Except.map]

/-- An entry is found by its name. -/
theorem IsListing.mem_of_name
    {infos others : List TableInfo}
    (isListing : catalog.IsListing views tables infos)
    (others_isListing : catalog.IsListing views tables others)
    {info : TableInfo}
    (member : info ∈ infos) :
    info ∈ others := by
  have named : info.name ∈ others.map TableInfo.name :=
    (others_isListing.complete _).mpr
      ((isListing.complete _).mp (mem_map_of_mem member))
  obtain ⟨other, listed, sameName⟩ := mem_map.mp named
  obtain ⟨columns, read, ofInfo⟩ := isListing.columns info member
  obtain ⟨columns', read', ofOther⟩ := others_isListing.columns other listed
  rw [sameName, read, Except.ok.injEq] at read'
  have sameKind : other.type = info.type := by
    rw [others_isListing.kinds other listed, isListing.kinds info member, sameName]
  have sameColumns : other.columns = info.columns := by
    rw [ofOther, ofInfo, read']
  have same : other = info :=
    calc
      other = ⟨other.name, other.type, other.columns⟩ := rfl
      _ = ⟨info.name, info.type, info.columns⟩ := by rw [sameName, sameKind, sameColumns]
      _ = info := rfl
  exact same ▸ listed

/-- A catalog has at most one listing. -/
theorem IsListing.unique
    {infos others : List TableInfo}
    (isListing : catalog.IsListing views tables infos)
    (others_isListing : catalog.IsListing views tables others) :
    infos = others := by
  refine Perm.eq_of_pairwise
    (fun first second _ _ before after => absurd after before.asymm)
    isListing.ordered others_isListing.ordered ?_
  refine (perm_ext_iff_of_nodup (.of_map _ isListing.once)
    (.of_map _ others_isListing.once)).mpr fun info => ?_
  exact ⟨isListing.mem_of_name others_isListing, others_isListing.mem_of_name isListing⟩

/-- The views that are listed are the ones the server names. -/
theorem mem_viewNames
    (viewsRead : catalog.views = .ok views)
    {name : String} :
    name ∈ catalog.viewNames ↔ name ∈ views := by
  rw [viewNames, mem_orderedNames, viewsRead]
  rfl

/-- The tables that are listed are the ones the server names, less the views. -/
theorem mem_tableNames
    (viewsRead : catalog.views = .ok views)
    (tablesRead : catalog.tables = .ok tables)
    {name : String} :
    name ∈ catalog.tableNames ↔ name ∈ tables ∧ name ∉ views := by
  rw [tableNames, mem_orderedNames, viewsRead, tablesRead]
  simp [Except.toOption]

/-- What is read about by name are the tables and the views. -/
theorem mem_names
    (viewsRead : catalog.views = .ok views)
    (tablesRead : catalog.tables = .ok tables)
    {name : String} :
    name ∈ catalog.tableNames ++ catalog.viewNames ↔ name ∈ tables ∨ name ∈ views := by
  rw [mem_append, mem_tableNames viewsRead tablesRead, mem_viewNames viewsRead]
  by_cases isView : name ∈ views <;> simp [isView]

/-- What is listed is an entry of a table or of a view. -/
theorem mem_listing
    {info : TableInfo} :
    info ∈ catalog.listing ↔
      (∃ name ∈ catalog.tableNames, catalog.entry "TABLE" name = info) ∨
        ∃ name ∈ catalog.viewNames, catalog.entry "VIEW" name = info := by
  rw [listing, mem_append, mem_map, mem_map]

/-- The tables stand before the views. -/
theorem names_listing
    (catalog : Catalog) :
    catalog.listing.map TableInfo.name = catalog.tableNames ++ catalog.viewNames := by
  have named (kind : String) (names : List String) :
      (names.map (catalog.entry kind)).map TableInfo.name = names := by
    rw [map_map]
    exact map_id names
  rw [listing, map_append, named, named]

/-- The entries for all names are a list of the catalog, if the columns of each name are known. -/
theorem isListing_listing
    (viewsRead : catalog.views = .ok views)
    (tablesRead : catalog.tables = .ok tables)
    (columnsRead :
      ∀ name,
        name ∈ tables ∨ name ∈ views →
          ∃ columns, catalog.columnsOf name = .ok columns) :
    catalog.IsListing views tables catalog.listing := by
  have ordered (kind : String) (names : List String) :
      ((orderedNames names).map (catalog.entry kind)).Pairwise TableInfo.Precedes :=
    pairwise_map.mpr
      ((pairwise_orderedNames names).imp fun before => Or.inr ⟨rfl, before⟩)
  constructor
  case complete =>
    intro name
    rw [names_listing, mem_names viewsRead tablesRead]
  case once =>
    rw [names_listing]
    refine nodup_append.mpr ⟨nodup_orderedNames _, nodup_orderedNames _, ?_⟩
    rintro name isTable _ isView rfl
    exact ((mem_tableNames viewsRead tablesRead).mp isTable).2
      ((mem_viewNames viewsRead).mp isView)
  case kinds =>
    intro info member
    rcases mem_listing.mp member with ⟨name, isTable, rfl⟩ | ⟨name, isView, rfl⟩
    · exact (if_neg ((mem_tableNames viewsRead tablesRead).mp isTable).2).symm
    · exact (if_pos ((mem_viewNames viewsRead).mp isView)).symm
  case ordered =>
    refine pairwise_append.mpr ⟨ordered _ _, ordered _ _, ?_⟩
    intro first isTable second isView
    obtain ⟨name, -, rfl⟩ := mem_map.mp isTable
    obtain ⟨name', -, rfl⟩ := mem_map.mp isView
    exact Or.inl ⟨rfl, rfl⟩
  case columns =>
    intro info member
    have named : info.name ∈ catalog.tableNames ++ catalog.viewNames := by
      rw [← names_listing]
      exact mem_map_of_mem member
    obtain ⟨columns, read⟩ :=
      columnsRead info.name ((mem_names viewsRead tablesRead).mp named)
    refine ⟨columns, read, ?_⟩
    rcases mem_listing.mp member with ⟨name, -, rfl⟩ | ⟨name, -, rfl⟩
    all_goals
      rw [entry] at read ⊢
      dsimp only at read ⊢
      rw [read]
      rfl

/-- A catalog is without a fault if it answers every call. -/
theorem fault?_eq_none_iff :
    catalog.fault? = none ↔ ∀ call ∈ catalog.calls, call.answer catalog = .ok () := by
  rw [fault?, findSome?_eq_none_iff]
  refine forall₂_congr fun call _ => ?_
  cases call.answer catalog <;> simp [errorOf?]

/-- The calls are all answered if the catalog names its views and tables and knows the columns of
each. -/
theorem answered_iff :
    (∀ call ∈ catalog.calls, call.answer catalog = .ok ()) ↔
      ∃ views tables,
        catalog.views = .ok views ∧
          catalog.tables = .ok tables ∧
            ∀ name,
              name ∈ tables ∨ name ∈ views →
                ∃ columns, catalog.columnsOf name = .ok columns := by
  simp only [calls, forall_mem_cons, forall_mem_map, CatalogCall.answer, map_eq_ok_iff,
    true_and]
  constructor
  · rintro ⟨⟨views, viewsRead⟩, ⟨tables, tablesRead⟩, columnsRead⟩
    exact ⟨views, tables, viewsRead, tablesRead, fun name named =>
      columnsRead name ((mem_names viewsRead tablesRead).mpr named)⟩
  · rintro ⟨views, tables, viewsRead, tablesRead, columnsRead⟩
    exact ⟨⟨views, viewsRead⟩, ⟨tables, tablesRead⟩, fun name named =>
      columnsRead name ((mem_names viewsRead tablesRead).mp named)⟩

/-! ## Catalogs with the same names -/

/-- Whether two answers name the same, in any order and however often, or fail alike. -/
def SameNames : Except String (List String) → Except String (List String) → Prop
  | .ok names, .ok others => ∀ name, name ∈ names ↔ name ∈ others
  | .error message, .error other => message = other
  | _, _ => False

/-- Whether two catalogs name the same views and the same tables, and give each the same columns. -/
structure Agrees (catalog other : Catalog) : Prop where
  views : SameNames catalog.views other.views
  tables : SameNames catalog.tables other.tables
  columns : catalog.columnsOf = other.columnsOf

/-- Answers of the same names name the same. -/
theorem mem_of_sameNames
    {answer other : Except String (List String)}
    (same : SameNames answer other)
    (name : String) :
    name ∈ answer.toOption.getD [] ↔ name ∈ other.toOption.getD [] := by
  rcases answer with message | names <;> rcases other with message' | others
  · exact Iff.rfl
  · exact same.elim
  · exact same.elim
  · exact same name

/-- Answers of the same names fail alike. -/
theorem map_of_sameNames
    {answer other : Except String (List String)}
    (same : SameNames answer other) :
    (answer.map fun _ => ()) = other.map fun _ => () := by
  rcases answer with message | names <;> rcases other with message' | others
  · exact congrArg Except.error same
  · exact same.elim
  · exact same.elim
  · rfl

section

variable
  {other : Catalog}
  (agrees : catalog.Agrees other)

include agrees

/-- Catalogs that agree list the same views. -/
theorem viewNames_of_agrees :
    catalog.viewNames = other.viewNames :=
  orderedNames_congr (mem_of_sameNames agrees.views)

/-- Catalogs that agree list the same tables. -/
theorem tableNames_of_agrees :
    catalog.tableNames = other.tableNames := by
  refine orderedNames_congr fun name => ?_
  have sameTables := mem_of_sameNames agrees.tables name
  have sameViews := mem_of_sameNames agrees.views name
  simp [sameTables, sameViews]

/-- Catalogs that agree are asked the same. -/
theorem calls_of_agrees :
    catalog.calls = other.calls := by
  rw [calls, calls, viewNames_of_agrees agrees, tableNames_of_agrees agrees]

/-- Catalogs that agree have the same listing. -/
theorem listing_of_agrees :
    catalog.listing = other.listing := by
  have sameEntry : catalog.entry = other.entry := by
    funext kind name
    rw [entry, entry, agrees.columns]
  rw [listing, listing, viewNames_of_agrees agrees, tableNames_of_agrees agrees, sameEntry]

/-- Catalogs that agree answer every call alike. -/
theorem answer_of_agrees
    (call : CatalogCall) :
    call.answer catalog = call.answer other := by
  cases call with
  | inspecting =>
      rfl
  | views =>
      exact map_of_sameNames agrees.views
  | tables =>
      exact map_of_sameNames agrees.tables
  | columns name =>
      rw [CatalogCall.answer, CatalogCall.answer, agrees.columns]

end

end Catalog

/-! ## Reading the catalog -/

namespace Run

variable
  {run : Run}
  {number : Nat}
  {scope : String}

/-- What comes of calls, with a result if they succeed. -/
def giving {α : Type} (result : α) : Except String Unit × Run → Except String α × Run :=
  Prod.map (·.map fun _ => result) id

/-- The columns of names are read by a call for each. -/
theorem listColumns_eq
    (kind : String)
    (names : List String) :
    listColumns number scope kind names run =
      giving (names.map (run.server.catalog.entry kind))
        (makeAll number scope (names.map .columns) run) := by
  induction names generalizing run with
  | nil =>
      rfl
  | cons name rest inductionHypothesis =>
      rw [listColumns, map_cons, map_cons, makeAll]
      rcases run.askCatalog_cases number scope (.columns name) (·.columnsOf name) rfl rfl with
        ⟨message, later, made, asked⟩ | ⟨columns, later, made, asked, read, kept⟩
      · rw [made, asked]
        rfl
      · have entered :
            run.server.catalog.entry kind name =
              ⟨name, kind, columns.map CatalogColumn.column⟩ := by
          rw [Catalog.entry, read]
          rfl
        rw [made, asked]
        dsimp only
        rw [inductionHypothesis, kept, entered]
        obtain ⟨message | _, latest⟩ :=
          makeAll number scope (rest.map .columns) later <;> rfl

/-- Tables are listed before views. -/
theorem listEntries_eq
    {tableNames viewNames : List String} :
    (match listColumns number scope "TABLE" tableNames run with
      | (.error message, later) => (.error message, later)
      | (.ok tables, later) =>
          match listColumns number scope "VIEW" viewNames later with
          | (.error message, later) => (.error message, later)
          | (.ok views, later) => (.ok (tables ++ views), later)) =
      giving
        (tableNames.map (run.server.catalog.entry "TABLE") ++
          viewNames.map (run.server.catalog.entry "VIEW"))
        (makeAll number scope ((tableNames ++ viewNames).map .columns) run) := by
  rw [map_append, makeAll_append, listColumns_eq]
  cases first : makeAll number scope (tableNames.map .columns) run with
  | mk outcome later =>
      rcases outcome with message | _
      · rfl
      obtain ⟨-, kept⟩ := answer_of_makeAll first
      dsimp only [giving, Prod.map, Except.map, id]
      rw [listColumns_eq, kept]
      obtain ⟨message | _, latest⟩ :=
        makeAll number scope (viewNames.map .columns) later <;> rfl

/-- A catalog is read by its calls. -/
theorem listCatalog_eq :
    run.listCatalog number scope =
      giving run.server.catalog.listing
        (makeAll number scope run.server.catalog.calls run) := by
  have inspecting : run.inspect number = run.make number scope .inspecting := rfl
  rw [listCatalog, inspecting, Catalog.calls, makeAll]
  cases made : run.make number scope .inspecting with
  | mk outcome second =>
  rcases outcome with message | _
  · rfl
  obtain ⟨-, kept⟩ := run.answer_of_make number scope made
  dsimp only
  rcases second.askCatalog_cases number scope .views Catalog.views rfl rfl with
    ⟨message, third, made, asked⟩ | ⟨views, third, made, asked, viewsRead, kept'⟩
  · rw [makeAll, made, asked]
    rfl
  rw [makeAll, made, asked]
  dsimp only
  rcases third.askCatalog_cases number scope .tables Catalog.tables rfl rfl with
    ⟨message, fourth, made, asked⟩ | ⟨tables, fourth, made, asked, tablesRead, kept''⟩
  · rw [makeAll, made, asked]
    rfl
  rw [makeAll, made, asked]
  rw [kept] at viewsRead kept'
  rw [kept'] at tablesRead kept''
  have tableNames :
      run.server.catalog.tableNames =
        orderedNames (tables.filter fun name => !views.contains name) := by
    rw [Catalog.tableNames, viewsRead, tablesRead]
    rfl
  have viewNames : run.server.catalog.viewNames = orderedNames views := by
    rw [Catalog.viewNames, viewsRead]
    rfl
  rw [Catalog.listing, tableNames, viewNames, ← kept'']
  exact listEntries_eq

end Run

/-! ## Listing a source -/

/-- The part of the catalog that a source is listed from. -/
def DataSource.scope (source : DataSource) : String :=
  (Dialect.ofEngine true source.engine).catalogScope source

namespace Run

/-- What comes of listing a source.  `number` is the pool of the source and `held` the run once that
is there. -/
structure ListsCatalog (run : Run) (source : DataSource) : Prop where
  /-- A list that is given is the one list of what the catalog holds. -/
  complete :
    ∀ infos,
      (run.schemaInfo source).1 = .ok infos →
        ∃ views tables,
          run.server.catalog.views = .ok views ∧
            run.server.catalog.tables = .ok tables ∧
              ∀ others,
                run.server.catalog.IsListing views tables others ↔ others = infos
  /-- A list is given if all calls succeed. -/
  given :
    ∀ number held,
      run.acquirePool source = (.ok number, held) →
        (makeAll number source.scope run.server.catalog.calls held).1 = .ok () →
          ∃ infos, (run.schemaInfo source).1 = .ok infos
  /-- The first call that fails is the failure of the whole. -/
  failed :
    ∀ number held message,
      run.acquirePool source = (.ok number, held) →
        (makeAll number source.scope run.server.catalog.calls held).1 = .error message →
          (run.schemaInfo source).1 = .error (.ofCatalog source message)
  /-- No list is given if there is a call that the catalog does not answer. -/
  unanswered :
    ∀ number held,
      run.acquirePool source = (.ok number, held) →
        ∀ call ∈ run.server.catalog.calls,
          call.answer run.server.catalog ≠ .ok () →
            ∃ message, (run.schemaInfo source).1 = .error (.ofCatalog source message)
  /-- A list is given if the pool serves every call and the catalog knows the columns of every table
  and view. -/
  answered :
    ∀ number held views tables,
      run.acquirePool source = (.ok number, held) →
        held.Serves number →
          run.server.catalog.views = .ok views →
            run.server.catalog.tables = .ok tables →
              (∀ name,
                name ∈ tables ∨ name ∈ views →
                  ∃ columns, run.server.catalog.columnsOf name = .ok columns) →
                ∃ infos, (run.schemaInfo source).1 = .ok infos
  /-- The failure is that of the first call that the catalog does not answer, if the pool serves
  every call. -/
  faulted :
    ∀ number held message,
      run.acquirePool source = (.ok number, held) →
        held.Serves number →
          run.server.catalog.fault? = some message →
            (run.schemaInfo source).1 = .error (.ofCatalog source message)
  /-- A source without a pool is not listed. -/
  unbuilt :
    ∀ failure later,
      run.acquirePool source = (.error failure, later) →
        (run.schemaInfo source).1 = .error failure.toSessionError
  /-- Neither the order of names nor their repetitions matter. -/
  reordered :
    ∀ catalog,
      run.server.catalog.Agrees catalog →
        ((run.withCatalog catalog).schemaInfo source).1 = (run.schemaInfo source).1

variable
  (run : Run)
  (source : DataSource)

/-- A source is listed by calls over its pool. -/
theorem schemaInfo_eq :
    (run.schemaInfo source).1 =
      match run.acquirePool source with
      | (.error failure, _) => .error failure.toSessionError
      | (.ok number, held) =>
          match (makeAll number source.scope run.server.catalog.calls held).1 with
          | .error message => .error (.ofCatalog source message)
          | .ok () => .ok run.server.catalog.listing := by
  have kept := run.server_acquirePool source
  have scope : (Dialect.ofEngine true source.engine).catalogScope source = source.scope := rfl
  rw [schemaInfo, scope]
  generalize run.acquirePool source = outcome at kept
  obtain ⟨failure | number, held⟩ := outcome
  · rfl
  · dsimp only at kept ⊢
    rw [listCatalog_eq, kept]
    obtain ⟨message | _, later⟩ :=
      makeAll number source.scope run.server.catalog.calls held <;> rfl

/-- Over a pool that serves every call, it is up to the catalog whether there is a list. -/
theorem schemaInfo_of_serves
    {number : Nat}
    {held : Run}
    (acquired : run.acquirePool source = (.ok number, held))
    (serves : held.Serves number) :
    (run.schemaInfo source).1 =
      match run.server.catalog.fault? with
      | some message => .error (.ofCatalog source message)
      | none => .ok run.server.catalog.listing := by
  rw [schemaInfo_eq, acquired]
  dsimp only
  rw [makeAll_of_serves serves, server_of_acquired acquired, ← Catalog.fault?]
  cases run.server.catalog.fault? <;> rfl

/-- A list is given only if there is a pool and all calls succeed. -/
theorem made_of_schemaInfo
    {infos : List TableInfo}
    (listed : (run.schemaInfo source).1 = .ok infos) :
    ∃ number held,
      run.acquirePool source = (.ok number, held) ∧
        (makeAll number source.scope run.server.catalog.calls held).1 = .ok () ∧
          infos = run.server.catalog.listing := by
  rw [schemaInfo_eq] at listed
  split at listed
  · cases listed
  · rename_i number held acquired
    refine ⟨number, held, acquired, ?_⟩
    split at listed
    · cases listed
    · rename_i made
      exact ⟨made, (Except.ok.inj listed).symm⟩

/-- Listing goes alike under catalogs with the same names and columns. -/
theorem schemaInfo_withCatalog
    {catalog : Catalog}
    (agrees : run.server.catalog.Agrees catalog) :
    ((run.withCatalog catalog).schemaInfo source).1 = (run.schemaInfo source).1 := by
  have calls : catalog.calls = run.server.catalog.calls := (Catalog.calls_of_agrees agrees).symm
  have listing := Catalog.listing_of_agrees agrees
  rw [schemaInfo_eq, schemaInfo_eq, acquirePool_withCatalog]
  cases acquired : run.acquirePool source with
  | mk outcome held =>
      cases outcome with
      | error failure =>
          rfl
      | ok number =>
          have answers :
              ∀ call ∈ catalog.calls,
                call.answer catalog = call.answer held.server.catalog := by
            intro call _
            rw [server_of_acquired acquired]
            exact (Catalog.answer_of_agrees agrees call).symm
          dsimp only [Prod.map, id]
          rw [catalog_withCatalog, makeAll_withCatalog answers, calls, listing]
          rfl

/-- A catalog with a table, and with a view that is also among its tables. -/
def dailySales : Catalog where
  views := .ok ["daily"]
  tables := .ok ["sales", "daily", "sales"]
  columns := [("sales", .ok [⟨"region", .written "TEXT", false⟩])]

end Run

end QueryGateway
