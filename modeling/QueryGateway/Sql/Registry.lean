import QueryGateway.Sql.Dialect
import QueryGateway.Value.Display

/-!
# Dialect registry

Which family of dialects serves which kind of engine.  Registering a kind again
replaces its family; creating a dialect for a kind without one is refused with
the list of kinds that have one.
-/

namespace QueryGateway.Sql

/-- The families of dialects. -/
inductive DialectFamily where
  | postgres
  | clickHouse
  deriving Repr, DecidableEq

/-- How the release of a server is given. -/
inductive Release where
  | text (text : String)
  | version (version : ServerVersion)
  deriving Repr, DecidableEq

/-- The version of a release. -/
def Release.toVersion : Release → Except ServerVersion.VersionError ServerVersion
  | .text written => ServerVersion.ofText written
  | .version known => .ok known

/-- What a dialect may be told about its server. -/
structure DialectOptions where
  release : Option Release
  fullJoin : Option Bool
  deriving Repr, DecidableEq

/-- The families registered for kinds of engine. -/
abbrev Registry := List (EngineType × DialectFamily)

/-- Why no dialect could be made or registered. -/
inductive RegistryError where
  | unsupportedType (shown : String) (registered : List String)
  | unexpectedOptions
  | badRelease (error : ServerVersion.VersionError)
  | unknownType (shown : String)
  | longNumber
  deriving Repr, DecidableEq

/-- The description of an error. -/
def RegistryError.message : RegistryError → String
  | .unsupportedType shown registered =>
      "Unsupported datasource type: '" ++ shown ++ "'. Registered types: "
        ++ (Value.list (registered.map Value.text)).display ++ "."
  | .unexpectedOptions => "PostgresDialect() takes no arguments"
  | .badRelease error => error.message
  | .unknownType shown => shown ++ " is not a valid DataSourceType"
  | .longNumber => Numeral.unwritableMessage

/-- The dialect of a family.  The PostgreSQL family takes no options. -/
def DialectFamily.dialect (family : DialectFamily) (options : Option DialectOptions) :
    Except RegistryError Dialect :=
  match family, options with
  | .postgres, none => .ok .postgres
  | .postgres, some _ => .error .unexpectedOptions
  | .clickHouse, none => .ok (.ofServer none none)
  | .clickHouse, some ⟨none, fullJoin⟩ => .ok (.ofServer none fullJoin)
  | .clickHouse, some ⟨some release, fullJoin⟩ =>
      match release.toVersion with
      | .ok version => .ok (.ofServer (some version) fullJoin)
      | .error error => .error (.badRelease error)

namespace Registry

/-- The registry with both kinds of engine served by their own families. -/
def builtIn : Registry := [(.postgresql, .postgres), (.clickhouse, .clickHouse)]

/-- The family registered for a kind of engine. -/
def family? (registry : Registry) (engine : EngineType) : Option DialectFamily :=
  registry.lookup engine

/-- The names of the registered kinds in alphabetical order. -/
def typeNames (registry : Registry) : List String :=
  ([EngineType.clickhouse, .postgresql].filter fun engine => (registry.family? engine).isSome).map
    EngineType.name

/-- The kind of engine that a value names. -/
def engine? : Value → Option EngineType
  | .text name => EngineType.ofName? name
  | _ => none

/-- Register a family for a kind of engine that is given as any value. -/
def register (registry : Registry) (kind : Value) (family : DialectFamily) :
    Except RegistryError Registry :=
  match engine? kind with
  | some engine => .ok ((engine, family) :: registry)
  | none =>
      if kind.hasShortIntegers then .error (.unknownType kind.display) else .error .longNumber

/-- Make a dialect for a kind of engine that is given as any value. -/
def create (registry : Registry) (kind : Value) (options : Option DialectOptions) :
    Except RegistryError Dialect :=
  match (engine? kind).bind registry.family? with
  | none =>
      match kind.plainText? with
      | some shown => .error (.unsupportedType shown registry.typeNames)
      | none => .error .longNumber
  | some family => family.dialect options

end Registry

end QueryGateway.Sql
