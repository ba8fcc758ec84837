import QueryGateway.Sql.Dialect
import QueryGateway.Value.Display

/-!
# Type names

How the type of a result column is called.  A driver describes it by a code:
PostgreSQL by the number of a built-in type or of the type of arrays of it,
other drivers by a name, a type or nothing.
-/

namespace QueryGateway.Sql

/-- The built-in types of PostgreSQL with their two numbers: one for the type itself and one for
arrays of it. -/
def postgresTypes : List (String × Int × Int) := [
    ("bool", 16, 1000), ("bytea", 17, 1001), ("\"char\"", 18, 1002), ("name", 19, 1003),
    ("int8", 20, 1016), ("int2", 21, 1005), ("int2vector", 22, 1006), ("int4", 23, 1007),
    ("regproc", 24, 1008), ("text", 25, 1009), ("oid", 26, 1028), ("tid", 27, 1010),
    ("xid", 28, 1011), ("cid", 29, 1012), ("oidvector", 30, 1013), ("json", 114, 199),
    ("xml", 142, 143), ("xid8", 271, 5069), ("point", 600, 1017), ("lseg", 601, 1018),
    ("path", 602, 1019), ("box", 603, 1020), ("polygon", 604, 1027), ("line", 628, 629),
    ("cidr", 650, 651), ("float4", 700, 1021), ("float8", 701, 1022), ("circle", 718, 719),
    ("macaddr8", 774, 775), ("money", 790, 791), ("macaddr", 829, 1040), ("inet", 869, 1041),
    ("bpchar", 1014, 1042), ("varchar", 1015, 1043), ("aclitem", 1033, 1034), ("date", 1082, 1182),
    ("time", 1083, 1183), ("timestamp", 1114, 1115), ("timestamptz", 1184, 1185),
    ("interval", 1186, 1187), ("numeric", 1231, 1700), ("timetz", 1266, 1270), ("bit", 1560, 1561),
    ("varbit", 1562, 1563), ("refcursor", 1790, 2201), ("regprocedure", 2202, 2207),
    ("regoper", 2203, 2208), ("regoperator", 2204, 2209), ("regclass", 2205, 2210),
    ("regtype", 2206, 2211), ("record", 2249, 2287), ("txid_snapshot", 2949, 2970),
    ("uuid", 2950, 2951), ("pg_lsn", 3220, 3221), ("tsvector", 3614, 3643), ("tsquery", 3615, 3645),
    ("gtsvector", 3642, 3644), ("regconfig", 3734, 3735), ("regdictionary", 3769, 3770),
    ("jsonb", 3802, 3807), ("int4range", 3904, 3905), ("numrange", 3906, 3907),
    ("tsrange", 3908, 3909), ("tstzrange", 3910, 3911), ("daterange", 3912, 3913),
    ("int8range", 3926, 3927), ("jsonpath", 4072, 4073), ("regnamespace", 4089, 4090),
    ("regrole", 4096, 4097), ("regcollation", 4191, 4192), ("int4multirange", 4451, 6150),
    ("nummultirange", 4532, 6151), ("tsmultirange", 4533, 6152), ("tstzmultirange", 4534, 6153),
    ("datemultirange", 4535, 6155), ("int8multirange", 4536, 6157)
  ]

/-- The name of a built-in type of PostgreSQL; an array goes by the name of its elements. -/
def postgresTypeName? (code : Int) : Option String :=
  (postgresTypes.find? fun (_, number, other) => number = code || other = code).map (·.1)

/-- The name of a type that is described by a code of any kind, unless a number in the code is too
long to be written. -/
def plainTypeName? : Value → Option String
  | .null => some "UNKNOWN"
  | .typeName name => some name
  | code => code.plainText?

/-- The name of the type of a column. -/
def Dialect.columnTypeName? : Dialect → Value → Option String
  | .postgres, .int code => (postgresTypeName? code).or (plainTypeName? (.int code))
  | _, code => plainTypeName? code

end QueryGateway.Sql
