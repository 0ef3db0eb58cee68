/-!
Kinds of databases. A kind has more under its names than drivers: the parts that its drivers are
made of, the types of its columns, and functions. A URL may name one of these where a driver
belongs.
-/

namespace AddressIndex.Dialect

/-- The kind of database whose parts a kind has. -/
def family (dialect : String) : String := if dialect = "mariadb" then "mysql" else dialect

/-- The parts of a kind that are no drivers. -/
def modules : List (String × List String) := [
  ("sqlite", ["dml", "json"]),
  ("mysql", [
    "_mariadb_shim", "dml", "enumerated", "expression", "json", "mariadb", "reflection",
    "reserved_words", "types"]),
  ("postgresql", [
    "_psycopg_common", "bitstring", "dml", "ext", "json", "named_types", "operators", "pg_catalog",
    "ranges", "types"]),
  ("mssql", ["information_schema", "json"]),
  ("oracle", ["dictionary", "types", "vector"])]

/-- The types of a kind. -/
def types : List (String × List String) := [
  ("sqlite", [
    "BLOB", "BOOLEAN", "CHAR", "DATE", "DATETIME", "DECIMAL", "FLOAT", "INTEGER", "JSON", "NUMERIC",
    "REAL", "SMALLINT", "TEXT", "TIME", "TIMESTAMP", "VARCHAR", "Insert"]),
  ("mysql", [
    "BIGINT", "BINARY", "BIT", "BLOB", "BOOLEAN", "CHAR", "DATE", "DATETIME", "DECIMAL", "DOUBLE",
    "ENUM", "FLOAT", "INTEGER", "JSON", "LONGBLOB", "LONGTEXT", "MEDIUMBLOB", "MEDIUMINT",
    "MEDIUMTEXT", "NCHAR", "NUMERIC", "NVARCHAR", "REAL", "SET", "SMALLINT", "TEXT", "TIME",
    "TIMESTAMP", "TINYBLOB", "TINYINT", "TINYTEXT", "VARBINARY", "VARCHAR", "YEAR", "INET4",
    "INET6", "Insert", "match"]),
  ("postgresql", [
    "ARRAY", "BIGINT", "BIT", "BOOLEAN", "BYTEA", "CHAR", "CIDR", "CITEXT", "DATE",
    "DATEMULTIRANGE", "DATERANGE", "DOMAIN", "DOUBLE_PRECISION", "ENUM", "FLOAT", "HSTORE", "INET",
    "INT4MULTIRANGE", "INT4RANGE", "INT8MULTIRANGE", "INT8RANGE", "INTEGER", "INTERVAL", "JSON",
    "JSONB", "JSONPATH", "MACADDR", "MACADDR8", "MONEY", "NUMERIC", "NUMMULTIRANGE", "NUMRANGE",
    "OID", "REAL", "REGCLASS", "REGCONFIG", "SMALLINT", "TEXT", "TIME", "TIMESTAMP", "TSMULTIRANGE",
    "TSQUERY", "TSRANGE", "TSTZMULTIRANGE", "TSTZRANGE", "TSVECTOR", "UUID", "VARCHAR", "BitString",
    "CreateDomainType", "CreateEnumType", "DropDomainType", "DropEnumType", "ExcludeConstraint",
    "Insert", "MultiRange", "NamedType", "Range", "aggregate_order_by", "array", "hstore",
    "phraseto_tsquery", "plainto_tsquery", "to_tsquery", "to_tsvector", "ts_headline",
    "websearch_to_tsquery"]),
  ("mssql", [
    "BIGINT", "BINARY", "BIT", "CHAR", "DATE", "DATETIME", "DATETIME2", "DATETIMEOFFSET", "DECIMAL",
    "DOUBLE_PRECISION", "FLOAT", "IMAGE", "INTEGER", "JSON", "MONEY", "NCHAR", "NTEXT", "NUMERIC",
    "NVARCHAR", "REAL", "ROWVERSION", "SMALLDATETIME", "SMALLINT", "SMALLMONEY", "SQL_VARIANT",
    "TEXT", "TIME", "TIMESTAMP", "TINYINT", "UNIQUEIDENTIFIER", "VARBINARY", "VARCHAR", "XML"]),
  ("oracle", [
    "BFILE", "BINARY_DOUBLE", "BINARY_FLOAT", "BLOB", "CHAR", "CLOB", "DATE", "DOUBLE_PRECISION",
    "FLOAT", "INTERVAL", "LONG", "NCHAR", "NCLOB", "NUMBER", "NVARCHAR", "NVARCHAR2", "RAW", "REAL",
    "ROWID", "TIMESTAMP", "VARCHAR", "VARCHAR2", "VECTOR"])]

/-- The functions of a kind. -/
def functions : List (String × List String) := [
  ("sqlite", ["insert"]), ("mysql", ["insert", "limit"]),
  ("postgresql", ["All", "Any", "array_agg", "distinct_on", "insert"]), ("mssql", ["try_cast"])]

/-- The types of a kind that have another name there. -/
def renamedTypes : List (String × String × String) := [
  ("sqlite", "dialect", "SQLiteDialect_pysqlite"), ("mysql", "dialect", "MySQLDialect_mysqldb"),
  ("postgresql", "dialect", "PGDialect_psycopg"), ("mssql", "dialect", "MSDialect_pyodbc"),
  ("oracle", "dialect", "OracleDialect_oracledb"), ("postgresql", "ModuleType", "module"),
  ("oracle", "ModuleType", "module")]

/-- The values that each kind has. -/
def values : List (String × String) := [
  ("__all__", "tuple"), ("__builtins__", "dict"), ("__cached__", "str"), ("__dict__", "dict"),
  ("__doc__", "NoneType"), ("__file__", "str"), ("__loader__", "SourceFileLoader"),
  ("__name__", "str"), ("__package__", "str"), ("__path__", "list"), ("__spec__", "ModuleSpec")]

def has (table : List (String × List String)) (dialect name : String) : Bool :=
  ((table.lookup dialect).getD []).contains name

/-- A part of a kind, in words. -/
def moduleWord (dialect name : String) : String :=
  "module 'sqlalchemy.dialects." ++ dialect ++ "." ++ name ++ "'"

def typeWord (name : String) : String := "type object '" ++ name ++ "'"

def valueWord (type : String) : String := "'" ++ type ++ "' object"

/-- What a kind has under a name that is no driver, in words. MariaDB has only the parts of another
kind under the names of that one. -/
def other? (dialect name : String) : Option String :=
  if dialect = "mariadb" then
    if has modules (family dialect) name || name = "provision" then
      some (moduleWord (family dialect) name)
    else none
  else if has modules dialect name then some (moduleWord dialect name)
  else if (dialect, name) = ("postgresql", "arraylib") then some (moduleWord dialect "array")
  else if has types dialect name then some (typeWord name)
  else if has functions dialect name then some (valueWord "function")
  else match renamedTypes.find? fun p => p.1 = dialect && p.2.1 = name with
    | some (_, _, type) => some (typeWord type)
    | none => if (types.lookup dialect).isSome then (values.lookup name).map valueWord else none

end AddressIndex.Dialect
