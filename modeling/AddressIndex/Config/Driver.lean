import AddressIndex.Config.DatabaseUrl
import AddressIndex.Config.Dialect

/-!
Drivers of databases. The service keeps its database in a file, so a URL opens one only if its
driver does that, no server is named and the options can be read.
-/

namespace AddressIndex

/-- What a driver's name comes to. -/
inductive Driver where
  /-- Opens files. -/
  | file
  /-- Needs a library that the service does not have. -/
  | missing (library : String)
deriving DecidableEq, Repr

namespace Driver

/-- The kind of database that the service has. -/
def fileDialect : String := "sqlite"

/-- The kind of a database and a driver's name, for the drivers that open files. -/
def files : List (String × String) := [("sqlite", "base"), ("sqlite", "pysqlite")]

/-- The kind of a database, a driver's name and the library that it needs. -/
def libraries : List (String × String × String) := [
  ("sqlite", "aiosqlite", "aiosqlite"), ("sqlite", "pysqlcipher", "pysqlcipher3"),
  ("postgresql", "base", "psycopg"), ("postgresql", "psycopg2", "psycopg2"),
  ("postgresql", "psycopg", "psycopg"), ("postgresql", "psycopg_async", "psycopg"),
  ("postgresql", "asyncpg", "asyncpg"), ("postgresql", "pg8000", "pg8000"),
  ("postgresql", "psycopg2cffi", "psycopg2cffi"), ("mysql", "base", "MySQLdb"),
  ("mysql", "mysqldb", "MySQLdb"), ("mysql", "pymysql", "pymysql"),
  ("mysql", "aiomysql", "aiomysql"), ("mysql", "asyncmy", "asyncmy"),
  ("mysql", "cymysql", "cymysql"), ("mysql", "mysqlconnector", "mysql"),
  ("mysql", "mariadbconnector", "mariadb"), ("mysql", "pyodbc", "pyodbc"),
  ("mssql", "base", "pyodbc"), ("mssql", "pyodbc", "pyodbc"), ("mssql", "pymssql", "pymssql"),
  ("mssql", "aioodbc", "aioodbc"), ("mssql", "mssqlpython", "mssql_python"),
  ("oracle", "base", "oracledb"), ("oracle", "cx_oracle", "cx_Oracle"),
  ("oracle", "oracledb", "oracledb"), ("oracle", "oracledb_async", "oracledb")]

/-- The driver that a name with a plus sign, or without one, names. -/
def ofName (name : List Char) : Except DatabaseFault Driver :=
  let parts := (Text.split '+' name).map String.ofList
  let unknown : DatabaseFault :=
    .unknownDriver (String.ofList (name.map fun c => if c = '+' then '.' else c))
  let find (dialect driver : String) : Except DatabaseFault Driver :=
    if files.contains (dialect, driver) then pure .file
    else match libraries.find? fun p => p.1 = Dialect.family dialect && p.2.1 = driver with
      | some (_, _, library) => pure (.missing library)
      | none => throw (((Dialect.other? dialect driver).map .noDriver).getD unknown)
  match parts with
  | [dialect] => find dialect "base"
  | [dialect, driver] => find dialect driver
  | _ => throw .manyParts

end Driver

namespace DatabaseUrl

/-! ### Options -/

def optionTypes : List (String × OptionType) := [
  ("uri", .flag), ("timeout", .decimal), ("detect_types", .integer), ("check_same_thread", .flag),
  ("cached_statements", .integer)]

/-- The options that are not passed on with the file. -/
def ownOptions : List String := "isolation_level" :: optionTypes.map (·.1)

/-- The truth value that a word means. -/
def readFlag (s : String) : Except DatabaseFault Bool :=
  let word := Text.lower (Text.trim s)
  if ["true", "yes", "on", "y", "t", "1"].contains word then pure true
  else if ["false", "no", "off", "n", "f", "0"].contains word then pure false
  else throw (.badFlag word)

/-- Checks an option. A flag that is given several times is set. -/
def checkOption (type : OptionType) : List String → Except DatabaseFault Unit
  | [value] =>
    match type with
    | .flag => discard (readFlag value)
    | .decimal => discard ((Text.readFloat value).mapError .badOption)
    | .integer => discard ((Text.readInt value).mapError .badOption)
  | _ =>
    match type with
    | .flag => pure ()
    | type => throw (.repeatedOption type)

def values (url : DatabaseUrl) (name : String) : List String :=
  (url.options.lookup name).getD []

/-- Checks the options. Those that the service does not know are passed on with the file. -/
def checkOptions (url : DatabaseUrl) : Except DatabaseFault Unit := do
  for (name, type) in optionTypes do
    let values := url.values name
    if !values.isEmpty then checkOption type values
  let passed := match url.values "uri" with
    | [] => false
    | [value] => (readFlag value).toOption.getD false
    | _ => true
  if passed && url.file.isNone && url.options.any fun p => !ownOptions.contains p.1 then
    throw .noFile

/-! ### Checking -/

def namesServer (url : DatabaseUrl) : Bool :=
  (url.user.getD [] ≠ []) || (url.password.getD [] ≠ []) || url.host.isSome || url.number.getD 0 ≠ 0

/-- A URL without an option. -/
def withoutOption (url : DatabaseUrl) (name : String) : DatabaseUrl :=
  { url with options := url.options.filter (·.1 ≠ name) }

/-- Checks a URL; tells the kind of its database. -/
def dialect (text : String) : Except DatabaseFault String := do
  let url ← read text
  if let name :: _ := url.values "plugin" then throw (.unknownPlugin name)
  let url := url.withoutOption "plugins"
  match ← Driver.ofName url.driver with
  | .missing library => throw (.missingDriver library)
  | .file => pure ()
  if url.namesServer then throw (.server url.shown)
  url.checkOptions
  pure Driver.fileDialect

end DatabaseUrl

end AddressIndex
