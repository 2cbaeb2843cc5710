set_option autoImplicit false

namespace ReactionLedger

inductive Driver where
  -- a database in a file, with a connection that may block or one that does not
  | file (blocking : Option String)
  -- a database that is served to several hosts
  | served
  -- the module of the driver is not installed
  | absent (module : String)
deriving DecidableEq

inductive Member where
  | module (path : String)
  | type (name : String)
  | object (kind : String)
deriving DecidableEq

structure Dialect where
  name : String
  -- the class of the driver for which none is named
  main : Option String
  drivers : List (String × Driver)
  modules : List (String × String)
  types : List String
  functions : List String

namespace Dialect

def modulesOf (dialect : String) (names : List String) : List (String × String) :=
  names.map fun name => (name, "sqlalchemy.dialects." ++ dialect ++ "." ++ name)

-- the driver of a dialect for which none is named
def base : String := "base"

def sqlite : Dialect where
  name := "sqlite"
  main := some "SQLiteDialect_pysqlite"
  drivers :=
    [(base, .file (some "pysqlite")), ("pysqlite", .file (some "pysqlite")),
      ("aiosqlite", .file none), ("pysqlcipher", .absent "pysqlcipher3")]
  modules := modulesOf "sqlite" ["dml", "json"]
  types :=
    ["BLOB", "BOOLEAN", "CHAR", "DATE", "DATETIME", "DECIMAL", "FLOAT", "INTEGER", "JSON",
      "NUMERIC", "REAL", "SMALLINT", "TEXT", "TIME", "TIMESTAMP", "VARCHAR", "Insert"]
  functions := ["insert"]

def postgresql : Dialect where
  name := "postgresql"
  main := some "PGDialect_psycopg"
  drivers :=
    [(base, .absent "psycopg"), ("psycopg", .absent "psycopg"),
      ("psycopg_async", .absent "psycopg"), ("psycopg2", .absent "psycopg2"),
      ("psycopg2cffi", .absent "psycopg2cffi"), ("pg8000", .absent "pg8000"),
      ("asyncpg", .served)]
  modules :=
    ("arraylib", "sqlalchemy.dialects.postgresql.array") ::
      modulesOf "postgresql" ["_psycopg_common", "bitstring", "dml", "ext", "json", "named_types",
        "operators", "pg_catalog", "ranges", "types"]
  types :=
    ["AbstractMultiRange", "AbstractRange", "AbstractSingleRange", "aggregate_order_by", "ARRAY",
      "array", "BIGINT", "BIT", "BitString", "BOOLEAN", "BYTEA", "CHAR", "CIDR", "CITEXT",
      "CreateDomainType", "CreateEnumType", "DATE", "DATEMULTIRANGE", "DATERANGE", "DOMAIN",
      "DOUBLE", "DOUBLE_PRECISION", "DropDomainType", "DropEnumType", "ENUM", "ExcludeConstraint",
      "FLOAT", "HSTORE", "hstore", "INET", "Insert", "INT4MULTIRANGE", "INT4RANGE",
      "INT8MULTIRANGE", "INT8RANGE", "INTEGER", "INTERVAL", "JSON", "JSONB", "JSONPATH", "MACADDR",
      "MACADDR8", "MONEY", "MultiRange", "NamedType", "NUMERIC", "NUMMULTIRANGE", "NUMRANGE",
      "OID", "phraseto_tsquery", "plainto_tsquery", "Range", "REAL", "REGCLASS", "REGCONFIG",
      "SMALLINT", "TEXT", "TIME", "TIMESTAMP", "to_tsquery", "to_tsvector", "ts_headline",
      "TSMULTIRANGE", "TSQUERY", "TSRANGE", "TSTZMULTIRANGE", "TSTZRANGE", "TSVECTOR", "UUID",
      "VARCHAR", "websearch_to_tsquery"]
  functions := ["All", "Any", "array_agg", "insert"]

def mysqlDrivers : List (String × Driver) :=
  [(base, .absent "MySQLdb"), ("mysqldb", .absent "MySQLdb"), ("pymysql", .absent "pymysql"),
    ("cymysql", .absent "cymysql"), ("pyodbc", .absent "pyodbc"),
    ("mysqlconnector", .absent "mysql"), ("mariadbconnector", .absent "mariadb"),
    ("aiomysql", .absent "aiomysql"), ("asyncmy", .absent "asyncmy")]

def mysqlModules : List (String × String) :=
  modulesOf "mysql" ["dml", "enumerated", "expression", "json", "mariadb", "reflection",
    "reserved_words", "types"]

def mysql : Dialect where
  name := "mysql"
  main := some "MySQLDialect_mysqldb"
  drivers := mysqlDrivers
  modules := mysqlModules
  types :=
    ["BIGINT", "BINARY", "BIT", "BLOB", "BOOLEAN", "CHAR", "DATE", "DATETIME", "DECIMAL", "DOUBLE",
      "ENUM", "FLOAT", "INET4", "INET6", "Insert", "INTEGER", "JSON", "LONGBLOB", "LONGTEXT",
      "match", "MEDIUMBLOB", "MEDIUMINT", "MEDIUMTEXT", "NCHAR", "NUMERIC", "NVARCHAR", "REAL",
      "SET", "SMALLINT", "TEXT", "TIME", "TIMESTAMP", "TINYBLOB", "TINYINT", "TINYTEXT",
      "VARBINARY", "VARCHAR", "YEAR"]
  functions := ["insert"]

-- takes the modules of the dialect it descends from, and none of its other members
def mariadb : Dialect := ⟨"mariadb", none, mysqlDrivers, mysqlModules, [], []⟩

def mssql : Dialect where
  name := "mssql"
  main := some "MSDialect_pyodbc"
  drivers :=
    [(base, .absent "pyodbc"), ("pyodbc", .absent "pyodbc"), ("aioodbc", .absent "aioodbc"),
      ("pymssql", .absent "pymssql"), ("mssqlpython", .absent "mssql_python")]
  modules := modulesOf "mssql" ["information_schema", "json"]
  types :=
    ["BIGINT", "BINARY", "BIT", "CHAR", "DATE", "DATETIME", "DATETIME2", "DATETIMEOFFSET",
      "DECIMAL", "DOUBLE_PRECISION", "FLOAT", "IMAGE", "INTEGER", "JSON", "MONEY", "NCHAR",
      "NTEXT", "NUMERIC", "NVARCHAR", "REAL", "ROWVERSION", "SMALLDATETIME", "SMALLINT",
      "SMALLMONEY", "SQL_VARIANT", "TEXT", "TIME", "TIMESTAMP", "TINYINT", "UNIQUEIDENTIFIER",
      "VARBINARY", "VARCHAR", "XML"]
  functions := ["try_cast"]

def oracle : Dialect where
  name := "oracle"
  main := some "OracleDialect_oracledb"
  drivers :=
    [(base, .absent "oracledb"), ("oracledb", .absent "oracledb"),
      ("oracledb_async", .absent "oracledb"), ("cx_oracle", .absent "cx_Oracle")]
  modules := modulesOf "oracle" ["dictionary", "types", "vector"]
  types :=
    ["BFILE", "BINARY_DOUBLE", "BINARY_FLOAT", "BLOB", "CHAR", "CLOB", "DATE", "DOUBLE_PRECISION",
      "FLOAT", "INTERVAL", "LONG", "NCHAR", "NCLOB", "NUMBER", "NVARCHAR", "NVARCHAR2", "RAW",
      "REAL", "ROWID", "TIMESTAMP", "VARCHAR", "VARCHAR2", "VECTOR"]
  functions := []

def all : List Dialect := [sqlite, postgresql, mysql, mariadb, mssql, oracle]

def attributes : List (String × String) :=
  [("__all__", "tuple"), ("__builtins__", "dict"), ("__cached__", "str"), ("__dict__", "dict"),
    ("__doc__", "NoneType"), ("__file__", "str"), ("__loader__", "SourceFileLoader"),
    ("__name__", "str"), ("__package__", "str"), ("__path__", "list"), ("__spec__", "ModuleSpec")]

def member? (d : Dialect) (name : String) : Option Member :=
  match d.modules.lookup name, d.main with
  | some path, _ => some (.module path)
  | none, none => none
  | none, some main =>
    if name = "dialect" then some (.type main)
    else if name ∈ d.types then some (.type name)
    else if name ∈ d.functions then some (.object "function")
    else (attributes.lookup name).map .object

end Dialect

namespace Member

def text : Member → String
  | .module path => "module '" ++ path ++ "'"
  | .type name => "type object '" ++ name ++ "'"
  | .object kind => "'" ++ kind ++ "' object"

end Member

namespace Driver

inductive Fault where
  | manyParts
  | unknown (name : String)
  | noDriver (member : Member)
  | absent (module : String)
deriving DecidableEq

def Fault.message : Fault → String
  | .manyParts => "too many values to unpack (expected 2)"
  | .unknown name => "Can't load plugin: sqlalchemy.dialects:" ++ name
  | .noDriver member => member.text ++ " has no attribute 'dialect'"
  | .absent module => "No module named '" ++ module ++ "'"

def find (name : String) : Except Fault Driver :=
  let (dialect, driver) := match name.splitOn "+" with
    | [dialect, driver] => (dialect, driver)
    | _ => (name, Dialect.base)
  let unknown : Except Fault Driver := .error (.unknown (name.replace "+" "."))
  if name.toList.count '+' > 1 then .error .manyParts
  else
    match Dialect.all.find? fun d => d.name == dialect with
    | none => unknown
    | some d =>
      match d.drivers.lookup driver, d.member? driver with
      | some found, _ => .ok found
      | none, some member => .error (.noDriver member)
      | none, none => unknown

end Driver

end ReactionLedger
