/-! # Drivers

A driver reaches the databases of an engine, and may rest on a package of its own. Only packages
that are there can be used. -/

namespace PostSearch.Database

/-- How an engine is reached. -/
structure Driver where
  /-- Names of the engine. -/
  engines : List String
  /-- Names of the driver; the empty name is that of the driver taken if none is named. -/
  names : List String
  /-- The package that the driver rests on. -/
  package : String
deriving DecidableEq, Repr

namespace Driver

def known : List Driver := [
  ⟨["postgresql"], ["base", "psycopg", "psycopg_async"], "psycopg"⟩,
  ⟨["postgresql"], ["", "psycopg2"], "psycopg2"⟩,
  ⟨["postgresql"], ["psycopg2cffi"], "psycopg2cffi"⟩,
  ⟨["postgresql"], ["asyncpg"], "asyncpg"⟩,
  ⟨["postgresql"], ["pg8000"], "pg8000"⟩,
  ⟨["sqlite"], ["", "base", "pysqlite"], "sqlite3"⟩,
  ⟨["sqlite"], ["aiosqlite"], "aiosqlite"⟩,
  ⟨["sqlite"], ["pysqlcipher"], "pysqlcipher3"⟩,
  ⟨["mysql", "mariadb"], ["", "base", "mysqldb"], "MySQLdb"⟩,
  ⟨["mysql", "mariadb"], ["pymysql"], "pymysql"⟩,
  ⟨["mysql", "mariadb"], ["aiomysql"], "aiomysql"⟩,
  ⟨["mysql", "mariadb"], ["asyncmy"], "asyncmy"⟩,
  ⟨["mysql", "mariadb"], ["cymysql"], "cymysql"⟩,
  ⟨["mysql", "mariadb"], ["mariadbconnector"], "mariadb"⟩,
  ⟨["mysql", "mariadb"], ["mysqlconnector"], "mysql"⟩,
  ⟨["mysql", "mariadb"], ["pyodbc"], "pyodbc"⟩,
  ⟨["oracle"], ["", "base", "oracledb", "oracledb_async"], "oracledb"⟩,
  ⟨["oracle"], ["cx_oracle"], "cx_Oracle"⟩,
  ⟨["mssql"], ["", "base", "pyodbc"], "pyodbc"⟩,
  ⟨["mssql"], ["aioodbc"], "aioodbc"⟩,
  ⟨["mssql"], ["pymssql"], "pymssql"⟩]

/-- Packages that are there. -/
def packages : List String :=
  ["psycopg2", "sqlite3"]

/-- The driver of an engine under a name. -/
def find? (engine name : String) : Option Driver :=
  known.find? fun d => d.engines.contains engine && d.names.contains name

def isUsable (d : Driver) : Bool :=
  packages.contains d.package

end Driver

end PostSearch.Database
