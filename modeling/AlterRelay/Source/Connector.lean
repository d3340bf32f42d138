/-
# AlterRelay.Source.Connector — the databases a change can come from

A connector is named in lowercase. Its name is read in any ASCII case with
blanks around it, and PostgreSQL also has a longer name.
-/
import AlterRelay.Text.Blank

namespace AlterRelay.Source

open AlterRelay.Text

set_option autoImplicit false

/-- The systems that statements come from. -/
inductive Connector where
  | mysql
  | oracle
  | postgres
  | sqlServer
  | mongoDb
  | db2
  deriving DecidableEq, Repr

namespace Connector

def name : Connector → String
  | mysql => "mysql"
  | oracle => "oracle"
  | postgres => "postgres"
  | sqlServer => "sqlserver"
  | mongoDb => "mongodb"
  | db2 => "db2"

/-- The name that the log shows. -/
def label : Connector → String
  | mysql => "Mysql"
  | oracle => "Oracle"
  | postgres => "Postgres"
  | sqlServer => "SqlServer"
  | mongoDb => "MongoDb"
  | db2 => "Db2"

def all : List Connector := [mysql, oracle, postgres, sqlServer, mongoDb, db2]

def named : List (String × Connector) := all.map fun connector => (connector.name, connector)

def ofText? (text : String) : Option Connector :=
  (("postgresql", postgres) :: named).lookup (String.ofList (trimBlank text.toList)).toLower

end Connector

end AlterRelay.Source
