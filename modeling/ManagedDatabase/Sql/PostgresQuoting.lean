/-
Names and texts inside PostgreSQL statements. A name stands bare if it is a word of lower case
letters, digits and underscores that starts with no digit and is no keyword, and otherwise in double
quotes, where a double quote is written twice. A text stands in single quotes, where a quote is
written twice; a text with a backslash has the mark for escapes in front and its backslashes twice.
-/
import ManagedDatabase.Sql.Doubling

namespace ManagedDatabase.Sql.Postgres

/-- Words that are never written bare. -/
def keywords : List String := [
  "all", "analyse", "analyze", "and", "any", "array", "as", "asc", "asymmetric", "authorization",
  "between", "bigint", "binary", "bit", "boolean", "both", "case", "cast", "char", "character",
  "check", "coalesce", "collate", "collation", "column", "concurrently", "constraint", "create",
  "cross", "current_catalog", "current_date", "current_role", "current_schema", "current_time",
  "current_timestamp", "current_user", "dec", "decimal", "default", "deferrable", "desc",
  "distinct", "do", "else", "end", "except", "exists", "extract", "false", "fetch", "float", "for",
  "foreign", "freeze", "from", "full", "grant", "greatest", "group", "grouping", "having", "ilike",
  "in", "initially", "inner", "inout", "int", "integer", "intersect", "interval", "into", "is",
  "isnull", "join", "json", "json_array", "json_arrayagg", "json_exists", "json_object",
  "json_objectagg", "json_query", "json_scalar", "json_serialize", "json_table", "json_value",
  "lateral", "leading", "least", "left", "like", "limit", "localtime", "localtimestamp",
  "merge_action", "national", "natural", "nchar", "none", "normalize", "not", "notnull", "null",
  "nullif", "numeric", "offset", "on", "only", "or", "order", "out", "outer", "overlaps", "overlay",
  "placing", "position", "precision", "primary", "real", "references", "returning", "right", "row",
  "select", "session_user", "setof", "similar", "smallint", "some", "substring", "symmetric",
  "system_user", "table", "tablesample", "then", "time", "timestamp", "to", "trailing", "treat",
  "trim", "true", "union", "unique", "user", "using", "values", "varchar", "variadic", "verbose",
  "when", "where", "window", "with", "xmlattributes", "xmlconcat", "xmlelement", "xmlexists",
  "xmlforest", "xmlnamespaces", "xmlparse", "xmlpi", "xmlroot", "xmlserialize", "xmltable"]

/-- Whether a character may start a bare word. -/
def startsWord (c : Char) : Bool := ('a' ≤ c && c ≤ 'z') || c = '_'

/-- Whether a character may stand in a bare word. -/
def inWord (c : Char) : Bool := startsWord c || ('0' ≤ c && c ≤ '9')

/-- Whether a name stands bare; the empty name does. -/
def isBare (name : List Char) : Bool :=
  match name with
  | [] => true
  | c :: cs => startsWord c && cs.all inWord && !keywords.contains (String.ofList name)

/-- A name as it stands in a statement. -/
def identifier (name : List Char) : List Char :=
  if isBare name then name else '\x22' :: (doubled (· == '\x22') name ++ ['\x22'])

/-- A text as it stands in a statement. -/
def literal (value : List Char) : List Char :=
  let quoted := '\x27' :: (doubled (fun c => c == '\x27' || c == '\\') value ++ ['\x27'])
  if value.contains '\\' then 'E' :: quoted else quoted

end ManagedDatabase.Sql.Postgres
