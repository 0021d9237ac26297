import SqlGateway.Sql.Parser.Property

/-!
# Rights

Statements that give rights, take them away or withhold them: which rights, on what, and whose.
-/

namespace SqlGateway.Sql.Parser

/-! ### Which rights -/

/-- The rights that are given by their words alone. -/
def plainRights : List (List String) :=
  [["IMPORTED", "PRIVILEGES"], ["ADD", "SEARCH", "OPTIMIZATION"], ["ATTACH", "LISTING"],
    ["ATTACH", "POLICY"], ["BIND", "SERVICE", "ENDPOINT"], ["EVOLVE", "SCHEMA"],
    ["IMPORT", "SHARE"], ["MANAGE", "VERSIONS"], ["MANAGE", "RELEASES"],
    ["OVERRIDE", "SHARE", "RESTRICTIONS"], ["PURCHASE", "DATA", "EXCHANGE", "LISTING"],
    ["RESOLVE", "ALL"], ["READ", "SESSION"], ["APPLYBUDGET"], ["AUDIT"], ["CONNECT"], ["DELETE"],
    ["DROP"], ["FAILOVER"], ["OPERATE"], ["OWNERSHIP"], ["READ"], ["REPLICATE"], ["TEMPORARY"],
    ["TRIGGER"], ["TRUNCATE"], ["USAGE"]]

/-- The kinds of rules that may be applied. -/
def appliedRules : List (List String) :=
  [["AGGREGATION", "POLICY"], ["AUTHENTICATION", "POLICY"], ["JOIN", "POLICY"],
    ["MASKING", "POLICY"], ["PACKAGES", "POLICY"], ["PASSWORD", "POLICY"], ["PROJECTION", "POLICY"],
    ["ROW", "ACCESS", "POLICY"], ["SESSION", "POLICY"], ["TAG"]]

/-- The kinds of things that may be created. -/
def createdKinds : List (List String) :=
  [["APPLICATION", "PACKAGE"], ["COMPUTE", "POOL"], ["DATA", "EXCHANGE", "LISTING"],
    ["EXTERNAL", "VOLUME"], ["FAILOVER", "GROUP"], ["NETWORK", "POLICY"],
    ["ORGANIZATION", "LISTING"], ["REPLICATION", "GROUP"], ["ACCOUNT"], ["APPLICATION"],
    ["DATABASE"], ["INTEGRATION"], ["ROLE"], ["SCHEMA"], ["SHARE"], ["USER"], ["WAREHOUSE"]]

/-- The kinds of things that may be run. -/
def executedKinds : List (List String) :=
  [["DATA", "METRIC", "FUNCTION"], ["MANAGED", "ALERT"], ["MANAGED", "TASK"], ["ALERT"], ["TASK"]]

/-- The kinds of things that may be managed. -/
def managedKinds : List (List String) :=
  [["ACCOUNT", "SUPPORT", "CASES"], ["EVENT", "SHARING"], ["LISTING", "AUTO", "FULFILLMENT"],
    ["GRANTS"], ["WAREHOUSES"]]

/-- The kinds of things that may be modified. -/
def modifiedKinds : List (List String) :=
  [["LOG", "LEVEL"], ["TRACE", "LEVEL"], ["SESSION", "LOG", "LEVEL"], ["SESSION", "TRACE", "LEVEL"]]

/-- A right.  Some may be narrowed to columns, and some to a kind of things. -/
def right : Parser Unit := do
  if ← anyOfKeywords? plainRights then return
  else if ← anyOfKeywords? [["DATABASE", "ROLE"], ["ROLE"]] then discard objectName
  else
    match ← oneOf ["SELECT", "INSERT", "UPDATE", "REFERENCES", "APPLY", "CREATE", "EXEC", "EXECUTE",
      "MANAGE", "MODIFY", "MONITOR"] with
    | "APPLY" => anyOfKeywords appliedRules
    | "CREATE" => discard (anyOfKeywords? createdKinds)
    | "EXEC" => discard (anyOfKeywords? executedKinds)
    | "EXECUTE" => discard (anyOfKeywords? executedKinds)
    | "MANAGE" => anyOfKeywords managedKinds
    | "MODIFY" => discard (anyOfKeywords? modifiedKinds)
    | "MONITOR" => discard (anyOfKeywords? [["EXECUTION"], ["SECURITY"], ["USAGE"]])
    | _ => discard (optionalColumns false)

/-- The rights that are spoken of. -/
def rights : Parser Unit := do
  if ← keyword? "ALL" then discard (keyword? "PRIVILEGES") else discard (commaList right)

/-! ### What the rights are on -/

/-- A name in which a star stands for all. -/
def namePattern : Parser Unit := do
  let part : Parser Unit := do
    if ← symbol? "*" then return else discard ident
  part
  discard (many do
    if ← symbol? "." then some <$> part else return none)

/-- The words for groups of things, behind which plain names stand. -/
def thingGroups : List (List String) :=
  [["ALL", "TABLES", "IN", "SCHEMA"], ["ALL", "EXTERNAL", "TABLES", "IN", "SCHEMA"],
    ["ALL", "VIEWS", "IN", "SCHEMA"], ["ALL", "MATERIALIZED", "VIEWS", "IN", "SCHEMA"],
    ["ALL", "FUNCTIONS", "IN", "SCHEMA"], ["FUTURE", "SCHEMAS", "IN", "DATABASE"],
    ["FUTURE", "TABLES", "IN", "SCHEMA"], ["FUTURE", "EXTERNAL", "TABLES", "IN", "SCHEMA"],
    ["FUTURE", "VIEWS", "IN", "SCHEMA"], ["FUTURE", "MATERIALIZED", "VIEWS", "IN", "SCHEMA"],
    ["ALL", "SEQUENCES", "IN", "SCHEMA"], ["FUTURE", "SEQUENCES", "IN", "SCHEMA"],
    ["RESOURCE", "MONITOR"], ["COMPUTE", "POOL"], ["FAILOVER", "GROUP"], ["REPLICATION", "GROUP"],
    ["EXTERNAL", "VOLUME"]]

/-- The things that rights are on. -/
def things : Parser Unit := do
  if ← anyOfKeywords? thingGroups then objectNames
  else
    let kind ← oneOf? ["SEQUENCE", "DATABASE", "SCHEMA", "TABLE", "VIEW", "WAREHOUSE",
      "INTEGRATION", "USER", "CONNECTION", "PROCEDURE", "FUNCTION"]
    discard (commaList namePattern)
    if kind = some "PROCEDURE" || kind = some "FUNCTION" then
      if ← nextIsSymbol "(" then listInParens (discard dataType)

/-! ### Whose rights -/

/-- The words for the kinds of those who have rights. -/
def holderKinds : List (List String) :=
  [["ROLE"], ["USER"], ["SHARE"], ["GROUP"], ["DATABASE", "ROLE"], ["APPLICATION", "ROLE"],
    ["APPLICATION"]]

/-- At most `rounds` of those who have rights.  Their kind holds until another is given; the public
has no name. -/
def holdersWithin : Nat → Bool → Parser Unit
  | 0, _ => tooDeep
  | rounds + 1, wasPublic => do
    let isPublic ←
      if ← anyOfKeywords? holderKinds then pure false
      else if ← keyword? "PUBLIC" then pure true
      else pure wasPublic
    if !isPublic then
      accountName
      if ← symbol? ":" then discard ident
    if ← symbol? "," then holdersWithin rounds isPublic

/-- Those who have rights. -/
def holders : Parser Unit := do
  holdersWithin ((← get).length + 1) false

/-! ### Statements -/

/-- `GRANT`, after the word. -/
def grantCommand : Parser Unit := do
  rights
  discard (clause? ["ON"] things)
  keyword "TO"
  holders
  discard (anyOfKeywords? [["WITH", "GRANT", "OPTION"]])
  discard (anyOfKeywords? [["COPY", "CURRENT", "GRANTS"], ["REVOKE", "CURRENT", "GRANTS"]])
  discard (clause? ["AS"] ident)
  discard (clause? ["GRANTED", "BY"] ident)

/-- `REVOKE`, after the word. -/
def revokeCommand : Parser Unit := do
  rights
  discard (clause? ["ON"] things)
  keyword "FROM"
  holders
  discard (clause? ["GRANTED", "BY"] ident)
  removalReach

/-- `DENY`, after the word. -/
def denyCommand : Parser Unit := do
  rights
  keyword "ON"
  things
  keyword "TO"
  holders
  removalReach
  discard (clause? ["AS"] ident)

end SqlGateway.Sql.Parser
