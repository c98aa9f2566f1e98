import TextToSql.Domain.Lines
import TextToSql.Infrastructure.ReferenceSchema
import TextToSql.Llm.Prompt
import TextToSql.Semantic.Dates

namespace TextToSql.Llm.Fake

open Domain Semantic Library.Backtracking

def numberWords : List (String × ℕ) :=
  [("one", 1), ("two", 2), ("three", 3), ("four", 4), ("five", 5), ("six", 6), ("seven", 7),
    ("eight", 8), ("nine", 9), ("ten", 10), ("twenty", 20)]

def entityTables : List (String × String) :=
  [("product", "products"), ("customer", "customers"), ("account", "customers"),
    ("order", "orders"), ("user", "users"), ("region", "regions"), ("payment", "payments"),
    ("refund", "refunds"), ("subscription", "subscriptions"), ("ticket", "support_tickets"),
    ("organization", "organizations")]

def statusValues : List String :=
  ["open", "pending", "closed", "paid", "shipped", "refunded", "cancelled", "active", "canceled",
    "past_due", "succeeded", "failed"]

def defaultDateFields : List (String × String) :=
  [("orders", "ordered_at"), ("order_items", "ordered_at"), ("payments", "paid_at"),
    ("refunds", "refunded_at"), ("subscriptions", "started_at"), ("support_tickets", "created_at"),
    ("users", "created_at"), ("customers", "created_at")]

section Words

variable (py : Python) (cc : CharClasses)

def normalizeQuestion (question : String) : String :=
  String.ofList (collapse (py.lower question).toList)

/-- `\btop\s+…\b`. -/
def topPattern (m : Matcher Char (List Char)) : Matcher Char (List Char) :=
  cc.bounded ((Matcher.literal "top".toList).seq fun _ ↦ (Matcher.many1 isSpace).seq fun _ ↦ m)

def extractLimit (text : String) (default : ℕ) : ℕ :=
  match search (topPattern cc (Matcher.many1 cc.isDecimal)) text.toList with
  | some (_, digits, _) => cc.int digits
  | none =>
    match numberWords.find? fun entry ↦
        (search (topPattern cc (Matcher.literal entry.1.toList)) text.toList).isSome with
    | some entry => entry.2
    | none => default

/-- `\b{keyword}s?\b`. -/
def keywordPattern (keyword : String) : Matcher Char (List Char) :=
  cc.bounded ((Matcher.literal keyword.toList).seq fun _ ↦ Matcher.upTo (· == 's') 1)

def detectEntityTable (schema : DatabaseSchema) (q : String) : Option String :=
  (entityTables.find? fun entry ↦
    (search (keywordPattern cc entry.1) q.toList).isSome && (schema.table py entry.2).isSome).map
      Prod.snd

def isStatusChar (c : Char) : Bool := ('a' ≤ c && c ≤ 'z') || c == '_'

def detectStatus (q : String) : Option String :=
  ((q.toList.splitOnP fun c ↦ !isStatusChar c).map String.ofList).find? (· ∈ statusValues)

def defaultDateField (table : String) : Option String :=
  (defaultDateFields.find? fun entry ↦ py.lower entry.1 = py.lower (strip table)).map Prod.snd

def safeColumns (schema : DatabaseSchema) (tableName : String) : List String :=
  match schema.table py tableName with
  | none => ["id"]
  | some table =>
    let cols := ((table.columns.filter fun c ↦ !isSensitive c.classification).map
      ColumnInfo.name).take 8
    if cols = [] then ["id"] else cols

end Words

/-- A generated statement in pieces, with the names in it that stand for tables, columns and output
columns. -/
inductive Piece where
  | text (s : String)
  | table (name : String)
  | column (table name : String)
  | alias_ (name : String)
  | output (alias_ : String)
  deriving DecidableEq

def Piece.print : Piece → String
  | .text s => s
  | .table t => t
  | .column t c => t ++ "." ++ c
  | .alias_ name => name
  | .output name => name

structure Generated where
  statement : List Piece
  explanation : String
  confidence : ℚ
  assumptions : List String
  tables : List String

def Generated.sql (generated : Generated) : String := String.join (generated.statement.map Piece.print)

structure ResolvedDate where
  description : String
  startIso : String
  endIso : String

def whereClause (conditions : List (List Piece)) : List Piece :=
  if conditions = [] then []
  else .text "\nWHERE " :: [Piece.text " AND "].intercalate conditions

def dateClause (table column : String) (date : ResolvedDate) : List Piece :=
  [.column table column, .text (" >= '" ++ date.startIso ++ "' AND "), .column table column,
    .text (" < '" ++ date.endIso ++ "'")]

def monthExpr (dialect : SQLDialect) (table column : String) : List Piece :=
  match dialect with
  | .postgres => [.text "to_char(", .column table column, .text ", 'YYYY-MM')"]
  | .sqlite => [.text "strftime('%Y-%m', ", .column table column, .text ")"]

def revenueSum : List Piece :=
  [.text "SUM(", .column "order_items" "quantity", .text " * ", .column "order_items" "unit_price",
    .text ") AS ", .alias_ "revenue"]

def joinOn (table : String) (left right : String × String) : List Piece :=
  [.text "JOIN ", .table table, .text " ON ", .column left.1 left.2, .text " = ",
    .column right.1 right.2]

def joinOrders : List Piece := joinOn "orders" ("orders", "id") ("order_items", "order_id")

def joinProducts : List Piece := joinOn "products" ("products", "id") ("order_items", "product_id")

def joinCustomers : List Piece := joinOn "customers" ("customers", "id") ("orders", "customer_id")

def joinRegions : List Piece := joinOn "regions" ("regions", "id") ("customers", "region_id")

def revenueAssumption : String := "Revenue = SUM(quantity * unit_price) over order line items."

def restriction (date : Option ResolvedDate) : List String :=
  date.toList.map fun date ↦ "Restricted to " ++ date.description ++ "."

def orderedAt (date : Option ResolvedDate) : List (List Piece) :=
  date.toList.map (dateClause "orders" "ordered_at")

def topProductsByRevenue (k : ℕ) (date : Option ResolvedDate) : Generated where
  statement :=
    [.text "SELECT ", .column "products" "name", .text " AS ", .alias_ "product", .text ", "] ++
      revenueSum ++ [.text "\nFROM ", .table "order_items", .text "\n"] ++ joinOrders ++
      [.text "\n"] ++ joinProducts ++ whereClause (orderedAt date) ++
      [.text "\nGROUP BY ", .column "products" "name", .text "\nORDER BY ", .output "revenue",
        .text (" DESC\nLIMIT " ++ toString k)]
  explanation := "Top " ++ toString k ++ " products ranked by line-item revenue" ++
    match date with
    | some date => " during " ++ date.description ++ "."
    | none => "."
  confidence := 9 / 10
  assumptions := revenueAssumption :: restriction date
  tables := ["order_items", "orders", "products"]

inductive Dimension where
  | region | category | product | month | customer
  deriving DecidableEq

namespace Dimension

def ofQuestion (q : String) : Dimension :=
  if hasWord "region" q then .region
  else if hasWord "category" q then .category
  else if hasWord "product" q then .product
  else if hasWord "month" q then .month
  else .customer

def joins : Dimension → List (List Piece)
  | .region => [joinOrders, joinCustomers, joinRegions]
  | .category | .product => [joinOrders, joinProducts]
  | .month => [joinOrders]
  | .customer => [joinOrders, joinCustomers]

def expr (dialect : SQLDialect) : Dimension → List Piece
  | .region => [.column "regions" "name"]
  | .category => [.column "products" "category"]
  | .product => [.column "products" "name"]
  | .month => monthExpr dialect "orders" "ordered_at"
  | .customer => [.column "customers" "name"]

def alias_ : Dimension → String
  | .region => "region"
  | .category => "category"
  | .product => "product"
  | .month => "month"
  | .customer => "customer"

def tables : Dimension → List String
  | .region => ["order_items", "orders", "customers", "regions"]
  | .category | .product => ["order_items", "orders", "products"]
  | .month => ["order_items", "orders"]
  | .customer => ["order_items", "orders", "customers"]

end Dimension

def revenueByDimension (dialect : SQLDialect) (dimension : Dimension) (excludesRefunded : Bool)
    (date : Option ResolvedDate) : Generated where
  statement :=
    [.text "SELECT "] ++ dimension.expr dialect ++
      [.text " AS ", .alias_ dimension.alias_, .text ", "] ++ revenueSum ++
      [.text "\nFROM ", .table "order_items", .text "\n"] ++
      [Piece.text "\n"].intercalate dimension.joins ++
      whereClause ((if excludesRefunded then
        [[.column "orders" "status", .text " <> 'refunded'"]] else []) ++ orderedAt date) ++
      [.text "\nGROUP BY "] ++ dimension.expr dialect ++
      [.text "\nORDER BY ", .output "revenue", .text " DESC"]
  explanation := "Revenue grouped by " ++ dimension.alias_ ++ "."
  confidence := 22 / 25
  assumptions := revenueAssumption ::
    (if excludesRefunded then ["Excluded orders with status 'refunded'."] else []) ++
      restriction date
  tables := dimension.tables

def scalarRevenue (date : Option ResolvedDate) : Generated where
  statement :=
    [.text "SELECT "] ++ revenueSum ++ [.text "\nFROM ", .table "order_items", .text "\n"] ++
      joinOrders ++ whereClause (orderedAt date)
  explanation := "Total line-item revenue."
  confidence := 17 / 20
  assumptions := revenueAssumption :: restriction date
  tables := ["order_items", "orders"]

def customersWithoutOrders (date : ResolvedDate) : Generated where
  statement :=
    [.text "SELECT ", .column "customers" "id", .text ", ", .column "customers" "name",
      .text "\nFROM ", .table "customers", .text "\nWHERE NOT EXISTS (\n  SELECT 1 FROM ",
      .table "orders", .text "\n  WHERE ", .column "orders" "customer_id", .text " = ",
      .column "customers" "id", .text "\n    AND ", .column "orders" "ordered_at",
      .text (" >= '" ++ date.startIso ++ "'\n)")]
  explanation := "Customers with no orders since the start of " ++ date.description ++ "."
  confidence := 87 / 100
  assumptions := ["'Recent' means on/after " ++ date.startIso ++ " (" ++ date.description ++ ")."]
  tables := ["customers", "orders"]

def mrr : Generated where
  statement :=
    [.text "SELECT SUM(", .column "subscriptions" "mrr", .text ") AS ", .alias_ "mrr",
      .text " FROM ", .table "subscriptions", .text " WHERE ", .column "subscriptions" "status",
      .text " = 'active'"]
  explanation := "Monthly recurring revenue from active subscriptions."
  confidence := 9 / 10
  assumptions := ["MRR is the sum of mrr over active subscriptions."]
  tables := ["subscriptions"]

def count (py : Python) (table : String) (date : Option ResolvedDate) : Generated :=
  let dateField := (defaultDateField py table).getD "created_at"
  { statement :=
      [.text "SELECT COUNT(*) AS ", .alias_ "count", .text "\nFROM ", .table table] ++
        whereClause (date.toList.map (dateClause table dateField))
    explanation := "Count of rows in " ++ table ++ "."
    confidence := 17 / 20
    assumptions := date.toList.map fun date ↦
      "Counted rows within " ++ date.description ++ " using " ++ table ++ "." ++ dateField ++ "."
    tables := [table] }

def selectColumns (table : String) (columns : List String) : List Piece :=
  [.text "SELECT "] ++ [Piece.text ", "].intercalate (columns.map fun c ↦ [.column table c]) ++
    [.text "\nFROM ", .table table]

def limitText (limit : ℕ) : List Piece := [.text ("\nLIMIT " ++ toString limit)]

def statusListing (table status : String) (columns : List String) (limit : ℕ) : Generated where
  statement := selectColumns table columns ++
    [.text "\nWHERE ", .column table "status", .text (" = '" ++ status ++ "'")] ++ limitText limit
  explanation := table ++ " filtered to status '" ++ status ++ "'."
  confidence := 43 / 50
  assumptions := []
  tables := [table]

def listing (table : String) (columns : List String) (limit : ℕ) : Generated where
  statement := selectColumns table columns ++ limitText limit
  explanation := "Listing of " ++ table ++ "."
  confidence := 4 / 5
  assumptions := []
  tables := [table]

def fallback (table : String) (columns : List String) (limit : ℕ) : Generated where
  statement := selectColumns table columns ++ limitText limit
  explanation := "Best-effort listing of " ++ table ++ " (no strong pattern matched)."
  confidence := 2 / 5
  assumptions := ["Low confidence: the question did not match a known pattern."]
  tables := [table]

structure GenerationRequest where
  question : String
  resolvedDate : Option ResolvedDate
  maxRows : ℕ

/-- The branch that answers a question, with what it takes from it. -/
inductive Branch where
  | topProductsByRevenue (k : ℕ) (date : Option ResolvedDate)
  | revenueByDimension (dimension : Dimension) (excludesRefunded : Bool)
      (date : Option ResolvedDate)
  | customersWithoutOrders (date : ResolvedDate)
  | mrr
  | scalarRevenue (date : Option ResolvedDate)
  | count (table : String) (date : Option ResolvedDate)
  | statusListing (table status : String)
  | listing (table : String)
  | fallback (table : String)

section Generate

variable (py : Python) (cc : CharClasses) (schema : DatabaseSchema) (dialect : SQLDialect)

def listingBranch (q : String) : Branch :=
  match detectEntityTable py cc schema q with
  | some table =>
    match detectStatus q with
    | some status => .statusListing table status
    | none =>
      if hasWord "list" q ∨ hasWord "show" q ∨ hasWord "all" q ∨ startsWith "what" q then
        .listing table
      else .fallback table
  | none => .fallback ((schema.tables.head?.map TableInfo.name).getD "organizations")

def branch (request : GenerationRequest) : Branch :=
  let q := normalizeQuestion py request.question
  let date := request.resolvedDate
  if (hasWord "top" q ∨ hasWord "best" q ∨ hasWord "highest" q) ∧ hasWord "revenue" q ∧
      hasWord "product" q then
    .topProductsByRevenue (extractLimit cc q 5) date
  else if hasWord "revenue" q ∧ hasWord " by " q then
    .revenueByDimension (.ofQuestion q) (hasWord "exclud" q && hasWord "refund" q) date
  else
    match date.filter fun _ ↦ (hasWord "not" q || hasWord "haven't" q || hasWord "have not" q ||
        hasWord "without" q) && hasWord "order" q with
    | some date => .customersWithoutOrders date
    | none =>
      if hasWord "mrr" q ∨ hasWord "recurring revenue" q then .mrr
      else if hasWord "revenue" q ∨ hasWord "gross sales" q then .scalarRevenue date
      else if hasWord "how many" q ∨ hasWord "number of" q ∨ startsWith "count" q then
        .count ((detectEntityTable py cc schema q).getD "customers") date
      else listingBranch py cc schema q

def Branch.generated (limit : ℕ) : Branch → Generated
  | .topProductsByRevenue k date => Fake.topProductsByRevenue k date
  | .revenueByDimension dimension excludesRefunded date =>
    Fake.revenueByDimension dialect dimension excludesRefunded date
  | .customersWithoutOrders date => Fake.customersWithoutOrders date
  | .mrr => Fake.mrr
  | .scalarRevenue date => Fake.scalarRevenue date
  | .count table date => Fake.count py table date
  | .statusListing table status =>
    Fake.statusListing table status (safeColumns py schema table) limit
  | .listing table => Fake.listing table (safeColumns py schema table) limit
  | .fallback table => Fake.fallback table (safeColumns py schema table) limit

def generate (request : GenerationRequest) : Generated :=
  (branch py cc schema request).generated py schema dialect request.maxRows

end Generate

end TextToSql.Llm.Fake
