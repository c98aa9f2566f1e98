import TextToSql.Domain.Schema

namespace TextToSql.Infrastructure

open Domain

def foreignKey (column table : String) : ForeignKeyRef where
  columns := [column]
  referredTable := table
  referredColumns := ["id"]

def internal (name : String) : ColumnInfo := { name }

def classified (classification : DataClassification) (name : String) : ColumnInfo :=
  { name, classification }

def organizations : TableInfo where
  name := "organizations"
  columns := ["id", "name", "plan", "created_at", "deleted_at"].map internal
  tenantColumn := some "id"

def regions : TableInfo where
  name := "regions"
  columns := ["id", "name", "code"].map internal

def users : TableInfo where
  name := "users"
  columns := [internal "id", internal "organization_id", classified .pii "email",
    classified .pii "full_name", classified .authSecret "password_hash", internal "role",
    internal "created_at", internal "deleted_at"]
  foreignKeys := [foreignKey "organization_id" "organizations"]
  tenantColumn := some "organization_id"

def customers : TableInfo where
  name := "customers"
  columns := [internal "id", internal "organization_id", internal "region_id", internal "name",
    classified .pii "contact_email", classified .pii "contact_phone", internal "segment",
    internal "created_at", internal "deleted_at"]
  foreignKeys := [foreignKey "organization_id" "organizations", foreignKey "region_id" "regions"]
  tenantColumn := some "organization_id"

def products : TableInfo where
  name := "products"
  columns := ["id", "organization_id", "sku", "name", "category", "unit_price", "active",
    "created_at"].map internal
  foreignKeys := [foreignKey "organization_id" "organizations"]
  tenantColumn := some "organization_id"

def orders : TableInfo where
  name := "orders"
  columns := ["id", "organization_id", "customer_id", "status", "ordered_at", "created_at",
    "deleted_at"].map internal
  foreignKeys := [foreignKey "organization_id" "organizations",
    foreignKey "customer_id" "customers"]
  tenantColumn := some "organization_id"

def orderItems : TableInfo where
  name := "order_items"
  columns := ["id", "organization_id", "order_id", "product_id", "quantity",
    "unit_price"].map internal
  foreignKeys := [foreignKey "organization_id" "organizations", foreignKey "order_id" "orders",
    foreignKey "product_id" "products"]
  tenantColumn := some "organization_id"

def payments : TableInfo where
  name := "payments"
  columns := [internal "id", internal "organization_id", internal "order_id",
    classified .financial "amount", internal "method", classified .pii "card_last4",
    classified .authSecret "payment_token", internal "status", internal "paid_at"]
  foreignKeys := [foreignKey "organization_id" "organizations", foreignKey "order_id" "orders"]
  tenantColumn := some "organization_id"

def refunds : TableInfo where
  name := "refunds"
  columns := [internal "id", internal "organization_id", internal "order_id",
    internal "payment_id", classified .financial "amount", internal "reason",
    internal "refunded_at"]
  foreignKeys := [foreignKey "organization_id" "organizations", foreignKey "order_id" "orders",
    foreignKey "payment_id" "payments"]
  tenantColumn := some "organization_id"

def subscriptions : TableInfo where
  name := "subscriptions"
  columns := [internal "id", internal "organization_id", internal "customer_id", internal "plan",
    internal "status", classified .financial "mrr", internal "started_at",
    internal "canceled_at"]
  foreignKeys := [foreignKey "organization_id" "organizations",
    foreignKey "customer_id" "customers"]
  tenantColumn := some "organization_id"

def supportTickets : TableInfo where
  name := "support_tickets"
  columns := ["id", "organization_id", "customer_id", "subject", "status", "priority",
    "created_at", "resolved_at"].map internal
  foreignKeys := [foreignKey "organization_id" "organizations",
    foreignKey "customer_id" "customers"]
  tenantColumn := some "organization_id"

/-- The reference catalog with the annotations of the reference semantic layer. -/
def referenceSchema : DatabaseSchema where
  dialect := .sqlite
  tables := [organizations, regions, users, customers, products, orders, orderItems, payments,
    refunds, subscriptions, supportTickets]

def usersAndOrders : DatabaseSchema := { referenceSchema with tables := [users, regions, orders] }

end TextToSql.Infrastructure
