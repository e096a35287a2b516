import Fleet.Config
import Fleet.Exchange.Tenant
import Fleet.Service.Refusal

/-! # Requests for tenants

Each request as a task on the store, from what it says to what it answers. -/

namespace Fleet.Service

open Exchange

/-- A stream of random words, as a request uses it. -/
abbrev Words := Nat → UInt32

/-- What a draw from the start of a stream gives. -/
def drawn {α : Type} (words : Words) (d : Draw α) : α := ((d.run words).run 0).1

namespace Tenants

/-- All tenants. -/
def list (client : Client) : Task (List Record.Tenant) := do
  let tenants : List Resource.Tenant ← Task.ask client .listTenants
  return tenants.map Tenant.toRecord

/-- What new tenants get where the client gives nothing. -/
def defaults (config : Config) : Tenant.Defaults := ⟨config.apiSecretRefName, config.tenantRepoPath⟩

/-- The new tenant that a record asks for. -/
def prepare (config : Config) (words : Words) (t : Record.Tenant) :
    Except ChangeError Resource.Tenant := do
  let tenant ← drawn words (Tenant.ofRecord t)
  (Tenant.complete (defaults config)).result
    { tenant with metadata.ns := some config.ns }

/-- Creates a tenant. -/
def create (config : Config) (words : Words) (client : Client) (t : Record.Tenant) :
    Task Record.Tenant := do
  let tenant ← Task.of .change (prepare config words t)
  let created : Resource.Tenant ← Task.ask client (.createTenant tenant)
  return Tenant.toRecord created

/-- A tenant. -/
def get (client : Client) (id : String) : Task Record.Tenant := do
  let tenant : Resource.Tenant ← Task.ask client (.getTenant id)
  return Tenant.toRecord tenant

/-- Sets the given properties of a tenant. -/
def update (client : Client) (id : String) (p : Record.TenantProperties) : Task Record.Tenant := do
  let tenant : Resource.Tenant ← Task.ask client (.getTenant id)
  let tenant ← Task.of .change ((Tenant.take p).result tenant)
  let updated : Resource.Tenant ← Task.ask client (.updateTenant tenant)
  return Tenant.toRecord updated

/-- Deletes a tenant. -/
def delete (client : Client) (id : String) : Task Unit := Task.ask client (.deleteTenant id)

end Tenants
end Fleet.Service
