import TenantSaas.Tenancy.Agreement
import TenantSaas.Web.AuthorizedViews

/-!
# The views stay with their tenant

Every view that is entered with an identity stays within the identity's tenant.
-/

namespace TenantSaas

section Views

variable {config : Config} {request : Request} {identity : Identity} {tenant : String}

theorem within_closed (tenant : String) : Closed tenant (Within tenant) where
  ret := Within.pure
  raise := Within.throw
  bind := Within.bind
  handle := Within.tryCatch
  perform hop := Within.perform hop.off
  connection := Within.connection
  session {_ f} h := by
    refine Within.bind (Within.perform trivial) fun s => ?_
    have hs := h s
    generalize f s = p at hs ⊢
    cases hs with
    | leaves hp => exact hp
    | writes new next keys hnext => exact Within.bind (Within.perform trivial) hnext

theorem flash_within (message category : String) : Within tenant (flash message category) :=
  flash_closed (within_closed tenant) message category

/-- Every view entered with an identity stays with the identity's tenant. -/
theorem view_within (lower : String → String) (route : Route) :
    Within identity.tenant (route.view config lower request identity) :=
  view_closed (within_closed identity.tenant) lower route

end Views

end TenantSaas
