import TenantSaas.Web.Response

/-!
# Billing routes

`routes/billing.py`, entered with the identity `login_required` put into `g`.
-/

namespace TenantSaas

namespace Billing

variable (config : Config) (request : Request) (identity : Identity)

/-- `request.args.get("period", "").strip() or current_billing_period()` -/
def requestedPeriod : App String :=
  let period := PyStr.strip (request.arg "period")
  if period = "" then currentBillingPeriod else pure period

/-- `dashboard` (`billing.py:32-43`) -/
def dashboard : App Response := do
  let period ← requestedPeriod request
  let invoice ← calculateInvoice config identity.tenant (some period)
  let invoices ← getInvoices config identity.tenant 12
  let currentPeriod ← currentBillingPeriod
  render (.billingDashboard invoice invoices currentPeriod)

/-- `usage` (`billing.py:46-59`) -/
def usage : App Response := do
  let period ← requestedPeriod request
  let invoice ← calculateInvoice config identity.tenant (some period)
  pure (.json 200 (.usage invoice.tenantId invoice.billingPeriod invoice.planDisplayName
    invoice.includedRequests invoice.usageUnits invoice.overageUnits))

/-- `invoices` (`billing.py:62-69`) -/
def invoices : App Response := do
  let invoices ← getInvoices config identity.tenant 12
  pure (.json 200 (.invoices identity.tenant invoices))

end Billing

end TenantSaas
