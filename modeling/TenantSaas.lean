import TenantSaas.Misc.Prog
import TenantSaas.Misc.Pool
import TenantSaas.Misc.Tally
import TenantSaas.Misc.PyStr
import TenantSaas.Misc.DateTime
import TenantSaas.Python
import TenantSaas.Config
import TenantSaas.Metering.Handler
import TenantSaas.Metering.Tables
import TenantSaas.Metering.Conservation
import TenantSaas.Metering.Redelivery
import TenantSaas.App.Op
import TenantSaas.Services.BillingService
import TenantSaas.Services.UsageService
import TenantSaas.App.Rds
import TenantSaas.App.World
import TenantSaas.Metering.Published
import TenantSaas.Metering.BillingReads
import TenantSaas.Metering.EndToEnd
import TenantSaas.LambdaBilling.Handler
import TenantSaas.LambdaBilling.Acknowledgement
import TenantSaas.Services.RdsService
import TenantSaas.Misc.Base64
import TenantSaas.Services.KmsService
import TenantSaas.Auth
import TenantSaas.Services.CognitoService
import TenantSaas.Web.Response
import TenantSaas.Web.Decorators
import TenantSaas.Routes.Admin
import TenantSaas.Routes.Users
import TenantSaas.Routes.AuthPages
import TenantSaas.Routes.Billing
import TenantSaas.Routes.Password
import TenantSaas.Web.Serve
import TenantSaas.Web.SessionExpiry
import TenantSaas.Accounts.CognitoAccounts
import TenantSaas.Accounts.AllOrNothing
import TenantSaas.Tenancy.Agreement
import TenantSaas.Tenancy.Within
import TenantSaas.Tenancy.Noninterference
import TenantSaas.Profile.Rows
import TenantSaas.Credentials.Groups
import TenantSaas.Accounts.Toggles
import TenantSaas.LambdaBilling.EventTime
import TenantSaas.Credentials.Paths
import TenantSaas.SignIn.Callback
import TenantSaas.Misc.Always
import TenantSaas.Web.SessionKeys
import TenantSaas.SignIn.Binding
import TenantSaas.SignIn.TokenCopies
import TenantSaas.Metering.BatchFailures
import TenantSaas.Credentials.PasswordChange
import TenantSaas.Misc.Directory
import TenantSaas.Profile.RowPuts
import TenantSaas.Profile.Saves
import TenantSaas.Accounts.Creates
import TenantSaas.Accounts.Roster
import TenantSaas.Accounts.OwnAccount
import TenantSaas.Accounts.OwnRow
import TenantSaas.Profile.PhoneCycle
import TenantSaas.Credentials.TrustedHeaders
import TenantSaas.Profile.Upserts
import TenantSaas.Credentials.TokenKinds
import TenantSaas.Metering.StatedUnits
import TenantSaas.Metering.UtcMonth
import TenantSaas.Accounts.UserLists
import TenantSaas.App.KeySite
import TenantSaas.Profile.Collisions
import TenantSaas.Profile.FieldFormats
import TenantSaas.Credentials.Renderings
import TenantSaas.Billing.Pricing
import TenantSaas.Billing.Queries
import TenantSaas.Billing.ReadFailures
import TenantSaas.Billing.History
import TenantSaas.Accounts.Pagination
import TenantSaas.Misc.TtlCache
import TenantSaas.Secrets.Freshness
import TenantSaas.App.Startup
import TenantSaas.SignIn.ClientSecret
import TenantSaas.Billing.PlanOverrides
import TenantSaas.Web.PageOrJson
import TenantSaas.Web.Authority
import TenantSaas.Web.AuthorizedViews
import TenantSaas.Web.Admission
import TenantSaas.Web.Connections
import TenantSaas.Tenancy.Integrity
import TenantSaas.Tenancy.Standings
import TenantSaas.Accounts.Membership
import TenantSaas.Web.Pages
import TenantSaas.Misc.CookieJar
import TenantSaas.SignIn.Provenance
import TenantSaas.Metering.Charges
import TenantSaas.Misc.JsonText
import TenantSaas.Misc.JsonRoundTrip
import TenantSaas.Metering.WireFormat
import TenantSaas.App.Logs
import TenantSaas.Misc.QueryText
import TenantSaas.SignIn.HostedUi
import TenantSaas.Metering.Consumers
import TenantSaas.Web.Navigation
import TenantSaas.Misc.SharedStore
import TenantSaas.Tenancy.Interleavings
import TenantSaas.Misc.Entries
import TenantSaas.Misc.Refinement
import TenantSaas.Profile.RowCalls
import TenantSaas.Profile.DemoStore
