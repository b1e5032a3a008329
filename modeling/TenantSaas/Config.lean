import Mathlib.Data.Rat.Defs

/-!
# Configuration

The settings of `config.py` that the modelled code reads.  They come from the process
environment, so every result holds for all of them.
-/

namespace TenantSaas

/-- A value of `COGNITO_GROUP_MAP`. -/
structure GroupMapping where
  tenant : String
  role : String
  deriving DecidableEq, Repr

/-- `COGNITO_GROUP_MAP` (`config.py:116-121`) -/
def cognitoGroupMap : List (String × GroupMapping) :=
  [("TenantA_admin", ⟨"TenantA", "admin"⟩), ("TenantA_user", ⟨"TenantA", "user"⟩),
    ("TenantB_admin", ⟨"TenantB", "admin"⟩), ("TenantB_user", ⟨"TenantB", "user"⟩)]

theorem append_right_cancel {a b c : String} (h : a ++ c = b ++ c) : a = b := by
  apply String.toList_injective
  have hlists := congrArg String.toList h
  rw [String.toList_append, String.toList_append] at hlists
  exact List.append_cancel_right hlists

/-- A known group named after a tenant and a role is a group of that tenant. -/
theorem tenant_of_groupName {tenant role : String} (hrole : role = "admin" ∨ role = "user")
    {mapping : GroupMapping}
    (h : cognitoGroupMap.lookup (tenant ++ "_" ++ role) = some mapping) :
    mapping.tenant = tenant := by
  have hmem : (tenant ++ "_" ++ role, mapping) ∈ cognitoGroupMap := by
    obtain ⟨before, after, hmap, -⟩ := List.lookup_eq_some_iff.mp h
    rw [hmap]
    simp
  have hends := fun group (heq : tenant ++ "_" ++ role = group) =>
    congrArg (fun s => s.toList.getLast?) heq
  have hcancel := fun t (heq : tenant ++ "_" ++ role = t ++ "_" ++ role) =>
    (append_right_cancel (append_right_cancel heq)).symm
  simp only [cognitoGroupMap, List.mem_cons, Prod.mk.injEq, List.not_mem_nil, or_false] at hmem
  rcases hrole with rfl | rfl
  · rcases hmem with ⟨hname, rfl⟩ | ⟨hname, rfl⟩ | ⟨hname, rfl⟩ | ⟨hname, rfl⟩
    · exact hcancel "TenantA" hname
    · exact absurd (hends _ hname) (by simp)
    · exact hcancel "TenantB" hname
    · exact absurd (hends _ hname) (by simp)
  · rcases hmem with ⟨hname, rfl⟩ | ⟨hname, rfl⟩ | ⟨hname, rfl⟩ | ⟨hname, rfl⟩
    · exact absurd (hends _ hname) (by simp)
    · exact hcancel "TenantA" hname
    · exact absurd (hends _ hname) (by simp)
    · exact hcancel "TenantB" hname

/-- `config.py`, the settings read at run time. -/
structure Config where
  demoMode : Bool
  usageMeteringEnabled : Bool
  usageEventsQueueUrl : String
  usageAggregateTable : String
  billingPlanMap : List (String × String)
  kmsKeyId : String
  jsonApiRoutePrefixes : List String
  apiGatewayTrustedHeadersEnabled : Bool
  apiGwSharedSecret : String
  apiGwSecretHeaderName : String
  apiGwSubHeaderName : String
  apiGwUsernameHeaderName : String
  apiGwEmailHeaderName : String
  apiGwGroupsHeaderName : String
  cognitoAppClientId : String
  cognitoDomain : String
  cognitoRedirectUri : String
  cognitoLogoutRedirectUri : String
  cognitoScopes : String
  cognitoAppClientSecret : String
  awsRegion : String
  secretsManagerSecretName : String

/-- A deployment with every feature on. -/
def sampleConfig : Config where
  demoMode := false
  usageMeteringEnabled := true
  usageEventsQueueUrl := "https://sqs.example/usage"
  usageAggregateTable := "UsageMonthlyAggregate"
  billingPlanMap := [("TenantA", "Pro"), ("TenantB", "Basic")]
  kmsKeyId := "alias/saas"
  jsonApiRoutePrefixes := ["/api/v1/billing/"]
  apiGatewayTrustedHeadersEnabled := false
  apiGwSharedSecret := ""
  apiGwSecretHeaderName := "X-Api-Gateway-Secret"
  apiGwSubHeaderName := "X-Amzn-Cognito-Sub"
  apiGwUsernameHeaderName := "X-Amzn-Cognito-Username"
  apiGwEmailHeaderName := "X-Amzn-Cognito-Email"
  apiGwGroupsHeaderName := "X-Amzn-Cognito-Groups"
  cognitoAppClientId := "client"
  cognitoDomain := "auth.example"
  cognitoRedirectUri := "https://app.example/auth/callback"
  cognitoLogoutRedirectUri := ""
  cognitoScopes := "openid email profile aws.cognito.signin.user.admin"
  cognitoAppClientSecret := ""
  awsRegion := "us-east-1"
  secretsManagerSecretName := "saas/secrets/rds/31"

end TenantSaas
