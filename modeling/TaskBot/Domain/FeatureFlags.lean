import TaskBot.Domain.Base

/-!
# Feature flags

The flags by their keys, and the registry of those that are enabled.  The process
shares one registry; what an admin toggles is stored as an override besides, and
a restart applies the overrides to the flags of the environment.
-/

namespace TaskBot

/-- `FeatureFlag`. -/
inductive FeatureFlag where
  | onboardingV2 | adminPanel | slaEscalations | voiceV2 | notificationDigest | taskTemplates
  | recurrenceRules | inlineAssigneeSearch | teamAnalytics | csvExport
deriving DecidableEq, Repr

namespace FeatureFlag

def asKey : FeatureFlag → String
  | onboardingV2 => "onboarding_v2"
  | adminPanel => "admin_panel"
  | slaEscalations => "sla_escalations"
  | voiceV2 => "voice_v2"
  | notificationDigest => "notification_digest"
  | taskTemplates => "task_templates"
  | recurrenceRules => "recurrence_rules"
  | inlineAssigneeSearch => "inline_assignee_search"
  | teamAnalytics => "team_analytics"
  | csvExport => "csv_export"

/-- `ALL_FLAGS`. -/
def all : List FeatureFlag :=
  [onboardingV2, adminPanel, slaEscalations, voiceV2, notificationDigest, taskTemplates,
    recurrenceRules, inlineAssigneeSearch, teamAnalytics, csvExport]

/-- `FromStr`: the flag with this key, or the unknown key. -/
def fromStr (value : String) : Except String FeatureFlag :=
  match all.find? fun flag => flag.asKey = trim value with
  | some flag => .ok flag
  | none => .error (trim value)

def defaultEnabled : List FeatureFlag := [onboardingV2, adminPanel]

/-- Every flag is found under its key. -/
@[simp] theorem fromStr_asKey (flag : FeatureFlag) : fromStr flag.asKey = .ok flag := by
  cases flag <;> decide

end FeatureFlag

/-- The set of enabled flags, as a list. -/
structure FeatureFlagRegistry where
  enabled : List FeatureFlag
deriving DecidableEq, Repr

namespace FeatureFlagRegistry

/-- The flags of `FEATURE_FLAGS`, a comma-separated list, and the defaults; unknown tokens are skipped. -/
def fromEnvAndDefaults (envValue : Option String) : FeatureFlagRegistry :=
  let tokens := (envValue.map fun csv => csv.toList.splitOn ',').getD []
  ⟨tokens.foldl (fun enabled token =>
    match FeatureFlag.fromStr (String.ofList token) with
    | .ok flag => enabled.insert flag
    | .error _ => enabled) FeatureFlag.defaultEnabled⟩

def isEnabled (registry : FeatureFlagRegistry) (flag : FeatureFlag) : Bool := flag ∈ registry.enabled

def toggle (registry : FeatureFlagRegistry) (flag : FeatureFlag) (enabled : Bool) : FeatureFlagRegistry :=
  if enabled then ⟨registry.enabled.insert flag⟩ else ⟨registry.enabled.filter (· ≠ flag)⟩

/-- `apply_overrides`. -/
def applyOverrides (registry : FeatureFlagRegistry) (overrides : List (FeatureFlag × Bool)) :
    FeatureFlagRegistry :=
  overrides.foldl (fun registry o => registry.toggle o.1 o.2) registry

def allFlags (registry : FeatureFlagRegistry) : List (FeatureFlag × Bool) :=
  FeatureFlag.all.map fun flag => (flag, registry.isEnabled flag)

@[simp] theorem isEnabled_toggle (registry : FeatureFlagRegistry) (flag : FeatureFlag) (enabled : Bool) :
    (registry.toggle flag enabled).isEnabled flag = enabled := by
  cases enabled <;> simp [toggle, isEnabled]

theorem isEnabled_toggle_of_ne (registry : FeatureFlagRegistry) {flag flag' : FeatureFlag}
    (enabled : Bool) (h : flag' ≠ flag) :
    (registry.toggle flag enabled).isEnabled flag' = registry.isEnabled flag' := by
  cases enabled <;> simp [toggle, isEnabled, h]

end FeatureFlagRegistry

end TaskBot
