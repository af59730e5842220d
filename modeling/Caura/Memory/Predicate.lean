import Mathlib.Data.List.Basic

/-!
# Single-valued predicates

The vocabulary that decides which triples can contradict each other: the
predicates that hold one value at a time, and the clusters of spellings that
name one attribute.

Case folding and white space are Unicode notions of the two runtimes, so they
are a parameter of the model: `TextOps` has the operations of the core and,
separately, those the database evaluates.
-/

namespace Caura.Memory

/-- The text operations of the core and of the database. -/
structure TextOps where
  /-- `str.lower`. -/
  lower : String → String
  /-- `str.strip`. -/
  strip : String → String
  /-- `re.sub` of white space and commas by nothing. -/
  squeeze : String → String
  /-- SQL `lower`. -/
  sqlLower : String → String
  /-- SQL `regexp_replace` of white space and commas by nothing. -/
  sqlSqueeze : String → String

/-- The operations on ASCII text, where both runtimes agree. -/
def TextOps.ascii : TextOps where
  lower := asciiLower
  strip text := String.ofList
    ((text.toList.dropWhile Char.isWhitespace).reverse.dropWhile Char.isWhitespace).reverse
  squeeze := squeezed
  sqlLower := asciiLower
  sqlSqueeze := squeezed
where
  asciiLower (text : String) : String :=
    String.ofList (text.toList.map Char.toLower)
  squeezed (text : String) : String :=
    String.ofList (text.toList.filter fun c => !(c.isWhitespace || c == ','))

/-- Predicates that can hold only one value at a time for a subject. -/
def singleValuePredicates : List String :=
  ["named", "name", "renamed_to", "status", "has_status", "current_status", "phase",
   "current_phase", "state", "current_state", "role", "has_role", "current_role",
   "title", "has_title", "job_title", "type", "has_type", "category", "classified_as",
   "identified_as", "labeled_as", "lives_in", "located_in", "is_located_in", "location",
   "current_location", "headquartered_in", "hq_in", "based_in", "is_based_in",
   "resides_in", "resides_at", "stationed_at", "hosted_on", "hosted_at", "is_hosted_on",
   "deployed_to", "deployed_at", "deployed_on", "is_deployed_to", "runs_on",
   "running_on", "stored_in", "stored_at", "registered_in", "registered_at", "country",
   "city", "region", "address", "reports_to", "reporting_to", "led_by", "owned_by",
   "managed_by", "manager", "manager_of", "headed_by", "head_of", "ceo_of", "ceo",
   "cto_of", "cto", "cfo_of", "cfo", "assigned_to", "assignee", "is_assigned_to",
   "maintained_by", "maintainer", "maintainer_of", "supervised_by", "supervisor",
   "belongs_to", "part_of", "created_by", "written_by", "score", "scored", "has_score",
   "rating", "rated", "has_rating", "price", "priced_at", "has_price", "current_price",
   "cost", "costs", "has_cost", "value", "valued_at", "has_value", "net_worth",
   "weight", "weighs", "has_weight", "market_cap", "has_market_cap", "market_cap_rank",
   "revenue", "has_revenue", "annual_revenue", "monthly_revenue", "salary",
   "has_salary", "compensation", "budget", "has_budget", "funding", "total_funding",
   "valuation", "has_valuation", "count", "count_of", "has_count", "total", "size",
   "has_size", "percentage", "percentage_of", "estimated_at", "estimate", "measured_at",
   "measurement", "ranked", "rank", "ranking", "has_rank", "potential_score",
   "risk_score", "quality_score", "health_score", "sentiment", "sentiment_score",
   "confidence", "confidence_score", "probability", "capacity", "has_capacity", "limit",
   "has_limit", "quota", "has_quota", "balance", "has_balance", "supply",
   "total_supply", "circulating_supply", "volume", "trading_volume", "liquidity",
   "all_time_high", "all_time_low", "burn_rate", "runway", "latency", "uptime",
   "availability", "accuracy", "precision", "recall_metric", "f1_score", "version",
   "has_version", "latest_version", "current_version", "running_version", "released_as",
   "replaced_by", "replaces", "succeeded_by", "succeeds", "upgraded_to",
   "upgraded_from", "migrated_to", "migrated_from", "chosen_over", "selected",
   "preferred", "switched_to", "switched_from", "deprecated_by", "deprecated",
   "scheduled_for", "scheduled_at", "rescheduled_to", "due_by", "due_date", "due_on",
   "starts_on", "start_date", "started_on", "started_at", "ends_on", "end_date",
   "ended_on", "ended_at", "expires_on", "expiry_date", "expiration", "deadline",
   "has_deadline", "eta", "has_eta", "expected_by", "next_review", "next_meeting",
   "next_milestone", "last_updated", "last_modified", "last_seen", "last_active",
   "created_on", "created_at", "target_date", "release_date", "go_live_date",
   "launch_date", "configured_as", "configuration", "set_to", "setting", "limited_to",
   "capped_at", "defaults_to", "default_value", "backed_by", "backend", "powered_by",
   "styled_with", "licensed_under", "license", "instance_of", "environment", "env",
   "tier", "subscription", "subscription_plan", "pricing_plan", "mode", "has_mode",
   "priority", "has_priority", "severity", "has_severity", "milestone", "has_milestone",
   "sprint", "has_sprint", "epic", "has_epic", "depends_on_completion_of", "hostname",
   "cluster", "namespace", "zone", "availability_zone", "email", "has_email",
   "email_address", "phone", "has_phone", "phone_number", "website", "has_website",
   "age", "has_age", "born_in", "birthdate", "date_of_birth", "married_to", "spouse",
   "employed_by", "employer", "work_location", "office"]

/-- Spellings that name the same attribute, one cluster each. -/
def predicateAliasClusters : List (List String) :=
  [["status", "has_status", "current_status", "state", "current_state"],
   ["phase", "current_phase"],
   ["role", "has_role", "current_role"],
   ["type", "has_type"],
   ["located_in", "is_located_in", "based_in", "is_based_in", "headquartered_in",
    "hq_in", "lives_in", "resides_in", "location", "current_location"],
   ["deployed_to", "is_deployed_to", "deployed_at", "deployed_on"],
   ["hosted_on", "is_hosted_on", "hosted_at"],
   ["runs_on", "running_on"],
   ["stored_in", "stored_at"],
   ["registered_in", "registered_at"],
   ["reports_to", "reporting_to", "supervisor", "supervised_by", "manager"],
   ["led_by", "headed_by"],
   ["assigned_to", "is_assigned_to", "assignee"],
   ["maintained_by", "maintainer"],
   ["score", "has_score", "scored"],
   ["rating", "has_rating", "rated"],
   ["price", "has_price", "priced_at", "current_price"],
   ["cost", "has_cost", "costs"],
   ["rank", "has_rank", "ranked", "ranking"],
   ["value", "has_value"],
   ["version", "has_version", "current_version"],
   ["due_date", "due_by", "due_on", "deadline", "has_deadline"],
   ["email", "has_email", "email_address"],
   ["phone", "has_phone", "phone_number"],
   ["birthdate", "date_of_birth"],
   ["spouse", "married_to"],
   ["employer", "employed_by"]]

/-- Every spelling of the attribute that `predicate` names, folded. -/
def predicateCluster (text : TextOps) (predicate : String) : List String :=
  let normalized := text.lower (text.strip predicate)
  (predicateAliasClusters.find? fun cluster => cluster.contains normalized).getD
    [normalized]

end Caura.Memory
