import Caura.Memory.Row

/-!
# Deciding whether a write is held

An organization holds the writes of agents below a trust level, set for the whole
organization or for one fleet.  A held write is stored in quarantine with a record of
why.  A write that goes live claims the version of the settings it was decided under,
and a held one claims nothing.

The three write paths decide alike: the single write and the parent of an auto-chunked
one decide their one payload, and a bulk write decides each of its items, where an
item that the broker's gate refused keeps the gate's hold.
-/

namespace Caura.Hold

open Caura.Memory

/-! ## Settings -/

/-- The settings of an organization that decide holds. -/
structure Settings where
  belowTrust : Option Int := none
  belowTrustByFleet : List (String × Int) := []
  deriving DecidableEq, Repr

/-- `quarantine_below_trust`: the fleet's own level when it has one, else the
organization's. -/
def quarantineBelowTrust (settings : Settings) (fleetId : Option String) : Int :=
  ((fleetId.bind fun fleet => settings.belowTrustByFleet.lookup fleet).or
    settings.belowTrust).getD 0

/-- Settings as a process resolved them, with the version storage gave them. -/
structure ResolvedConfig where
  settings : Settings
  settingsVersion : Option Nat
  deriving DecidableEq, Repr

/-! ## The decision -/

/-- Why a write is held: its agent's trust, or the broker's gate. -/
inductive HoldRecord where
  | belowTrust (trustLevel belowTrust : Int)
  | gate (account : String)
  deriving DecidableEq, Repr

/-- `CAPTURED_HOLD_BELOW_TRUST`. -/
def capturedHoldBelowTrust : Int :=
  1

/-- `hold_for`: why a write is held, or `none` when it goes live.  `trust` reads an
agent's row, and an agent without one has trust 0. -/
def holdFor (trust : String → Option Int) (agentId : String) (fleetId : Option String)
    (config : ResolvedConfig) (isInferred captured : Bool) : Option HoldRecord :=
  if isInferred then
    none
  else
    let level := quarantineBelowTrust config.settings fleetId
    let belowTrust := if captured then max level capturedHoldBelowTrust else level
    if belowTrust ≤ 0 then
      none
    else
      let trustLevel := (trust agentId).getD 0
      if trustLevel ≥ belowTrust then none
      else some (.belowTrust trustLevel belowTrust)

/-- A memory as it is sent to be inserted. -/
structure Payload where
  agentId : String
  fleetId : Option String
  status : Status
  /-- `metadata._system.hold`. -/
  hold : Option HoldRecord := none
  /-- The settings version it claims. -/
  settingsVersion : Option Nat := none
  deriving DecidableEq, Repr

namespace Payload

/-- The payload with a hold, if there is one: in quarantine, with the reason. -/
def withHold (payload : Payload) : Option HoldRecord → Payload
  | some hold =>
    { payload with status := .quarantined, hold := some hold }
  | none => payload

/-- `claim_settings`: only a write that went live claims the settings. -/
def claimSettings (payload : Payload) (config : ResolvedConfig) (isInferred : Bool) : Payload :=
  if payload.hold.isSome || isInferred || config.settingsVersion.isNone then
    { payload with settingsVersion := none }
  else
    { payload with settingsVersion := config.settingsVersion }

end Payload

/-! ## Write paths -/

/-- How a write is made.  A status is the one asked for; chunks are counted; a bulk
item may come with the gate's hold. -/
inductive Path where
  | single (status : Status) (captured : Bool)
  | autoChunk (status : Status) (captured : Bool) (chunks : Nat)
  | bulk (items : List (Status × Option HoldRecord))
  deriving DecidableEq, Repr

/-- A write of an agent through one process. -/
structure Write where
  process : Nat
  agentId : String
  fleetId : Option String
  path : Path
  deriving DecidableEq, Repr

namespace Write

/-- A payload with the hold that the gate put on it, if it did. -/
abbrev Draft := Payload × Option HoldRecord

/-- The payloads before any decision. -/
def drafts (write : Write) : List Draft :=
  match write.path with
  | .single status _ | .autoChunk status _ _ =>
    [({ agentId := write.agentId, fleetId := write.fleetId, status := status }, none)]
  | .bulk items =>
    items.map fun item =>
      ({ agentId := write.agentId, fleetId := write.fleetId, status := item.1 }, item.2)

/-- Only the single paths look whether a row was captured. -/
def captured (write : Write) : Bool :=
  match write.path with
  | .single _ captured | .autoChunk _ captured _ => captured
  | .bulk _ => false

/-- Decide the drafts under a config, or decide them again: one answer for the agent,
applied to each, and the claim that goes with it. -/
def decide (trust : String → Option Int) (write : Write) (config : ResolvedConfig)
    (drafts : List Draft) : List Draft :=
  let hold := holdFor trust write.agentId write.fleetId config false write.captured
  drafts.map fun draft =>
    ((draft.1.withHold (draft.2.or hold)).claimSettings config false, draft.2)

/-- The chunks cut from a committed parent: its status and its hold, without a
claim. -/
def chunkPayloads (write : Write) (parent : Payload) : List Draft :=
  match write.path with
  | .autoChunk _ _ chunks => List.replicate chunks ({ parent with settingsVersion := none }, none)
  | _ => []

end Write

/-! ## What the settings say -/

/-- The settings hold the agent in the fleet. -/
def Settings.Holds (trust : String → Option Int) (settings : Settings)
    (agentId : String) (fleetId : Option String) : Prop :=
  0 < quarantineBelowTrust settings fleetId ∧
    (trust agentId).getD 0 < quarantineBelowTrust settings fleetId

instance (trust : String → Option Int) (settings : Settings) (agentId : String)
    (fleetId : Option String) : Decidable (settings.Holds trust agentId fleetId) := by
  unfold Settings.Holds
  infer_instance

/-- A write that is not inferred and that nothing holds is allowed by its settings. -/
theorem not_holds_of_holdFor {trust : String → Option Int} {agentId : String}
    {fleetId : Option String} {config : ResolvedConfig} {captured : Bool}
    (live : holdFor trust agentId fleetId config false captured = none) :
    ¬ config.settings.Holds trust agentId fleetId := by
  rintro ⟨positive, below⟩
  have levelLe : quarantineBelowTrust config.settings fleetId ≤
      if captured then max (quarantineBelowTrust config.settings fleetId)
        capturedHoldBelowTrust else quarantineBelowTrust config.settings fleetId := by
    split
    · exact le_max_left _ _
    · exact le_refl _
  simp only [holdFor, Bool.false_eq_true, if_false] at live
  generalize (if captured then max (quarantineBelowTrust config.settings fleetId)
    capturedHoldBelowTrust else quarantineBelowTrust config.settings fleetId) =
      level at levelLe live
  split at live
  next nonpositive => exact absurd (positive.trans_le levelLe) (not_lt.mpr nonpositive)
  · split at live
    next trusted => exact absurd (below.trans_le levelLe) (not_lt.mpr trusted)
    · contradiction

end Caura.Hold
