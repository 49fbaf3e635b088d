import HomeHub.Proofs.Gateway.Reader
import HomeHub.Proofs.Gateway.Address
import HomeHub.Proofs.Json.RoundTrip

/-!
The wire form of commands: a command is read back from its JSON as it was written, so different
commands differ on the wire. Its kind, the id of what it is about and its action have keys of their
own there.
-/

namespace HomeHub.Gateway

open Json.Decode

/-! ### Members -/

section

variable {members : Json.Object}

theorem member?_of_find? {α : Type} {decode : Json.Decoder α} {key : String} {v : Json} {a : α}
    (hfind : members.find? key = some v) (hdecode : decode v = .ok a)
    : member? decode key (.obj members) = some a := by
  have hmember : (Json.obj members).member? key = some v := hfind
  unfold member?
  rw [hmember]
  dsimp only [bind, Option.bind]
  rw [hdecode]
  rfl

theorem transitionOf?_of_find? {time : Option UInt32}
    (h : members.find? "transition_time" = time.map fun n => .int n.toNat)
    : transitionOf? (.obj members) = some time := by
  have hmember : (Json.obj members).member? "transition_time"
      = time.map fun n => .int n.toNat := h
  unfold transitionOf?
  rw [hmember]
  cases time with
  | none => rfl
  | some n =>
    dsimp only [Option.map_some]
    rw [option_of_ne_null uint32 (by simp)]
    rw [uint32_int]
    rfl

theorem find?_transitionMember (h : members.find? "transition_time" = none)
    (time : Option UInt32)
    : Json.Object.find? "transition_time" (members ++ transitionMember time)
        =
      time.map fun n => .int n.toNat := by
  induction members with
  | nil =>
    cases time with
    | none => rfl
    | some n => rfl
  | cons member members ih =>
    unfold Json.Object.find? at h ⊢
    split at h
    . contradiction
    . next hne =>
      rw [List.cons_append]
      dsimp only
      rw [if_neg hne]
      exact ih h

theorem transitionOf?_append (h : members.find? "transition_time" = none) (time : Option UInt32)
    : transitionOf? (.obj (members ++ transitionMember time)) = some time := by
  exact transitionOf?_of_find? (find?_transitionMember h time)

end

/-! ### Reading commands back -/

theorem LightAction.ofJson?_toJson (action : LightAction)
    : ofJson? action.toJson = some action := by
  unfold ofJson?
  cases action with
  | setState state =>
    have hkind : member? string "action" (setState state).toJson = some "set_state" :=
      member?_of_find? rfl rfl
    have hstate : member? boolean "state" (setState state).toJson = some state :=
      member?_of_find? rfl rfl
    simp only [hkind, hstate, Option.bind_eq_bind, Option.bind_some, pure]
  | setDimmer dimmer time =>
    have hkind : member? string "action" (setDimmer dimmer time).toJson = some "set_dimmer" :=
      member?_of_find? rfl rfl
    have hdimmer : member? uint8 "dimmer" (setDimmer dimmer time).toJson = some dimmer :=
      member?_of_find? rfl (uint8_int dimmer)
    have htime : transitionOf? (setDimmer dimmer time).toJson = some time :=
      transitionOf?_append rfl time
    simp only [hkind, hdimmer, htime, Option.bind_eq_bind, Option.bind_some, pure]
  | setXyColor x y time =>
    have hkind : member? string "action" (setXyColor x y time).toJson = some "set_xy_color" :=
      member?_of_find? rfl rfl
    have hx : member? uint32 "color_x" (setXyColor x y time).toJson = some x :=
      member?_of_find? rfl (uint32_int x)
    have hy : member? uint32 "color_y" (setXyColor x y time).toJson = some y :=
      member?_of_find? rfl (uint32_int y)
    have htime : transitionOf? (setXyColor x y time).toJson = some time :=
      transitionOf?_append rfl time
    simp only [hkind, hx, hy, htime, Option.bind_eq_bind, Option.bind_some, pure]
  | setRgbColor color =>
    have hkind : member? string "action" (setRgbColor color).toJson = some "set_rgb_color" :=
      member?_of_find? rfl rfl
    have hred : member? uint8 "red" (setRgbColor color).toJson = some color.red :=
      member?_of_find? rfl (uint8_int color.red)
    have hgreen : member? uint8 "green" (setRgbColor color).toJson = some color.green :=
      member?_of_find? rfl (uint8_int color.green)
    have hblue : member? uint8 "blue" (setRgbColor color).toJson = some color.blue :=
      member?_of_find? rfl (uint8_int color.blue)
    simp only [hkind, hred, hgreen, hblue, Option.bind_eq_bind, Option.bind_some, pure]
  | setKelvinColor kelvin =>
    have hkind : member? string "action" (setKelvinColor kelvin).toJson = some "set_kelvin_color" :=
      member?_of_find? rfl rfl
    have hkelvin : member? uint32 "kelvin" (setKelvinColor kelvin).toJson = some kelvin :=
      member?_of_find? rfl (uint32_int kelvin)
    simp only [hkind, hkelvin, Option.bind_eq_bind, Option.bind_some, pure]
  | setColorTemp mireds time =>
    have hkind : member? string "action" (setColorTemp mireds time).toJson
        = some "set_color_temp" :=
      member?_of_find? rfl rfl
    have hmireds : member? uint16 "color_temp" (setColorTemp mireds time).toJson = some mireds :=
      member?_of_find? rfl (uint16_int mireds)
    have htime : transitionOf? (setColorTemp mireds time).toJson = some time :=
      transitionOf?_append rfl time
    simp only [hkind, hmireds, htime, Option.bind_eq_bind, Option.bind_some, pure]

theorem GroupAction.ofJson?_toJson (action : GroupAction)
    : ofJson? action.toJson = some action := by
  unfold ofJson?
  cases action with
  | setState state =>
    have hkind : member? string "action" (setState state).toJson = some "set_state" :=
      member?_of_find? rfl rfl
    have hstate : member? uint8 "state" (setState state).toJson = some state :=
      member?_of_find? rfl (uint8_int state)
    simp only [hkind, hstate, Option.bind_eq_bind, Option.bind_some, pure]
  | setDimmer dimmer time =>
    have hkind : member? string "action" (setDimmer dimmer time).toJson = some "set_dimmer" :=
      member?_of_find? rfl rfl
    have hdimmer : member? uint8 "dimmer" (setDimmer dimmer time).toJson = some dimmer :=
      member?_of_find? rfl (uint8_int dimmer)
    have htime : transitionOf? (setDimmer dimmer time).toJson = some time :=
      transitionOf?_append rfl time
    simp only [hkind, hdimmer, htime, Option.bind_eq_bind, Option.bind_some, pure]

/-! ### What stands where -/

theorem ascending_keys_append {members : Json.Object}
    (h : (members.map Prod.fst ++ ["transition_time"]).Pairwise (· < ·)) (time : Option UInt32)
    : (Json.obj (members ++ transitionMember time)).keys.Pairwise (· < ·) := by
  dsimp only [Json.keys]
  rw [List.map_append]
  cases time with
  | none => exact h.sublist (List.Sublist.append_left (List.nil_sublist _) _)
  | some n => exact h

def Action.toJson : Action → Json
  | .light action => action.toJson
  | .group action => action.toJson

theorem LightAction.ascending_keys_toJson (action : LightAction)
    : action.toJson.keys.Pairwise (· < ·) := by
  cases action with
  | setState state =>
    change ["action", "state"].Pairwise (· < ·)
    decide
  | setDimmer dimmer time =>
    apply ascending_keys_append
    change ["action", "dimmer", "transition_time"].Pairwise (· < ·)
    decide
  | setXyColor x y time =>
    apply ascending_keys_append
    change ["action", "color_x", "color_y", "transition_time"].Pairwise (· < ·)
    decide
  | setRgbColor color =>
    change ["action", "blue", "green", "red"].Pairwise (· < ·)
    decide
  | setKelvinColor kelvin =>
    change ["action", "kelvin"].Pairwise (· < ·)
    decide
  | setColorTemp mireds time =>
    apply ascending_keys_append
    change ["action", "color_temp", "transition_time"].Pairwise (· < ·)
    decide

theorem GroupAction.ascending_keys_toJson (action : GroupAction)
    : action.toJson.keys.Pairwise (· < ·) := by
  cases action with
  | setState state =>
    change ["action", "state"].Pairwise (· < ·)
    decide
  | setDimmer dimmer time =>
    apply ascending_keys_append
    change ["action", "dimmer", "transition_time"].Pairwise (· < ·)
    decide

def Target.key : Target → String
  | .device _ => "device_id"
  | .group _ => "group_id"

def Target.id : Target → UInt64
  | .device id => id
  | .group id => id

namespace Command

def kind : Command → String
  | .listDevices => "list_devices"
  | .getDevice _ => "get_device"
  | .listGroups => "list_groups"
  | .getGroup _ => "get_group"
  | .observeDevice _ => "observe_device"
  | .observeGroup _ => "observe_group"
  | .light _ _ => "light"
  | .group _ _ => "group"

def action? : Command → Option Action
  | .light _ action => some (.light action)
  | .group _ action => some (.group action)
  | _ => none

theorem member?_kind (c : Command) : member? string "command" c.toJson = some c.kind := by
  cases c <;> exact member?_of_find? rfl rfl

theorem ofJson?_toJson (c : Command) : ofJson? c.toJson = some c := by
  have hkind := c.member?_kind
  unfold ofJson?
  rw [hkind]
  cases c with
  | listDevices => rfl
  | listGroups => rfl
  | getDevice id =>
    have hid : member? uint64 "device_id" (getDevice id).toJson = some id :=
      member?_of_find? rfl (uint64_int id)
    simp only [kind, hid, Option.bind_eq_bind, Option.bind_some, pure]
  | getGroup id =>
    have hid : member? uint64 "group_id" (getGroup id).toJson = some id :=
      member?_of_find? rfl (uint64_int id)
    simp only [kind, hid, Option.bind_eq_bind, Option.bind_some, pure]
  | observeDevice id =>
    have hid : member? uint64 "device_id" (observeDevice id).toJson = some id :=
      member?_of_find? rfl (uint64_int id)
    simp only [kind, hid, Option.bind_eq_bind, Option.bind_some, pure]
  | observeGroup id =>
    have hid : member? uint64 "group_id" (observeGroup id).toJson = some id :=
      member?_of_find? rfl (uint64_int id)
    simp only [kind, hid, Option.bind_eq_bind, Option.bind_some, pure]
  | light id action =>
    have hid : member? uint64 "device_id" (light id action).toJson = some id :=
      member?_of_find? rfl (uint64_int id)
    have haction : (light id action).toJson.member? "action" = some action.toJson := rfl
    simp only [kind, hid, haction, action.ofJson?_toJson, Option.bind_eq_bind, Option.bind_some,
      pure]
  | group id action =>
    have hid : member? uint64 "group_id" (group id action).toJson = some id :=
      member?_of_find? rfl (uint64_int id)
    have haction : (group id action).toJson.member? "action" = some action.toJson := rfl
    simp only [kind, hid, haction, action.ofJson?_toJson, Option.bind_eq_bind, Option.bind_some,
      pure]

theorem toJson_inj {c d : Command} : c.toJson = d.toJson ↔ c = d := by
  constructor
  . intro h
    have hread := congrArg ofJson? h
    rw [ofJson?_toJson, ofJson?_toJson] at hread
    exact Option.some.inj hread
  . intro h
    rw [h]

theorem member?_toJson (c : Command) (key : String)
    : c.toJson.member? key
        =
      if key = "command" then some (.str c.kind)
      else if key = "action" then c.action?.map Action.toJson
      else c.target?.bind fun target =>
        if target.key = key then some (.int target.id.toNat) else none := by
  by_cases hkind : key = "command"
  . subst hkind
    cases c <;> rfl
  rw [if_neg hkind]
  by_cases haction : key = "action"
  . subst haction
    cases c <;> rfl
  rw [if_neg haction]
  cases c <;>
    simp [toJson, Json.member?, Json.Object.find?, target?, Target.key, Target.id, Ne.symm hkind,
      Ne.symm haction] <;>
    rfl

theorem ascending_keys_toJson (c : Command) : c.toJson.keys.Pairwise (· < ·) := by
  cases c with
  | listDevices | listGroups => exact List.pairwise_singleton _ _
  | getDevice id | observeDevice id =>
    change ["command", "device_id"].Pairwise (· < ·)
    decide
  | getGroup id | observeGroup id =>
    change ["command", "group_id"].Pairwise (· < ·)
    decide
  | light id action =>
    change ["action", "command", "device_id"].Pairwise (· < ·)
    decide
  | group id action =>
    change ["action", "command", "group_id"].Pairwise (· < ·)
    decide

theorem toJson_unambiguous
    : (∀ c d : Command, c.toJson = d.toJson ↔ c = d)
      ∧ (∀ c : Command, ofJson? c.toJson = some c)
      ∧ (∀ c : Command, c.toJson.keys.Pairwise (· < ·))
      ∧ (∀ action : LightAction, action.toJson.keys.Pairwise (· < ·))
      ∧ (∀ action : GroupAction, action.toJson.keys.Pairwise (· < ·))
      ∧ ∀ (c : Command) key, c.toJson.member? key
        = if key = "command" then some (.str c.kind)
          else if key = "action" then c.action?.map Action.toJson
          else c.target?.bind fun target =>
            if target.key = key then some (.int target.id.toNat) else none := by
  refine ⟨?_, ofJson?_toJson, ascending_keys_toJson, LightAction.ascending_keys_toJson,
    GroupAction.ascending_keys_toJson, member?_toJson⟩
  intro c d
  exact toJson_inj

end Command

end HomeHub.Gateway
