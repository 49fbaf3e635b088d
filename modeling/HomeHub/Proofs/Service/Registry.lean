import HomeHub.Proofs.Table
import HomeHub.Service.Registry
import Mathlib.Data.List.Induction

/-!
Which handler a call of a service runs: the one that was registered last for its domain and its
service, once, and no other one. Pairs of a domain and a service are told apart by their ids, as
long as the domains have no dots.
-/

namespace HomeHub

namespace ServiceCall

theorem eq_nil_of_cut {domain more service rest : List Char} (h : '.' ∉ domain ++ more)
    (hcut : '.' :: service = more ++ '.' :: rest)
    : more = [] := by
  cases more with
  | nil => rfl
  | cons c more =>
    obtain ⟨rfl, _⟩ := List.cons.inj hcut
    exact absurd (List.mem_append_right domain (List.mem_cons_self ..)) h

theorem serviceId_inj {domain domain' service service' : String} (h : '.' ∉ domain.toList)
    (h' : '.' ∉ domain'.toList)
    : serviceId domain service = serviceId domain' service'
        ↔ domain = domain' ∧ service = service' := by
  constructor
  . intro hid
    have hlists : domain.toList ++ '.' :: service.toList
        = domain'.toList ++ '.' :: service'.toList := by
      simpa [serviceId] using congrArg String.toList hid
    simp only [← String.toList_inj]
    -- Neither domain goes on behind the first dot of the other.
    rcases List.append_eq_append_iff.1 hlists with ⟨more, hdomain, hcut⟩ | ⟨more, hdomain, hcut⟩
    . rw [hdomain] at h'
      cases eq_nil_of_cut h' hcut
      exact ⟨by simpa using hdomain.symm, by simpa using hcut⟩
    . rw [hdomain] at h
      cases eq_nil_of_cut h hcut
      exact ⟨by simpa using hdomain, by simpa using hcut.symm⟩
  . rintro ⟨rfl, rfl⟩
    rfl

example : serviceId "a.b" "c" = serviceId "a" "b.c" := by
  decide

end ServiceCall

namespace Registry

variable {η : Type}

theorem find?_register {domain domain' : String} (h : '.' ∉ domain.toList)
    (h' : '.' ∉ domain'.toList) (registry : Registry η) (service service' : String) (handler : η)
    : (registry.register domain service handler).find? domain' service'
        =
      if domain = domain' ∧ service = service' then some handler
      else registry.find? domain' service' := by
  unfold register find?
  rw [Table.find?_insert]
  simp only [ServiceCall.serviceId_inj h h']

theorem call_eq {m : Type → Type} [Monad m] (registry : Registry η)
    (run : η → ServiceCall → m (Except ServiceError Unit)) (domain service : String) (data : Json)
    (context : Context)
    : registry.call run domain service data context
        =
      match registry.find? domain service with
      | some handler => run handler ⟨domain, service, data, context⟩
      | none => pure (.error (.notFound domain service)) := by
  rfl

/-! ### Calls under way -/

inductive Errand (η α : Type) where
  | ended (a : α)
  | running (handler : η) (call : ServiceCall) (next : Except ServiceError Unit → Errand η α)

namespace Errand

variable {α β : Type}

def bind : Errand η α → (α → Errand η β) → Errand η β
  | .ended a, f => f a
  | .running handler call next, f => .running handler call fun result => (next result).bind f

instance : Monad (Errand η) where
  pure := .ended
  bind := .bind

def run (handler : η) (call : ServiceCall) : Errand η (Except ServiceError Unit) :=
  .running handler call .ended

def awaited : Errand η α → List (η × ServiceCall)
  | .ended _ => []
  | .running handler call _ => [(handler, call)]

end Errand

inductive Act (η : Type) where
  | register (domain service : String) (handler : η)
  | call (domain service : String) (data : Json) (context : Context)
  | finish (number : Nat) (result : Except ServiceError Unit)

namespace Act

def PlainDomain : Act η → Prop
  | .register domain _ _ => '.' ∉ domain.toList
  | _ => True

def handlerFor? (domain service : String) : Act η → Option η
  | .register d s handler => if d = domain ∧ s = service then some handler else none
  | _ => none

def resultFor? (number : Nat) : Act η → Option (Except ServiceError Unit)
  | .finish n result => if n = number then some result else none
  | _ => none

end Act

def latest? (domain service : String) (acts : List (Act η)) : Option η :=
  (acts.filterMap (Act.handlerFor? domain service)).getLast?

theorem latest?_eq_none_iff {domain service : String} {acts : List (Act η)}
    : latest? domain service acts = none
        ↔ ∀ handler, Act.register domain service handler ∉ acts := by
  unfold latest?
  rw [List.getLast?_eq_none_iff, List.filterMap_eq_nil_iff]
  constructor
  . intro h handler hmem
    have := h _ hmem
    simp [Act.handlerFor?] at this
  . intro h act hact
    cases act with
    | register d s handler =>
      apply if_neg
      rintro ⟨rfl, rfl⟩
      exact h handler hact
    | _ => rfl

theorem latest?_concat (domain service : String) (acts : List (Act η)) (act : Act η)
    : latest? domain service (acts ++ [act])
        =
      (act.handlerFor? domain service).or (latest? domain service acts) := by
  unfold latest?
  rw [List.filterMap_append, List.getLast?_append]
  cases hact : act.handlerFor? domain service with
  | none => simp [hact]
  | some handler => simp [hact]

structure Office (η : Type) where
  registry : Registry η := {}
  calls : List (Errand η (Except ServiceError Unit)) := []
  runs : List (Nat × η × ServiceCall) := []

namespace Office

def step (office : Office η) : Act η → Office η
  | .register domain service handler =>
    { office with registry := office.registry.register domain service handler }
  | .call domain service data context =>
    let errand := office.registry.call Errand.run domain service data context
    { office with
      calls := office.calls ++ [errand]
      runs := office.runs ++ errand.awaited.map (office.calls.length, ·) }
  | .finish number result =>
    match office.calls[number]? with
    | some (.running _ _ next) =>
      { office with
        calls := office.calls.set number (next result)
        runs := office.runs ++ (next result).awaited.map (number, ·) }
    | _ => office

def run (acts : List (Act η)) (office : Office η := {}) : Office η :=
  acts.foldl step office

def runsOf (office : Office η) (number : Nat) : List (η × ServiceCall) :=
  (office.runs.filter (·.1 = number)).map (·.2)

/--
What has become of a call, when these results have been returned to it since and this is the handler
registered for it. A handler that is set going for it gets what the call was made with, and the
first result is the result of the call.
-/
inductive Fared (office : Office η) (number : Nat) (call : ServiceCall)
    (results : List (Except ServiceError Unit)) : Option η → Prop where
  | notFound (hruns : office.runsOf number = [])
    (hcall : office.calls[number]?
      = some (.ended (.error (.notFound call.domain call.service)))) :
    Fared office number call results none
  | awaiting {handler : η} (hruns : office.runsOf number = [(handler, call)])
    (hresults : results = [])
    (hcall : office.calls[number]? = some (.running handler call .ended)) :
    Fared office number call results (some handler)
  | returned {handler : η} {result : Except ServiceError Unit}
    (hruns : office.runsOf number = [(handler, call)]) (hresults : results.head? = some result)
    (hcall : office.calls[number]? = some (.ended result)) :
    Fared office number call results (some handler)

variable {office : Office η} {number : Nat} {domain service : String}

/-! ### What is registered -/

theorem find?_step {act : Act η} (hact : act.PlainDomain) (hdomain : '.' ∉ domain.toList)
    : (office.step act).registry.find? domain service
        =
      (act.handlerFor? domain service).or (office.registry.find? domain service) := by
  cases act with
  | register d s handler =>
    unfold step
    dsimp only [Act.handlerFor?]
    rw [find?_register hact hdomain]
    split
    . rfl
    . rfl
  | call d s data context => rfl
  | finish number result =>
    unfold step
    dsimp only
    split
    . rfl
    . rfl

theorem run_concat (acts : List (Act η)) (act : Act η)
    : run (acts ++ [act]) = (run acts).step act := by
  unfold run
  rw [List.foldl_append]
  rfl

theorem run_append (acts more : List (Act η)) : run (acts ++ more) = run more (run acts) := by
  unfold run
  rw [List.foldl_append]

theorem find?_run {acts : List (Act η)} (hacts : ∀ act ∈ acts, act.PlainDomain)
    (hdomain : '.' ∉ domain.toList)
    : (run acts).registry.find? domain service = latest? domain service acts := by
  induction acts using List.reverseRecOn with
  | nil => rfl
  | append_singleton acts act ih =>
    have hact : act.PlainDomain := hacts act (by simp)
    have ih := ih fun act hmem => hacts act (List.mem_append_left _ hmem)
    rw [run_concat]
    rw [find?_step hact hdomain]
    rw [ih]
    rw [latest?_concat]

/-! ### One call among others -/

def Numbered (office : Office η) : Prop :=
  ∀ started ∈ office.runs, started.1 < office.calls.length

theorem numbered_step (h : office.Numbered) (act : Act η) : (office.step act).Numbered := by
  cases act with
  | register domain service handler => exact h
  | call domain service data context =>
    intro started hstarted
    unfold step at hstarted ⊢
    rw [List.length_append]
    cases List.mem_append.1 hstarted with
    | inl hold => exact Nat.lt_succ_of_lt (h started hold)
    | inr hnew =>
      obtain ⟨_, _, rfl⟩ := List.mem_map.1 hnew
      exact Nat.lt_succ_self _
  | finish number result =>
    unfold step
    dsimp only
    split
    . next handler call next hcall =>
      intro started hstarted
      rw [List.length_set]
      cases List.mem_append.1 hstarted with
      | inl hold => exact h started hold
      | inr hnew =>
        obtain ⟨_, _, rfl⟩ := List.mem_map.1 hnew
        exact (List.getElem?_eq_some_iff.1 hcall).1
    . exact h

theorem numbered_run (acts : List (Act η)) : (run acts).Numbered := by
  induction acts using List.reverseRecOn with
  | nil =>
    intro started hstarted
    contradiction
  | append_singleton acts act ih =>
    rw [run_concat]
    exact numbered_step ih act

theorem Numbered.runsOf_eq_nil (h : office.Numbered) : office.runsOf office.calls.length = [] := by
  unfold runsOf
  rw [List.map_eq_nil_iff, List.filter_eq_nil_iff]
  intro started hstarted hnumber
  have := h started hstarted
  simp only [decide_eq_true_eq] at hnumber
  omega

theorem runsOf_append (office : Office η) (started : List (η × ServiceCall)) (k : Nat)
    : ({ office with runs := office.runs ++ started.map (k, ·) } : Office η).runsOf number
        =
      office.runsOf number ++ if k = number then started else [] := by
  unfold runsOf
  rw [List.filter_append, List.map_append]
  split
  . next hk => simp [List.filter_map, hk, Function.comp_def]
  . next hk => simp [List.filter_map, hk, Function.comp_def]

theorem runsOf_step_of_none {act : Act η} (hact : act.resultFor? number = none)
    (hnumber : number < office.calls.length)
    : (office.step act).runsOf number = office.runsOf number
        ∧ (office.step act).calls[number]? = office.calls[number]? := by
  cases act with
  | register domain service handler => exact ⟨rfl, rfl⟩
  | call domain service data context =>
    constructor
    . apply (runsOf_append office _ _).trans
      rw [if_neg (Nat.ne_of_gt hnumber)]
      apply List.append_nil
    . apply List.getElem?_append_left hnumber
  | finish k result =>
    have hk : k ≠ number := by
      rintro rfl
      simp [Act.resultFor?] at hact
    unfold step
    dsimp only
    split
    . constructor
      . apply (runsOf_append office _ _).trans
        rw [if_neg hk]
        apply List.append_nil
      . exact List.getElem?_set_ne hk
    . exact ⟨rfl, rfl⟩

theorem step_finish_of_ended {result result' : Except ServiceError Unit}
    (h : office.calls[number]? = some (.ended result'))
    : office.step (.finish number result) = office := by
  unfold step
  dsimp only
  rw [h]

theorem Fared.lt_length {call : ServiceCall} {results : List (Except ServiceError Unit)}
    {handler? : Option η} (h : office.Fared number call results handler?)
    : number < office.calls.length := by
  cases h with
  | notFound hruns hcall => exact (List.getElem?_eq_some_iff.1 hcall).1
  | awaiting hruns hresults hcall => exact (List.getElem?_eq_some_iff.1 hcall).1
  | returned hruns hresults hcall => exact (List.getElem?_eq_some_iff.1 hcall).1

theorem Fared.step {call : ServiceCall} {results : List (Except ServiceError Unit)}
    {handler? : Option η} (h : office.Fared number call results handler?) (act : Act η)
    : (office.step act).Fared number call (results ++ (act.resultFor? number).toList)
        handler? := by
  cases hact : act.resultFor? number with
  | none =>
    obtain ⟨hsameRuns, hsameCall⟩ := runsOf_step_of_none hact h.lt_length
    rw [Option.toList_none, List.append_nil]
    cases h with
    | notFound hruns hcall => exact .notFound (hsameRuns.trans hruns) (hsameCall.trans hcall)
    | awaiting hruns hresults hcall =>
      exact .awaiting (hsameRuns.trans hruns) hresults (hsameCall.trans hcall)
    | returned hruns hresults hcall =>
      exact .returned (hsameRuns.trans hruns) hresults (hsameCall.trans hcall)
  | some result =>
    have hfinish : act = .finish number result := by
      cases act with
      | finish k found =>
        unfold Act.resultFor? at hact
        dsimp only at hact
        split at hact
        . next hk =>
          cases hact
          rw [hk]
        . contradiction
      | _ => contradiction
    subst hfinish
    rw [Option.toList_some]
    cases h with
    | notFound hruns hcall =>
      rw [step_finish_of_ended hcall]
      exact .notFound hruns hcall
    | returned hruns hresults hcall =>
      rw [step_finish_of_ended hcall]
      refine .returned hruns ?_ hcall
      rw [List.head?_append, hresults]
      rfl
    | @awaiting handler hruns hresults hcall =>
      have hstep : office.step (.finish number result)
          = { office with calls := office.calls.set number (.ended result) } := by
        unfold Office.step
        dsimp only
        rw [hcall]
        dsimp only [Errand.awaited]
        rw [List.map_nil, List.append_nil]
      have hhead : (results ++ [result]).head? = some result := by
        rw [hresults]
        rfl
      rw [hstep]
      exact .returned hruns hhead
        (List.getElem?_set_self (List.getElem?_eq_some_iff.1 hcall).1)

theorem Fared.run {call : ServiceCall} {results : List (Except ServiceError Unit)}
    {handler? : Option η} (h : office.Fared number call results handler?) (acts : List (Act η))
    : (run acts office).Fared number call (results ++ acts.filterMap (Act.resultFor? number))
        handler? := by
  induction acts generalizing office results with
  | nil =>
    rw [List.filterMap_nil, List.append_nil]
    exact h
  | cons act acts ih =>
    have hresults : results ++ (act :: acts).filterMap (Act.resultFor? number)
        = (results ++ (act.resultFor? number).toList)
          ++ acts.filterMap (Act.resultFor? number) := by
      rw [List.append_assoc, List.filterMap_cons]
      cases act.resultFor? number with
      | none => rfl
      | some result => rfl
    rw [hresults]
    exact ih (h.step act)

theorem fared_call (h : office.Numbered) (domain service : String) (data : Json)
    (context : Context)
    : (office.step (.call domain service data context)).Fared office.calls.length
        ⟨domain, service, data, context⟩ [] (office.registry.find? domain service) := by
  have hcall : (office.step (.call domain service data context)).calls[office.calls.length]?
      = some (office.registry.call Errand.run domain service data context) := by
    apply List.getElem?_concat_length
  have hruns : (office.step (.call domain service data context)).runsOf office.calls.length
      = (office.registry.call Errand.run domain service data context).awaited := by
    apply (runsOf_append office _ _).trans
    rw [if_pos rfl]
    rw [h.runsOf_eq_nil]
    rfl
  rw [call_eq] at hcall hruns
  cases hfind : office.registry.find? domain service with
  | none =>
    rw [hfind] at hcall hruns
    exact .notFound hruns hcall
  | some handler =>
    rw [hfind] at hcall hruns
    exact .awaiting hruns rfl hcall

theorem Fared.notFound_iff {call : ServiceCall} {results : List (Except ServiceError Unit)}
    {handler? : Option η} (h : office.Fared number call results handler?)
    : office.runsOf number = []
          ∧ office.calls[number]?
            = some (.ended (.error (.notFound call.domain call.service)))
        ↔ handler? = none := by
  cases h with
  | notFound hruns hcall => simp [hruns, hcall]
  | awaiting hruns hresults hcall => simp [hruns]
  | returned hruns hresults hcall => simp [hruns]

theorem reaches_latest {before : List (Act η)} (hbefore : ∀ act ∈ before, act.PlainDomain)
    {domain : String} (hdomain : '.' ∉ domain.toList) (service : String) (data : Json)
    (context : Context) (after : List (Act η))
    : let office := run (before ++ .call domain service data context :: after)
      let number := (run before).calls.length
      let registry := (run before).registry
      office.Fared number ⟨domain, service, data, context⟩
          (after.filterMap (Act.resultFor? number)) (latest? domain service before)
        ∧ (office.runsOf number = []
            ∧ office.calls[number]? = some (.ended (.error (.notFound domain service)))
          ↔ ∀ handler, .register domain service handler ∉ before)
        ∧ ∀ (m : Type → Type) [Monad m]
          (perform : η → ServiceCall → m (Except ServiceError Unit)),
          registry.call perform domain service data context
            = (match latest? domain service before with
              | some handler => perform handler ⟨domain, service, data, context⟩
              | none => pure (.error (.notFound domain service)))
          ∧ ∀ domain' service' handler, '.' ∉ domain'.toList →
            (domain', service') ≠ (domain, service) →
              (registry.register domain' service' handler).call perform domain service data context
                = registry.call perform domain service data context := by
  intro office number registry
  have hlatest : registry.find? domain service = latest? domain service before :=
    find?_run hbefore hdomain
  have hfared : office.Fared number ⟨domain, service, data, context⟩
      (after.filterMap (Act.resultFor? number)) (latest? domain service before) := by
    have hcall := fared_call (numbered_run before) domain service data context
    rw [hlatest] at hcall
    have hafter := hcall.run after
    rw [List.nil_append] at hafter
    have hoffice : office
        = run after ((run before).step (.call domain service data context)) := by
      apply run_append
    rw [hoffice]
    exact hafter
  refine ⟨hfared, ?_, ?_⟩
  . rw [← latest?_eq_none_iff]
    exact hfared.notFound_iff
  . intro m _ perform
    constructor
    . rw [call_eq, hlatest]
    . intro domain' service' handler hdomain' hne
      have hpair : ¬ (domain' = domain ∧ service' = service) := by
        rintro ⟨rfl, rfl⟩
        contradiction
      rw [call_eq, call_eq]
      rw [find?_register hdomain' hdomain, if_neg hpair]

def fiveActs : List (Act Nat) :=
  [.register "switch" "turn_on" 1, .register "switch" "turn_on.slowly" 2,
    .register "light" "turn_on" 3, .call "switch" "turn_off" .null { id := "a" },
    .register "switch" "turn_on" 4]

def actsAfterCall : List (Act Nat) :=
  [.register "switch" "turn_on" 5, .finish 1 (.error (.callFailed "jammed")), .finish 1 (.ok ())]

theorem reaches_replacing_handler
    : let office := run (fiveActs ++ .call "switch" "turn_on" .null { id := "b" } :: actsAfterCall)
      (∀ act ∈ fiveActs, act.PlainDomain) ∧ '.' ∉ "switch".toList
        ∧ office.runsOf 1 = [(4, ⟨"switch", "turn_on", .null, { id := "b" }⟩)]
        ∧ office.calls[1]? = some (.ended (.error (.callFailed "jammed"))) := by
  intro office
  have hplain : ∀ act ∈ fiveActs, act.PlainDomain := by
    simp [fiveActs, Act.PlainDomain]
  have hswitch : '.' ∉ "switch".toList := by decide
  obtain ⟨hfared, _⟩ := reaches_latest hplain hswitch "turn_on" .null { id := "b" } actsAfterCall
  have hlatest : latest? "switch" "turn_on" fiveActs = some 4 := by decide
  rw [hlatest] at hfared
  refine ⟨hplain, hswitch, ?_⟩
  cases hfared with
  | awaiting hruns hresults hcall => contradiction
  | returned hruns hresults hcall =>
    cases hresults
    exact ⟨hruns, hcall⟩

end Office

end Registry

end HomeHub
