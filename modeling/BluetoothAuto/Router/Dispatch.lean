import BluetoothAuto.Lib.ActionSystem
import Mathlib.Logic.Function.Basic

/-!
# Which application gets a packet

`RouterContext::enable` gives an application its router, and makes it the handler of its port in the
dispatcher; `disable` takes both away. A port has one handler, and `disable` takes it away without
looking whose it is. The list that the destructor goes through is never filled.

The applications are arbitrary, with the port that their `port()` returns. The dispatcher is
vanetza's, and a parameter: it keeps for each port the handler that was set last. Its hooks, which
see every packet, are left out.

## Main results

* `RouterContext.receives_iff` — when every enabled application is the handler of its port
* `RouterContext.received_run` — what an application receives then
* `RouterContext.destroy_run` — what the destructor leaves
-/

namespace BluetoothAuto.Router

/-- `Application::router_`, which the constructor does not set. -/
inductive RouterPointer where
  | indeterminate
  | null
  /-- The router of the context. -/
  | context
  deriving DecidableEq

/-- `btp::PortDispatcher`, as far as it has to do with the non-interactive handlers of ports. -/
structure PortDispatcher (α : Type) where
  Table : Type
  /-- A new dispatcher. -/
  new : Table
  /-- `set_non_interactive_handler`. -/
  setNonInteractiveHandler : Table → ℕ → Option α → Table
  /-- The application whose `indicate` is called for a packet to a port. -/
  handler : Table → ℕ → Option α
  handler_new (p : ℕ) : handler new p = none
  /-- The handler of the port is replaced, and the others stay. -/
  handler_set (table : Table) (p : ℕ) (app : Option α) :
    handler (setNonInteractiveHandler table p app) = Function.update (handler table) p app

/-- `RouterContext`, as far as it has to do with applications. -/
structure RouterContext {α : Type} (D : PortDispatcher α) (π : Type) where
  /-- `router_` of the applications. -/
  router : α → RouterPointer
  /-- `dispatcher_`. -/
  dispatcher : D.Table
  /-- `applications_`. -/
  applications : List α
  /-- The calls of `indicate` of an application, in order. -/
  received : List (α × π)

namespace RouterContext

variable {α π : Type} [DecidableEq α] {D : PortDispatcher α} (port : α → ℕ)

/-- The non-interactive handlers of the ports. -/
def handlers (s : RouterContext D π) : ℕ → Option α := D.handler s.dispatcher

/-- The call of `set_non_interactive_handler`. -/
def setNonInteractiveHandler (s : RouterContext D π) (p : ℕ) (handler : Option α) :
    RouterContext D π :=
  { s with dispatcher := D.setNonInteractiveHandler s.dispatcher p handler }

/-- `RouterContext::enable`. -/
def enable (s : RouterContext D π) (app : α) : RouterContext D π :=
  let s := { s with router := Function.update s.router app .context }
  if port app ≠ 0 then s.setNonInteractiveHandler (port app) (some app) else s

/-- `RouterContext::disable`. -/
def disable (s : RouterContext D π) (app : α) : RouterContext D π :=
  let s := if port app ≠ 0 then s.setNonInteractiveHandler (port app) none else s
  { s with router := Function.update s.router app .null }

/-- `RouterContext::~RouterContext`. -/
def destroy (s : RouterContext D π) : RouterContext D π := s.applications.foldl (disable port) s

/-- `PortDispatcher::indicate`, for a packet to port `p`: it calls the handler, if there is one. -/
def indicate (s : RouterContext D π) (p : ℕ) (packet : π) : RouterContext D π :=
  { s with received := s.received ++ ((s.handlers p).map fun app => (app, packet)).toList }

/-- A new context, and applications that have never been enabled. -/
def start : RouterContext D π where
  router _ := .indeterminate
  dispatcher := D.new
  applications := []
  received := []

/-- What can happen to a context. -/
inductive Action (α π : Type) where
  | enable (app : α)
  | disable (app : α)
  /-- The router passes a packet up. -/
  | indicate (p : ℕ) (packet : π)

/-- The context in the hands of its owner, with packets coming in. -/
def system (D : PortDispatcher α) (port : α → ℕ) :
    ActionSystem (RouterContext D π) (Action α π) where
  step s
    | .enable app => some (s.enable port app)
    | .disable app => some (s.disable port app)
    | .indicate p packet => some (s.indicate p packet)

/-! ### Routers and handlers -/

variable {port} {s t : RouterContext D π}

@[simp] theorem router_enable (s : RouterContext D π) (app : α) :
    (s.enable port app).router = Function.update s.router app .context := by
  rw [enable]
  split <;> rfl

@[simp] theorem router_disable (s : RouterContext D π) (app : α) :
    (s.disable port app).router = Function.update s.router app .null := by
  rw [disable]
  split <;> rfl

omit [DecidableEq α] in
/-- The handlers after `enable` or `disable` has dealt with the port. -/
theorem handlers_set (s : RouterContext D π) (app : α) (handler : Option α) (p : ℕ) :
    (if port app ≠ 0 then s.setNonInteractiveHandler (port app) handler else s).handlers p =
      if p = port app ∧ p ≠ 0 then handler else s.handlers p := by
  split
  · next hport =>
    show D.handler (D.setNonInteractiveHandler s.dispatcher (port app) handler) p = _
    rw [D.handler_set, Function.update_apply]
    refine if_congr (iff_self_and.mpr ?_) rfl rfl
    rintro rfl
    exact hport
  · next hport =>
    refine (if_neg ?_).symm
    rintro ⟨rfl, hp⟩
    exact hport hp

theorem handlers_enable (s : RouterContext D π) (app : α) (p : ℕ) :
    (s.enable port app).handlers p = if p = port app ∧ p ≠ 0 then some app else s.handlers p :=
  handlers_set { s with router := Function.update s.router app .context } app (some app) p

theorem handlers_disable (s : RouterContext D π) (app : α) (p : ℕ) :
    (s.disable port app).handlers p = if p = port app ∧ p ≠ 0 then none else s.handlers p :=
  handlers_set s app none p

@[simp] theorem received_enable (s : RouterContext D π) (app : α) :
    (s.enable port app).received = s.received := by
  rw [enable]
  split <;> rfl

@[simp] theorem received_disable (s : RouterContext D π) (app : α) :
    (s.disable port app).received = s.received := by
  rw [disable]
  split <;> rfl

@[simp] theorem applications_enable (s : RouterContext D π) (app : α) :
    (s.enable port app).applications = s.applications := by
  rw [enable]
  split <;> rfl

@[simp] theorem applications_disable (s : RouterContext D π) (app : α) :
    (s.disable port app).applications = s.applications := by
  rw [disable]
  split <;> rfl

/-! ### Handlers of their ports -/

/-- Every enabled application with a port is the handler of the port. -/
def Receives (port : α → ℕ) (s : RouterContext D π) : Prop :=
  ∀ app, s.router app = .context → port app ≠ 0 → s.handlers (port app) = some app

omit [DecidableEq α] in
theorem receives_start (port : α → ℕ) : Receives port (start : RouterContext D π) := by
  intro app hrouter
  cases hrouter

/-- A call does not concern the port of another enabled application. -/
def Exclusive (port : α → ℕ) (s : RouterContext D π) : Action α π → Prop
  | .enable app | .disable app =>
    ∀ other, other ≠ app → s.router other = .context → port other ≠ 0 → port other ≠ port app
  | .indicate _ _ => True

/-- One call keeps the handlers right exactly if it concerns no other application's port. -/
theorem receives_step {a : Action α π} (hs : Receives port s)
    (h : (system D port).step s a = some t) : Receives port t ↔ Exclusive port s a := by
  cases a with
  | enable app =>
    obtain rfl := Option.some.inj h
    constructor
    · intro ht other hne hrouter hport heq
      have hrouter' : (s.enable port app).router other = .context := by
        rw [router_enable, Function.update_of_ne hne, hrouter]
      have hhandler := ht other hrouter' hport
      rw [handlers_enable, if_pos ⟨heq, hport⟩] at hhandler
      exact hne (Option.some.inj hhandler).symm
    · intro hexclusive other hrouter hport
      rw [handlers_enable]
      by_cases hne : other = app
      · rw [hne, if_pos ⟨rfl, hne ▸ hport⟩]
      · rw [router_enable, Function.update_of_ne hne] at hrouter
        rw [if_neg fun heq => hexclusive other hne hrouter hport heq.1, hs other hrouter hport]
  | disable app =>
    obtain rfl := Option.some.inj h
    constructor
    · intro ht other hne hrouter hport heq
      have hrouter' : (s.disable port app).router other = .context := by
        rw [router_disable, Function.update_of_ne hne, hrouter]
      have hhandler := ht other hrouter' hport
      rw [handlers_disable, if_pos ⟨heq, hport⟩] at hhandler
      cases hhandler
    · intro hexclusive other hrouter hport
      rw [handlers_disable]
      by_cases hne : other = app
      · rw [router_disable, hne, Function.update_self] at hrouter
        cases hrouter
      · rw [router_disable, Function.update_of_ne hne] at hrouter
        rw [if_neg fun heq => hexclusive other hne hrouter hport heq.1, hs other hrouter hport]
  | indicate p packet =>
    obtain rfl := Option.some.inj h
    exact iff_of_true hs trivial

/-- **When every enabled application is the handler of its port.** Along a run exactly if no call
enables or disables an application whose port is that of another enabled application. -/
theorem receives_iff (D : PortDispatcher α) (port : α → ℕ) (as : List (Action α π)) :
    (∀ x ∈ (system D port).trace start as, Receives port x.2.2) ↔
      ∀ x ∈ (system D port).trace start as, Exclusive port x.1 x.2.1 :=
  (system D port).forall_trace_iff (I := fun _ => True) (P := Receives port) (G := Exclusive port)
    (fun _ _ _ _ _ => trivial) (fun _ _ _ _ hs h => receives_step hs h) trivial
    (receives_start port) as

/-! ### What an application receives -/

/-- A handler is an enabled application, and the port is its own. -/
def Handled (port : α → ℕ) (s : RouterContext D π) : Prop :=
  ∀ p app, s.handlers p = some app → s.router app = .context ∧ port app = p ∧ p ≠ 0

omit [DecidableEq α] in
theorem handled_start (port : α → ℕ) : Handled port (start : RouterContext D π) := by
  intro p app hhandler
  cases (D.handler_new p).symm.trans hhandler

theorem handled_step {a : Action α π} (hs : Handled port s)
    (h : (system D port).step s a = some t) : Handled port t := by
  cases a with
  | enable app =>
    obtain rfl := Option.some.inj h
    intro p other hhandler
    rw [handlers_enable] at hhandler
    rw [router_enable]
    split at hhandler
    · next hp =>
      obtain rfl := Option.some.inj hhandler
      exact ⟨Function.update_self _ _ _, hp.1.symm, hp.2⟩
    · obtain ⟨hrouter, hport⟩ := hs p other hhandler
      refine ⟨?_, hport⟩
      by_cases hne : other = app
      · rw [hne, Function.update_self]
      · rw [Function.update_of_ne hne, hrouter]
  | disable app =>
    obtain rfl := Option.some.inj h
    intro p other hhandler
    rw [handlers_disable] at hhandler
    rw [router_disable]
    split at hhandler
    · cases hhandler
    · next hp =>
      obtain ⟨hrouter, hport, hp0⟩ := hs p other hhandler
      refine ⟨?_, hport, hp0⟩
      -- a handler of its own port is not the application that is disabled
      have hne : other ≠ app := by
        rintro rfl
        exact hp ⟨hport.symm, hp0⟩
      rw [Function.update_of_ne hne, hrouter]
  | indicate p packet =>
    obtain rfl := Option.some.inj h
    exact hs

/-- The packets that an application has received. -/
def receivedBy (s : RouterContext D π) (app : α) : List π :=
  (s.received.filter (·.1 = app)).map Prod.snd

/-- The packet of a step that is addressed to an application: it goes to the port of the
application, and the application is enabled. -/
def addressed (port : α → ℕ) (app : α)
    (x : RouterContext D π × Action α π × RouterContext D π) : Option π :=
  match x.2.1 with
  | .indicate p packet =>
    if p = port app ∧ p ≠ 0 ∧ x.1.router app = .context then some packet else none
  | _ => none

theorem receivedBy_step {a : Action α π} (hh : Handled port s) (hr : Receives port s)
    (h : (system D port).step s a = some t) (app : α) :
    t.receivedBy app = s.receivedBy app ++ (addressed port app (s, a, t)).toList := by
  cases a with
  | enable other =>
    obtain rfl := Option.some.inj h
    rw [receivedBy, received_enable]
    exact (List.append_nil _).symm
  | disable other =>
    obtain rfl := Option.some.inj h
    rw [receivedBy, received_disable]
    exact (List.append_nil _).symm
  | indicate p packet =>
    obtain rfl := Option.some.inj h
    rw [receivedBy, receivedBy, indicate, List.filter_append, List.map_append]
    refine congrArg _ ?_
    show _ = (if p = port app ∧ p ≠ 0 ∧ s.router app = .context then some packet else none).toList
    split
    · next hto =>
      obtain ⟨rfl, hp, hrouter⟩ := hto
      rw [hr app hrouter hp]
      simp
    · next hto =>
      rcases hhandler : s.handlers p with _ | other
      · rfl
      · have hne : other ≠ app := by
          rintro rfl
          obtain ⟨hrouter, hport, hp⟩ := hh p other hhandler
          exact hto ⟨hport.symm, hp, hrouter⟩
        simp [hne]

/-- **What an application receives**: as long as no call concerns the port of another enabled
application, it receives the packets to its port that come in while it is enabled, in order, and no
others. -/
theorem received_run {as : List (Action α π)} (h : (system D port).run start as = some t)
    (hexclusive : ∀ x ∈ (system D port).trace start as, Exclusive port x.1 x.2.1) (app : α) :
    t.receivedBy app = ((system D port).trace start as).filterMap (addressed port app) :=
  (system D port).log_of_run (fun s => s.receivedBy app) (addressed port app)
    (P := fun s => Handled port s ∧ Receives port s)
    (fun _ _ _ hs hgood h => ⟨⟨handled_step hs.1 h, (receives_step hs.2 h).mpr hgood⟩,
      receivedBy_step hs.1 hs.2 h app⟩)
    ⟨handled_start port, receives_start port⟩ hexclusive h

/-- The ports of the applications of `socktap-cam`: `CamApplication`, and `BenchmarkApplication`. -/
def socktapCam (isCam : Bool) : ℕ := cond isCam 2001 0

/-- With only one port in use, no call is wrong. -/
theorem exclusive_socktapCam {D : PortDispatcher Bool} (s : RouterContext D π) (a : Action Bool π) :
    Exclusive socktapCam s a := by
  have hports : ∀ app other : Bool, other ≠ app → socktapCam other ≠ 0 →
      socktapCam other ≠ socktapCam app := by decide
  rcases a with app | app | ⟨p, packet⟩
  · exact fun other hne _ => hports app other hne
  · exact fun other hne _ => hports app other hne
  · trivial

/-- A dispatcher that is its table. -/
def tableDispatcher : PortDispatcher α where
  Table := ℕ → Option α
  new _ := none
  setNonInteractiveHandler := Function.update
  handler table := table
  handler_new _ := rfl
  handler_set _ _ _ := rfl

/-- `socktap-cam` enables both, and takes the first one away after two of four packets. -/
def fourPackets : List (Action Bool ℕ) :=
  [.enable true, .enable false, .indicate 2001 1, .indicate 2002 2, .indicate 2001 3,
    .disable true, .indicate 2001 4]

theorem received_four_packets :
    ∃ t, (system tableDispatcher socktapCam).run start fourPackets = some t ∧
      t.receivedBy true = [1, 3] :=
  have hrun : (system tableDispatcher socktapCam).run start fourPackets = some _ := rfl
  ⟨_, hrun, received_run hrun (fun x _ => exclusive_socktapCam x.1 x.2.1) true⟩

/-! ### The destructor -/

/-- What a call does to the pointer of an application. -/
def pointed (app : α) : Action α π → Option RouterPointer
  | .enable other => if other = app then some .context else none
  | .disable other => if other = app then some .null else none
  | .indicate _ _ => none

theorem router_step {a : Action α π} (h : (system D port).step s a = some t) (app : α) :
    some (t.router app) = (pointed app a).or (some (s.router app)) := by
  cases a with
  | enable other =>
    obtain rfl := Option.some.inj h
    rw [router_enable, Function.update_apply, pointed]
    by_cases heq : app = other
    · rw [if_pos heq, if_pos heq.symm, Option.some_or]
    · rw [if_neg heq, if_neg (Ne.symm heq), Option.none_or]
  | disable other =>
    obtain rfl := Option.some.inj h
    rw [router_disable, Function.update_apply, pointed]
    by_cases heq : app = other
    · rw [if_pos heq, if_pos heq.symm, Option.some_or]
    · rw [if_neg heq, if_neg (Ne.symm heq), Option.none_or]
  | indicate p packet =>
    obtain rfl := Option.some.inj h
    rfl

theorem applications_step {a : Action α π} (hs : s.applications = [])
    (h : (system D port).step s a = some t) : t.applications = [] := by
  cases a with
  | enable other =>
    obtain rfl := Option.some.inj h
    rw [applications_enable, hs]
  | disable other =>
    obtain rfl := Option.some.inj h
    rw [applications_disable, hs]
  | indicate p packet =>
    obtain rfl := Option.some.inj h
    exact hs

/-- **The destructor disables nothing**: an application that is enabled when the context is
destroyed keeps the pointer to its router, which is that of its last call, and one that was never
enabled nor disabled has a pointer that was never set. -/
theorem destroy_run {as : List (Action α π)} (h : (system D port).run start as = some t) (app : α) :
    some ((t.destroy port).router app) =
      (as.filterMap (pointed app)).getLast?.or (some .indeterminate) := by
  have hempty : t.applications = [] := (system D port).run_invariant
    (P := fun s => s.applications = []) (fun _ _ _ hs h => applications_step hs h) rfl h
  have hlast := (system D port).get_of_run (fun s => some (s.router app))
    (fun x => pointed app x.2.1) (fun _ _ _ h => router_step h app) h
  rw [destroy, hempty, ← (system D port).map_action_trace h, List.filterMap_map]
  exact hlast

/-- The destructor leaves one pointer to the router that it destroys, and one null. -/
theorem destroy_four_packets :
    ∃ t, (system tableDispatcher socktapCam).run start fourPackets = some t ∧
      some ((t.destroy socktapCam).router true) = some .null ∧
      some ((t.destroy socktapCam).router false) = some .context :=
  have hrun : (system tableDispatcher socktapCam).run start fourPackets = some _ := rfl
  ⟨_, hrun, destroy_run hrun true, destroy_run hrun false⟩

end RouterContext

end BluetoothAuto.Router
