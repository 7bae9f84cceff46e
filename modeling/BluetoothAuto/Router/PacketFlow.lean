import BluetoothAuto.Router.Requests

/-!
# The packet flow

`DccPassthrough::request` checks `allow_packet_flow_` first, and then calls `trigger_.schedule()`
before it sends. `RouterContext::update_position_vector` calls `trigger_.schedule()` before it
updates the packet flow. In both calls the runtime makes the callbacks that are due. So a request
that is made within an update finds the packet flow of the position before, and an update that is
made within a request may suppress the flow that this request has found allowed.

## Main results

* `EventLoop.flow_run` — outside of an update, the packet flow is what it should be
* `EventLoop.allowed_while_sending_iff` — the packet flow is still allowed when a packet is sent,
  exactly if no update within a request suppresses it
-/

namespace BluetoothAuto.Router

namespace EventLoop

variable {R : ManualRuntime} {T : WaitableTimer} {β : Type}

/-! ### What a step does to the packet flow -/

/-- The option that a call of `main` is to set. -/
def Frame.option : Frame β → Option Bool
  | .requirePositionFix flag => some flag
  | _ => none

/-- A step that leaves the packet flow and the option as they are. It may leave the innermost
function and enter others; if it changes the accuracy of the position, there is an update of the
packet flow among them. -/
structure KeepsFlow (s t : EventLoop R T β) : Prop where
  allow : t.allowPacketFlow = s.allowPacketFlow
  require : t.requirePositionFix = s.requirePositionFix
  stack : ∃ frames rest, t.stack = frames ++ rest ∧ (∀ f ∈ frames, Frame.option f = none) ∧
    (rest = s.stack ∨ ∃ f, s.stack = f :: rest ∧ f.option = none ∧ f ≠ .packetFlow) ∧
    (t.positionAccuracyIndicator = s.positionAccuracyIndicator ∨ .packetFlow ∈ frames)

/-- A step that sets the packet flow as the option and the position ask. -/
structure UpdatesFlow (rest : List (Frame β)) (flag : Bool) (s t : EventLoop R T β) : Prop where
  stack : t.stack = rest
  require : t.requirePositionFix = flag
  accuracy : t.positionAccuracyIndicator = s.positionAccuracyIndicator
  allow : t.allowPacketFlow = (!flag || s.positionAccuracyIndicator)

theorem updatesFlow_updatePacketFlow (s : EventLoop R T β) :
    UpdatesFlow s.stack s.requirePositionFix s s.updatePacketFlow := by
  rw [updatePacketFlow]
  split
  · next hflag => exact ⟨rfl, rfl, rfl, by simp [hflag]⟩
  · next hflag => exact ⟨rfl, rfl, rfl, by simp [hflag]⟩

/-- What a step does to the packet flow. -/
inductive FlowEffect (s : EventLoop R T β) : Action β → EventLoop R T β → Prop
  | keeps {a : Action β} {t : EventLoop R T β} (h : KeepsFlow s t) (ha : a = .proceed →
      ∀ rest, s.stack ≠ .packetFlow :: rest) : FlowEffect s a t
  | update {rest : List (Frame β)} {t : EventLoop R T β} (hstack : s.stack = .packetFlow :: rest)
      (h : UpdatesFlow rest s.requirePositionFix s t) : FlowEffect s .proceed t
  | require {rest : List (Frame β)} {flag : Bool} {t : EventLoop R T β}
      (hstack : s.stack = .requirePositionFix flag :: rest) (h : UpdatesFlow rest flag s t) :
      FlowEffect s .proceed t

/-- Only a function that goes on updates the packet flow. -/
theorem FlowEffect.of_ne {s t : EventLoop R T β} {a : Action β} (ha : a ≠ .proceed)
    (h : KeepsFlow s t) : FlowEffect s a t :=
  .keeps h fun heq => absurd heq ha

/-- Functions are entered. -/
theorem keepsFlow_enter {s t : EventLoop R T β} (frames : List (Frame β))
    (hstack : t.stack = frames ++ s.stack) (hallow : t.allowPacketFlow = s.allowPacketFlow)
    (hrequire : t.requirePositionFix = s.requirePositionFix)
    (haccuracy : t.positionAccuracyIndicator = s.positionAccuracyIndicator ∨ .packetFlow ∈ frames)
    (hframes : ∀ f ∈ frames, Frame.option f = none) : KeepsFlow s t :=
  ⟨hallow, hrequire, frames, s.stack, hstack, hframes, .inl rfl, haccuracy⟩

/-- No function is entered or left. -/
theorem keepsFlow_same {s t : EventLoop R T β} (hstack : t.stack = s.stack)
    (hallow : t.allowPacketFlow = s.allowPacketFlow)
    (hrequire : t.requirePositionFix = s.requirePositionFix)
    (haccuracy : t.positionAccuracyIndicator = s.positionAccuracyIndicator) : KeepsFlow s t :=
  keepsFlow_enter [] hstack hallow hrequire (.inl haccuracy) (List.forall_mem_nil _)

/-- The innermost function is left, and others are entered. -/
theorem keepsFlow_returnTo {s t : EventLoop R T β} {f : Frame β} {rest : List (Frame β)}
    (hs : s.stack = f :: rest) (hf : f.option = none ∧ f ≠ .packetFlow) (frames : List (Frame β))
    (hstack : t.stack = frames ++ rest) (hallow : t.allowPacketFlow = s.allowPacketFlow)
    (hrequire : t.requirePositionFix = s.requirePositionFix)
    (haccuracy : t.positionAccuracyIndicator = s.positionAccuracyIndicator ∨ .packetFlow ∈ frames)
    (hframes : ∀ f ∈ frames, Frame.option f = none) : KeepsFlow s t :=
  ⟨hallow, hrequire, frames, rest, hstack, hframes, .inr ⟨f, hs, hf⟩, haccuracy⟩

/-- The innermost function is left. -/
theorem keepsFlow_leave {s t : EventLoop R T β} {f : Frame β} {rest : List (Frame β)}
    (hs : s.stack = f :: rest) (hf : f.option = none ∧ f ≠ .packetFlow) (hstack : t.stack = rest)
    (hallow : t.allowPacketFlow = s.allowPacketFlow)
    (hrequire : t.requirePositionFix = s.requirePositionFix)
    (haccuracy : t.positionAccuracyIndicator = s.positionAccuracyIndicator) : KeepsFlow s t :=
  keepsFlow_returnTo hs hf [] hstack hallow hrequire (.inl haccuracy) (List.forall_mem_nil _)

theorem flowEffect_of_proceed {s t : EventLoop R T β} {f : Frame β} {rest : List (Frame β)}
    (hs : s.stack = f :: rest) (h : s.proceed rest f = some t) : FlowEffect s .proceed t := by
  have hkeeps : f ≠ .packetFlow → KeepsFlow s t → FlowEffect s .proceed t := fun hf hkeeps =>
    .keeps hkeeps fun _ rest' heq => hf (List.cons.inj (hs.symm.trans heq)).1
  cases f with
  | schedule => cases h
  | trigger =>
    simp only [proceed] at h
    split at h
    · obtain rfl := Option.some.inj h
      refine hkeeps (by simp) ?_
      rw [arm]
      split <;> exact keepsFlow_leave hs ⟨rfl, by simp⟩ rfl rfl rfl rfl
    · cases h
  | send packet =>
    obtain rfl := Option.some.inj h
    exact hkeeps (by simp) (keepsFlow_leave hs ⟨rfl, by simp⟩ rfl rfl rfl rfl)
  | onTimer requests =>
    refine hkeeps (by simp) ?_
    cases requests with
    | zero =>
      obtain rfl := Option.some.inj h
      exact keepsFlow_leave hs ⟨rfl, by simp⟩ rfl rfl rfl rfl
    | succ requests =>
      obtain rfl := Option.some.inj h
      exact keepsFlow_returnTo hs ⟨rfl, by simp⟩ [.router, .onTimer requests] rfl rfl rfl (.inl rfl)
        (by simp [Frame.option])
  | router =>
    obtain rfl := Option.some.inj h
    exact hkeeps (by simp) (keepsFlow_leave hs ⟨rfl, by simp⟩ rfl rfl rfl rfl)
  | packetFlow =>
    obtain rfl := Option.some.inj h
    have h := updatesFlow_updatePacketFlow (s.returnTo rest)
    exact .update hs ⟨h.stack, h.require, h.accuracy, h.allow⟩
  | positionVector =>
    obtain rfl := Option.some.inj h
    exact hkeeps (by simp) (keepsFlow_returnTo hs ⟨rfl, by simp⟩ [.schedule, .packetFlow] rfl rfl
      rfl (.inr (by simp)) (by simp [Frame.option]))
  | requirePositionFix flag =>
    obtain rfl := Option.some.inj h
    have h := updatesFlow_updatePacketFlow { s.returnTo rest with requirePositionFix := flag }
    exact .require hs ⟨h.stack, h.require, h.accuracy, h.allow⟩
  | camApplication =>
    obtain rfl := Option.some.inj h
    exact hkeeps (by simp) (keepsFlow_leave hs ⟨rfl, by simp⟩ rfl rfl rfl rfl)

theorem keepsFlow_call (s : EventLoop R T β) (queue : R.Queue) (c : Callback) :
    KeepsFlow s ({ s with queue }.call c) := by
  obtain ⟨owner, deadline⟩ := c
  cases owner with
  | position =>
    exact keepsFlow_enter [.schedule, .packetFlow] rfl rfl rfl (.inr (by simp))
      (by simp [Frame.option])
  | cam => exact keepsFlow_enter [.onTimer 2] rfl rfl rfl (.inl rfl) (by simp [Frame.option])
  | router scope =>
    exact keepsFlow_enter [.router] rfl rfl rfl (.inl rfl) (by simp [Frame.option])

/-- **What a step does to the packet flow.** -/
theorem flowEffect_of_step {s t : EventLoop R T β} {a : Action β}
    (h : (system R T β).step s a = some t) : FlowEffect s a t := by
  replace h := (Option.ite_none_left_eq_some.mp h).2
  split at h
  · next f rest hs => exact flowEffect_of_proceed hs h
  · next rest time hs =>
    obtain rfl := Option.some.inj h
    exact .of_ne (by simp) (keepsFlow_returnTo hs ⟨rfl, by simp⟩ [.trigger] rfl rfl rfl (.inl rfl)
      (by simp [Frame.option]))
  · next rest c hs =>
    split at h
    · next d queue _ =>
      obtain ⟨rfl, h⟩ := Option.ite_none_right_eq_some.mp h
      obtain rfl := Option.some.inj h
      exact .of_ne (by simp) (keepsFlow_call s queue d)
    · cases h
  · obtain rfl := Option.some.inj h
    exact .of_ne (by simp) (keepsFlow_same rfl rfl rfl rfl)
  · obtain rfl := Option.some.inj h
    exact .of_ne (by simp) (keepsFlow_same rfl rfl rfl rfl)
  · obtain rfl := Option.some.inj h
    exact .of_ne (by simp) (keepsFlow_same rfl rfl rfl rfl)
  · next packet hs =>
    obtain rfl := Option.some.inj h
    refine .of_ne (by simp) ?_
    rw [request]
    split
    · exact keepsFlow_same rfl rfl rfl rfl
    · exact keepsFlow_enter [.schedule, .send packet] rfl rfl rfl (.inl rfl)
        (by simp [Frame.option])
  · split at h
    · obtain ⟨-, h⟩ := Option.ite_none_right_eq_some.mp h
      obtain rfl := Option.some.inj h
      exact .of_ne (by simp) (keepsFlow_same rfl rfl rfl rfl)
    · cases h
  · split at h
    · obtain rfl := Option.some.inj h
      refine .of_ne (by simp) ?_
      rw [onTimeout]
      split
      · exact keepsFlow_same rfl rfl rfl rfl
      · exact keepsFlow_enter [.schedule] rfl rfl rfl (.inl rfl) (by simp [Frame.option])
    · cases h
  · obtain rfl := Option.some.inj h
    exact .of_ne (by simp) (keepsFlow_enter [.schedule, .router, .schedule] rfl rfl rfl (.inl rfl)
      (by simp [Frame.option]))
  · obtain rfl := Option.some.inj h
    exact .of_ne (by simp) (keepsFlow_same rfl rfl rfl rfl)
  · cases h

/-! ### The check of a request -/

/-- The packet flow is what the option and the position ask for, as soon as both have been
set. -/
structure Flow (flag : Bool) (s : EventLoop R T β) : Prop where
  option : s.stack.filterMap Frame.option = [flag] ∨
    s.stack.filterMap Frame.option = [] ∧ s.requirePositionFix = flag
  allow : .packetFlow ∈ s.stack ∨
    s.allowPacketFlow = (!s.requirePositionFix || s.positionAccuracyIndicator)

/-- The options that are to be set. -/
theorem KeepsFlow.options {s t : EventLoop R T β} (h : KeepsFlow s t) :
    t.stack.filterMap Frame.option = s.stack.filterMap Frame.option := by
  obtain ⟨frames, rest, hstack, hframes, hrest, -⟩ := h.stack
  rw [hstack, List.filterMap_append, List.filterMap_eq_nil_iff.mpr hframes, List.nil_append]
  obtain rfl | ⟨f, hs, hf, -⟩ := hrest
  · rfl
  · rw [hs, List.filterMap_cons_none hf]

theorem flow_step {flag : Bool} {s t : EventLoop R T β} {a : Action β} (hs : Flow flag s)
    (h : (system R T β).step s a = some t) : Flow flag t := by
  cases flowEffect_of_step h with
  | keeps h =>
    refine ⟨?_, ?_⟩
    · rw [h.options, h.require]
      exact hs.option
    · obtain ⟨frames, rest, hstack, -, hrest, haccuracy⟩ := h.stack
      rw [hstack, List.mem_append, h.allow, h.require]
      obtain haccuracy | hupdate := haccuracy
      · rw [haccuracy]
        refine hs.allow.imp_left fun hmem => .inr ?_
        obtain rfl | ⟨f, hs, -, hf⟩ := hrest
        · exact hmem
        · exact (List.mem_cons.mp (hs ▸ hmem)).resolve_left hf.symm
      · exact .inl (.inl hupdate)
  | update hstack h =>
    refine ⟨?_, .inr ?_⟩
    · have hoption := hs.option
      rw [hstack, List.filterMap_cons_none rfl] at hoption
      rw [h.stack, h.require]
      exact hoption
    · rw [h.allow, h.require, h.accuracy]
  | require hstack h =>
    refine ⟨.inr ?_, .inr ?_⟩
    · -- the option set is the only one there is
      have hoption := hs.option
      rw [hstack, List.filterMap_cons_some (by rfl)] at hoption
      obtain hoption | ⟨hoption, -⟩ := hoption
      · obtain ⟨rfl, hnil⟩ := List.cons.inj hoption
        rw [h.stack, h.require]
        exact ⟨hnil, rfl⟩
      · exact absurd hoption (List.cons_ne_nil _ _)
    · rw [h.allow, h.require, h.accuracy]

theorem flow_main (time : ℤ) (flag : Bool) (interval : ℕ) :
    Flow flag (main (R := R) (T := T) (β := β) time flag interval) :=
  ⟨.inl rfl, .inr rfl⟩

/-- **The packet flow outside of an update.** In every run, once `require_position_fix` has returned
and as long as no update of the position vector is on the stack, a request is let through without
the option, and with it exactly if the last update found the position accurate. -/
theorem flow_run {as : List (Action β)} {time : ℤ} {flag : Bool} {interval : ℕ}
    {s : EventLoop R T β} (h : (system R T β).run (main time flag interval) as = some s)
    (hset : s.stack.filterMap Frame.option = []) (hupdate : .packetFlow ∉ s.stack) :
    s.allowPacketFlow = (!flag || s.positionAccuracyIndicator) := by
  have hs : Flow flag s := (system R T β).run_invariant (fun _ _ _ hs hstep => flow_step hs hstep)
    (flow_main time flag interval) h
  obtain ⟨hoption, hallow⟩ := hs
  rw [hset] at hoption
  rw [hallow.resolve_left hupdate]
  obtain hoption | ⟨-, hflag⟩ := hoption
  · cases hoption
  · rw [hflag]

/-- With the option the first CAM tick is made while the flow is suppressed. -/
theorem flow_first_tick :
    ∃ s, (system listRuntime viewTimer Unit).run (main 0 true 100) (setUp ++ firstTick.take 6) =
        some s ∧
      s.stack = [.router, .onTimer 1, .trigger] ∧
      s.allowPacketFlow = (!true || s.positionAccuracyIndicator) := by
  have hrun : (system listRuntime viewTimer Unit).run (main 0 true 100)
      (setUp ++ firstTick.take 6) = some _ := rfl
  refine ⟨_, hrun, ?_, ?_⟩
  · rfl
  · exact flow_run hrun rfl (by decide)

/-! ### The transmission of a request -/

/-- The innermost call is an update, the position asks for the flow to be suppressed, and a request
that has found it allowed has not returned. -/
def Suppresses (s : EventLoop R T β) (a : Action β) : Prop :=
  a = .proceed ∧ (∃ rest, s.stack = .packetFlow :: rest) ∧ s.outstanding ≠ [] ∧
    s.requirePositionFix = true ∧ s.positionAccuracyIndicator = false

/-- The calls of `main` that are still to set an option, and those around them. -/
def aroundOption (s : EventLoop R T β) : List (Frame β) :=
  s.stack.dropWhile fun f => f.option.isNone

/-- No request has been made around a call of `main` that is to set an option. -/
def OptionFirst (s : EventLoop R T β) : Prop := s.aroundOption.filterMap Frame.packet = []

theorem optionFirst_step {s t : EventLoop R T β} {a : Action β} (hs : OptionFirst s)
    (h : (system R T β).step s a = some t) : OptionFirst t := by
  rw [OptionFirst, aroundOption] at hs ⊢
  cases flowEffect_of_step h with
  | keeps h =>
    obtain ⟨frames, rest, hstack, hframes, hrest, -⟩ := h.stack
    rw [hstack, List.dropWhile_append_of_pos (by simpa using hframes)]
    obtain rfl | ⟨f, hstack, hf, -⟩ := hrest
    · exact hs
    · rwa [hstack, List.dropWhile_cons_of_pos (by simp [hf])] at hs
  | update hstack h =>
    rw [hstack, List.dropWhile_cons_of_pos (by rfl)] at hs
    rwa [h.stack]
  | require hstack h =>
    -- there is no request around this call, and the calls that remain are around it
    rw [hstack, List.dropWhile_cons_of_neg (by simp [Frame.option]),
      List.filterMap_cons_none rfl] at hs
    rw [h.stack]
    exact List.sublist_nil.mp (hs ▸ (List.dropWhile_sublist _).filterMap _)

theorem optionFirst_main (time : ℤ) (flag : Bool) (interval : ℕ) :
    OptionFirst (main (R := R) (T := T) (β := β) time flag interval) := rfl

/-- **One step.** It keeps the flow allowed during the requests exactly if it is not the end of an
update that suppresses it. -/
theorem allowed_step {s t : EventLoop R T β} {a : Action β} (hI : OptionFirst s)
    (hs : s.outstanding ≠ [] → s.allowPacketFlow = true) (h : (system R T β).step s a = some t) :
    (t.outstanding ≠ [] → t.allowPacketFlow = true) ↔ ¬ Suppresses s a := by
  have hrequests := requests_step h
  cases flowEffect_of_step h with
  | keeps h hother =>
    refine iff_of_true (fun hne => ?_) fun hsup => ?_
    · rw [h.allow]
      obtain ⟨packet, -, hallow, -⟩ | ⟨-, hr | hr⟩ := hrequests
      · exact hallow
      · obtain ⟨packet, hout⟩ := hr.outstanding
        exact hs (hout ▸ List.cons_ne_nil _ _)
      · exact hs (hr.outstanding ▸ hne)
    · obtain ⟨rest, hstack⟩ := hsup.2.1
      exact hother hsup.1 rest hstack
  | @update rest _ hstack h =>
    have hout : t.outstanding = s.outstanding := by
      rw [outstanding, outstanding, h.stack, hstack, List.filterMap_cons_none rfl]
    rw [hout, h.allow, Suppresses]
    have hupdate : ∃ rest, s.stack = .packetFlow :: rest := ⟨rest, hstack⟩
    simp only [hupdate, true_and, not_and, Bool.or_eq_true, Bool.not_eq_true', Bool.not_eq_false]
    refine imp_congr_right fun _ => ?_
    cases s.requirePositionFix <;> simp
  | require hstack h =>
    have hnil : t.outstanding = [] := by
      rw [OptionFirst, aroundOption, hstack, List.dropWhile_cons_of_neg (by simp [Frame.option]),
        List.filterMap_cons_none rfl] at hI
      rw [outstanding, h.stack, hI]
    refine iff_of_true (fun hne => absurd hnil hne) fun hsup => ?_
    obtain ⟨rest, hstack'⟩ := hsup.2.1
    cases hstack.symm.trans hstack'

/-- **The packet flow when a packet is sent.** In every run, the packet flow is allowed from the
moment at which a request has found it allowed to the moment at which its packet is sent, exactly if
no update of the position vector that is made within a request suppresses it. -/
theorem allowed_while_sending_iff (time : ℤ) (flag : Bool) (interval : ℕ)
    (as : List (Action β)) :
    (∀ x ∈ (system R T β).trace (main time flag interval) as,
        x.2.2.outstanding ≠ [] → x.2.2.allowPacketFlow = true) ↔
      ∀ x ∈ (system R T β).trace (main time flag interval) as, ¬ Suppresses x.1 x.2.1 :=
  (system R T β).forall_trace_iff (I := OptionFirst)
    (P := fun s => s.outstanding ≠ [] → s.allowPacketFlow = true)
    (G := fun s a => ¬ Suppresses s a) (fun _ _ _ hI h => optionFirst_step hI h)
    (fun _ _ _ hI hs h => allowed_step hI hs h) (optionFirst_main time flag interval)
    (fun hne => absurd rfl hne) as

/-- The flow is allowed when the CAM of a tick is requested. While its request is in
`TimeTrigger::schedule` the next update of the position vector is due, and the position has become
inaccurate. -/
def lateSend : List (Action Unit) :=
  setUp ++ [.fetch true, .onTimeout, .expire 1000000, .onTimeout, .updateRuntime 1000000,
    .call ⟨.position, 1000000⟩, .updateRuntime 1000000, .proceed, .proceed, .proceed,
    .fetch false, .onTimeout, .expire 1500000, .onTimeout, .updateRuntime 1500000,
    .call ⟨.cam, 1500000⟩, .proceed, .request (), .updateRuntime 2000000,
    .call ⟨.position, 2000000⟩, .updateRuntime 2000000, .proceed, .proceed, .proceed]

/-- The CAM is sent all the same. -/
example : ∃ s, (system listRuntime viewTimer Unit).run (main 0 true 1500)
      (lateSend ++ [.proceed]) = some s ∧
    s.allowPacketFlow = false ∧ s.sent = [()] :=
  ⟨_, rfl, rfl, rfl⟩

end EventLoop

end BluetoothAuto.Router
