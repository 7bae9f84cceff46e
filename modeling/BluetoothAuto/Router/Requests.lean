import BluetoothAuto.Router.EventLoop

/-!
# What `DccPassthrough` sends

`DccPassthrough::request` writes the layers of its packet into `buffers_`, calls
`trigger_.schedule()`, and then sends what is in `buffers_`. The call in the middle lets the
runtime make the callbacks that are due, and a CAM tick or a timer of the router among them
requests another packet, which goes through the same buffers. The packet of the outer request is
then lost, and the last of the inner ones is sent in its place.

## Main results

* `EventLoop.requests_step` — what a step does to the packets let through and sent
* `EventLoop.sent_eq_requested_iff` — every packet that is let through is sent once, in order,
  exactly if no request is made within another
-/

namespace BluetoothAuto.Router

namespace EventLoop

variable {R : ManualRuntime} {T : WaitableTimer} {β : Type}

/-- The packet that a frame is to send. -/
def Frame.packet : Frame β → Option β
  | .send packet => some packet
  | _ => none

/-- The packets of the calls of `DccPassthrough::request` that have not returned, the innermost
first. -/
def outstanding (s : EventLoop R T β) : List β := s.stack.filterMap Frame.packet

/-- A request that is let through while another one has not returned. -/
def Nested (x : EventLoop R T β × Action β × EventLoop R T β) : Prop :=
  (∃ packet, x.2.1 = .request packet) ∧ x.1.allowPacketFlow = true ∧ x.1.outstanding ≠ []

/-! ### One step -/

theorem packet_eq_none_of_not_heavy {f : Frame β} (h : f.heavy = false) : f.packet = none := by
  cases f <;> first | rfl | cases h

theorem Quiet.outstanding {s t : EventLoop R T β} (h : Quiet s t) :
    t.outstanding = s.outstanding := by
  have hfilter : ∀ l : List (Frame β),
      l.filterMap Frame.packet = (l.filter Frame.heavy).filterMap Frame.packet := by
    intro l
    rw [List.filterMap_filter]
    refine List.filterMap_congr fun f _ => ?_
    cases hf : f.heavy with
    | true => rfl
    | false => exact packet_eq_none_of_not_heavy hf
  rw [EventLoop.outstanding, EventLoop.outstanding, hfilter t.stack, hfilter s.stack, h.heavy]

theorem outstanding_enter (s : EventLoop R T β) (frames : List (Frame β)) :
    (s.enter frames).outstanding = frames.filterMap Frame.packet ++ s.outstanding :=
  List.filterMap_append

/-- A return from a function that is not to send anything. -/
theorem outstanding_returnTo {s : EventLoop R T β} {f : Frame β} {rest : List (Frame β)}
    (hs : s.stack = f :: rest) (hf : f.packet = none) :
    (s.returnTo rest).outstanding = s.outstanding := by
  rw [outstanding, outstanding, hs, List.filterMap_cons_none hf]
  rfl

/-- The packets requested and sent, and the buffers, are those of `s`. -/
structure SameRequests (s t : EventLoop R T β) : Prop where
  outstanding : t.outstanding = s.outstanding
  requested : t.requested = s.requested
  sent : t.sent = s.sent
  buffers : t.buffers = s.buffers

/-- A request that is let through. -/
structure Requests (packet : β) (s t : EventLoop R T β) : Prop where
  outstanding : t.outstanding = packet :: s.outstanding
  requested : t.requested = s.requested ++ [packet]
  sent : t.sent = s.sent
  buffers : t.buffers = some packet

/-- A transmission. -/
structure Sends (s t : EventLoop R T β) : Prop where
  outstanding : ∃ packet, s.outstanding = packet :: t.outstanding
  requested : t.requested = s.requested
  sent : t.sent = s.sent ++ s.buffers.toList
  buffers : t.buffers = s.buffers

theorem requests_request {s : EventLoop R T β} (h : s.allowPacketFlow = true) (packet : β) :
    Requests packet s (s.request packet) := by
  rw [request, if_neg (by simp [h])]
  exact ⟨outstanding_enter _ _, rfl, rfl, rfl⟩

/-- The step that requests a packet. -/
theorem step_request {s t : EventLoop R T β} {packet : β}
    (h : (system R T β).step s (.request packet) = some t) : t = s.request packet := by
  replace h := (Option.ite_none_left_eq_some.mp h).2
  cases hstack : s.stack with
  | nil =>
    simp only [hstack] at h
    cases h
  | cons f rest =>
    simp only [hstack] at h
    cases f with
    | router => exact (Option.some.inj h).symm
    | _ => cases h

/-- **What a step does to the packets**: it requests one, it sends one, or it leaves them as they
are. -/
theorem requests_step {s t : EventLoop R T β} {a : Action β}
    (h : (system R T β).step s a = some t) :
    (∃ packet, a = .request packet ∧ s.allowPacketFlow = true ∧ Requests packet s t) ∨
      ¬ ((∃ packet, a = .request packet) ∧ s.allowPacketFlow = true) ∧
        (Sends s t ∨ SameRequests s t) := by
  by_cases hreq : (∃ packet, a = .request packet) ∧ s.allowPacketFlow = true
  · obtain ⟨⟨packet, rfl⟩, hallow⟩ := hreq
    exact .inl ⟨packet, rfl, hallow, step_request h ▸ requests_request hallow packet⟩
  · refine .inr ⟨hreq, ?_⟩
    cases effect_of_step h with
    | quiet hq => exact .inr ⟨hq.outstanding, hq.requested, hq.sent, hq.buffers⟩
    | updateRuntime time hstack =>
      exact .inr ⟨(outstanding_enter _ _).trans (outstanding_returnTo hstack rfl), rfl, rfl, rfl⟩
    | @call _ c queue _ _ _ =>
      obtain ⟨-, -, -, hbuffers, hrequested, hsent⟩ := quiet_fields_call { s with queue } c
      refine .inr ⟨?_, hrequested, hsent, hbuffers⟩
      rw [outstanding, stack_call, List.filterMap_append]
      cases c.owner <;> rfl
    | arm hstack _ =>
      rw [arm]
      split <;> exact .inr ⟨outstanding_returnTo hstack rfl, rfl, rfl, rfl⟩
    | @send rest packet hstack =>
      refine .inl ⟨⟨packet, ?_⟩, rfl, rfl, rfl⟩
      rw [outstanding, hstack]
      rfl
    | request _ hallow => exact absurd ⟨⟨_, rfl⟩, hallow⟩ hreq
    | positionVector hstack =>
      exact .inr ⟨(outstanding_enter _ _).trans (outstanding_returnTo hstack rfl), rfl, rfl, rfl⟩
    | camApplication hstack => exact .inr ⟨outstanding_returnTo hstack rfl, rfl, rfl, rfl⟩
    | onTimeout _ _ =>
      rw [onTimeout]
      split
      · exact .inr ⟨rfl, rfl, rfl, rfl⟩
      · exact .inr ⟨outstanding_enter _ _, rfl, rfl, rfl⟩
    | passUp _ => exact .inr ⟨outstanding_enter _ _, rfl, rfl, rfl⟩
    | _ => exact .inr ⟨rfl, rfl, rfl, rfl⟩

/-! ### Whole runs -/

/-- There is a transmission for every request. -/
structure Counted (s : EventLoop R T β) : Prop where
  length : s.sent.length + s.outstanding.length = s.requested.length
  filled : s.outstanding ≠ [] → ∃ packet, s.buffers = some packet

theorem counted_step {s t : EventLoop R T β} {a : Action β} (hs : Counted s)
    (h : (system R T β).step s a = some t) : Counted t := by
  obtain ⟨packet, -, -, hr⟩ | ⟨-, hr | hr⟩ := requests_step h
  · refine ⟨?_, fun _ => ⟨packet, hr.buffers⟩⟩
    rw [hr.sent, hr.outstanding, hr.requested, List.length_append, ← hs.length]
    simp only [List.length_cons, List.length_nil]
    omega
  · obtain ⟨packet, hout⟩ := hr.outstanding
    obtain ⟨filled, hfilled⟩ := hs.filled (by rw [hout]; exact List.cons_ne_nil _ _)
    refine ⟨?_, fun _ => ⟨filled, by rw [hr.buffers, hfilled]⟩⟩
    have := hs.length
    rw [hout, List.length_cons] at this
    rw [hr.sent, hr.requested, hfilled, Option.toList_some, List.length_append,
      List.length_singleton]
    omega
  · refine ⟨by rw [hr.sent, hr.outstanding, hr.requested, hs.length], fun hne => ?_⟩
    rw [hr.buffers]
    exact hs.filled (hr.outstanding ▸ hne)

/-- Every packet requested has been sent, once and in order, or is in the buffers and about to
be. -/
structure Kept (s : EventLoop R T β) : Prop where
  requested : s.sent ++ s.outstanding = s.requested
  buffers : ∀ packet ∈ s.outstanding, s.buffers = some packet

/-- A step that does not nest requests keeps the packets. -/
theorem kept_step {s t : EventLoop R T β} {a : Action β} (hs : Kept s) (hn : ¬ Nested (s, a, t))
    (h : (system R T β).step s a = some t) : Kept t := by
  obtain ⟨packet, rfl, hallow, hr⟩ | ⟨-, hr | hr⟩ := requests_step h
  · have hnil : s.outstanding = [] := by
      by_contra hne
      exact hn ⟨⟨packet, rfl⟩, hallow, hne⟩
    refine ⟨?_, fun p hp => ?_⟩
    · rw [hr.sent, hr.outstanding, hr.requested, ← hs.requested, hnil, List.append_nil]
    · rw [hr.outstanding, hnil] at hp
      rw [hr.buffers, List.mem_singleton.mp hp]
  · obtain ⟨packet, hout⟩ := hr.outstanding
    have hbuf := hs.buffers packet (by rw [hout]; exact List.mem_cons_self)
    refine ⟨?_, fun p hp => ?_⟩
    · rw [hr.sent, hr.requested, hbuf, ← hs.requested, hout, Option.toList_some, List.append_assoc]
      rfl
    · rw [hr.buffers]
      exact hs.buffers p (by rw [hout]; exact List.mem_cons_of_mem _ hp)
  · exact ⟨by rw [hr.sent, hr.outstanding, hr.requested, hs.requested],
      fun p hp => hr.buffers.trans (hs.buffers p (hr.outstanding ▸ hp))⟩

/-- A packet has been requested and will not be sent: it is no longer in the buffers. -/
structure Lost (packet : β) (s : EventLoop R T β) : Prop where
  requested : packet ∈ s.requested
  sent : packet ∉ s.sent
  buffers : s.buffers ≠ some packet

/-- A request within another one loses the packet of the outer one. -/
theorem lost_of_nested {s t : EventLoop R T β} {a : Action β} (hs : Kept s) (hn : Nested (s, a, t))
    (h : (system R T β).step s a = some t) (hnodup : t.requested.Nodup) :
    ∃ packet, Lost packet t := by
  obtain ⟨packet, -, -, hr⟩ | ⟨hno, -⟩ := requests_step h
  · obtain ⟨p, hp⟩ := List.exists_mem_of_ne_nil _ hn.2.2
    rw [hr.requested, ← hs.requested] at hnodup
    have hmem : p ∈ s.sent ++ s.outstanding := List.mem_append_right _ hp
    refine ⟨p, ?_, fun hsent => ?_, fun hbuf => ?_⟩
    · rw [hr.requested, ← hs.requested]
      exact List.mem_append_left _ hmem
    · rw [hr.sent] at hsent
      exact (List.nodup_append.mp (List.nodup_append.mp hnodup).1).2.2 p hsent p hp rfl
    · rw [hr.buffers] at hbuf
      exact (List.nodup_append.mp hnodup).2.2 p hmem packet (List.mem_singleton_self _)
        (Option.some.inj hbuf).symm
  · exact absurd ⟨hn.1, hn.2.1⟩ hno

theorem lost_step {packet : β} {s t : EventLoop R T β} {a : Action β} (hs : Lost packet s)
    (hnodup : t.requested.Nodup) (h : (system R T β).step s a = some t) : Lost packet t := by
  obtain ⟨q, -, -, hr⟩ | ⟨-, hr | hr⟩ := requests_step h
  · refine ⟨?_, hr.sent ▸ hs.sent, fun hbuf => ?_⟩
    · rw [hr.requested]
      exact List.mem_append_left _ hs.requested
    · rw [hr.requested] at hnodup
      rw [hr.buffers] at hbuf
      exact (List.nodup_append.mp hnodup).2.2 packet hs.requested q (List.mem_singleton_self _)
        (Option.some.inj hbuf).symm
  · refine ⟨hr.requested ▸ hs.requested, fun hsent => ?_, hr.buffers ▸ hs.buffers⟩
    rw [hr.sent, List.mem_append, Option.mem_toList] at hsent
    exact hsent.elim hs.sent hs.buffers
  · exact ⟨hr.requested ▸ hs.requested, hr.sent ▸ hs.sent, hr.buffers ▸ hs.buffers⟩

theorem requested_prefix_step {s t : EventLoop R T β} {a : Action β}
    (h : (system R T β).step s a = some t) : s.requested <+: t.requested := by
  obtain ⟨q, -, -, hr⟩ | ⟨-, hr | hr⟩ := requests_step h
  · exact ⟨[q], hr.requested.symm⟩
  · exact ⟨[], by rw [hr.requested, List.append_nil]⟩
  · exact ⟨[], by rw [hr.requested, List.append_nil]⟩

theorem requested_prefix_run {s t : EventLoop R T β} {as : List (Action β)}
    (h : (system R T β).run s as = some t) : s.requested <+: t.requested :=
  (system R T β).run_invariant (P := fun t => s.requested <+: t.requested)
    (fun _ _ _ hs hstep => hs.trans (requested_prefix_step hstep)) (List.prefix_refl _) h

theorem lost_run {packet : β} {s t : EventLoop R T β} {as : List (Action β)} (hs : Lost packet s)
    (hnodup : t.requested.Nodup) (h : (system R T β).run s as = some t) : Lost packet t := by
  induction as generalizing s with
  | nil =>
    cases h
    exact hs
  | cons a as ih =>
    obtain ⟨s', hs', h⟩ := (ActionSystem.run_cons_iff _).mp h
    exact ih (lost_step hs (hnodup.sublist (requested_prefix_run h).sublist) hs') h

/-- From a state in which no packet has been lost. -/
theorem sent_eq_requested_of_kept {s t : EventLoop R T β} {as : List (Action β)} (hs : Kept s)
    (hidle : t.stack = []) (hnodup : t.requested.Nodup) (h : (system R T β).run s as = some t) :
    t.sent = t.requested ↔ ∀ x ∈ (system R T β).trace s as, ¬ Nested x := by
  induction as generalizing s with
  | nil =>
    cases h
    have hnil : t.outstanding = [] := by rw [outstanding, hidle, List.filterMap_nil]
    refine iff_of_true ?_ (List.forall_mem_nil _)
    rw [← hs.requested, hnil, List.append_nil]
  | cons a as ih =>
    obtain ⟨s', hs', h⟩ := (ActionSystem.run_cons_iff _).mp h
    rw [ActionSystem.trace, hs', List.forall_mem_cons]
    by_cases hn : Nested (s, a, s')
    · have hnodup' := hnodup.sublist (requested_prefix_run h).sublist
      obtain ⟨packet, hlost⟩ := lost_of_nested hs hn hs' hnodup'
      have hlost := lost_run hlost hnodup h
      exact iff_of_false (fun heq => hlost.sent (heq ▸ hlost.requested)) fun hno => hno.1 hn
    · rw [ih (kept_step hs hn hs') h]
      exact (and_iff_right hn).symm

/-- **When every packet is sent once and in order.** In every run that ends in the loop there have
been as many transmissions as requests let through; one made while the packet flow is suppressed is
ignored. If the packets are all different, what has been sent is what has been let through, in that
order, exactly if no request was made within another. -/
theorem sent_eq_requested_iff {as : List (Action β)} {time : ℤ} {flag : Bool} {interval : ℕ}
    {s : EventLoop R T β} (h : (system R T β).run (main time flag interval) as = some s)
    (hidle : s.stack = []) :
    s.sent.length = s.requested.length ∧ (s.requested.Nodup →
      (s.sent = s.requested ↔
        ∀ x ∈ (system R T β).trace (main time flag interval) as, ¬ Nested x)) := by
  have hkept : Kept (main (R := R) (T := T) (β := β) time flag interval) :=
    ⟨rfl, List.forall_mem_nil _⟩
  refine ⟨?_, fun hnodup => sent_eq_requested_of_kept hkept hidle hnodup h⟩
  have hcounted : Counted s := (system R T β).run_invariant
    (fun _ _ _ hs hstep => counted_step hs hstep) ⟨rfl, fun hne => absurd rfl hne⟩ h
  have hnil : s.outstanding = [] := by rw [outstanding, hidle, List.filterMap_nil]
  rw [← hcounted.length, hnil, List.length_nil, Nat.add_zero]

/-- The CAM of a tick is requested, and while its request is in `TimeTrigger::schedule` the next
tick is due, whose CAM is requested too. -/
def overtaken : List (Action ℕ) :=
  setUp ++ [.onTimeout, .expire 1000000, .onTimeout, .updateRuntime 1000000,
    .call ⟨.cam, 100000⟩, .proceed, .request 1, .updateRuntime 1200000,
    .call ⟨.position, 1000000⟩, .updateRuntime 1200000,
    .call ⟨.cam, 1100000⟩, .proceed, .request 2, .updateRuntime 1200000] ++
    List.replicate 15 .proceed

/-- **A packet is lost.** Packet 2 is sent twice, and packet 1 is not sent. -/
theorem overtaken_packet_lost :
    ∃ s, (system listRuntime viewTimer ℕ).run (main 0 false 100) overtaken = some s ∧
      s.requested = [1, 2] ∧ s.sent = [2, 2] ∧
      ¬ ∀ x ∈ (system listRuntime viewTimer ℕ).trace (main 0 false 100) overtaken, ¬ Nested x := by
  refine ⟨_, rfl, ?_, ?_, ?_⟩
  · rfl
  · rfl
  · have hrun : (system listRuntime viewTimer ℕ).run (main 0 false 100) overtaken = some _ := rfl
    have h := (sent_eq_requested_iff hrun rfl).2 (by decide)
    rw [← h]
    decide

end EventLoop

end BluetoothAuto.Router
