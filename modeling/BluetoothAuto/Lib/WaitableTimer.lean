import Mathlib.Data.Int.Notation
import Mathlib.Data.Nat.Notation

/-!
# Timers that are waited for

A timer of an event loop: it is set to expire at some time, any number of waits are started, and
when a wait is over its handler is called by the loop, and told whether the wait was cancelled.
Setting a timer cancels its waits.

A timer is known by its view: when it expires, how many waits there are, and which handlers are to
be called. The operations are characterised by what they do to the view.
-/

/-- What there is to be known about a timer. -/
structure TimerView where
  /-- When the timer expires. -/
  expiry : ℤ
  /-- The number of waits that are not over. -/
  waits : ℕ
  /-- The handlers to be called, in order: whether their waits were cancelled. -/
  handlers : List Bool
  deriving DecidableEq

/-- The waits are over, and their handlers are to be called. -/
def TimerView.over (v : TimerView) (cancelled : Bool) : TimerView :=
  { v with waits := 0, handlers := v.handlers ++ List.replicate v.waits cancelled }

@[simp] theorem TimerView.expiry_over (v : TimerView) (cancelled : Bool) :
    (v.over cancelled).expiry = v.expiry := rfl

@[simp] theorem TimerView.waits_over (v : TimerView) (cancelled : Bool) :
    (v.over cancelled).waits = 0 := rfl

@[simp] theorem TimerView.handlers_over (v : TimerView) (cancelled : Bool) :
    (v.over cancelled).handlers = v.handlers ++ List.replicate v.waits cancelled := rfl

/-- A timer, with its operations. -/
structure WaitableTimer where
  Timer : Type
  /-- A new timer. -/
  new : Timer
  /-- The timer is set to expire at a time. -/
  expiresAt : Timer → ℤ → Timer
  /-- The timer is set to expire some time from `now`. -/
  expiresFromNow : Timer → (now delay : ℤ) → Timer
  /-- A wait is started. -/
  asyncWait : Timer → Timer
  /-- The waits are cancelled. -/
  cancel : Timer → Timer
  /-- The timer expires. -/
  expire : Timer → Timer
  /-- The first of the handlers is called. -/
  callHandler : Timer → Timer
  view : Timer → TimerView
  waits_new : (view new).waits = 0
  handlers_new : (view new).handlers = []
  view_expiresAt (t : Timer) (time : ℤ) :
    view (expiresAt t time) = { (view t).over true with expiry := time }
  view_expiresFromNow (t : Timer) (now delay : ℤ) :
    view (expiresFromNow t now delay) = { (view t).over true with expiry := now + delay }
  view_asyncWait (t : Timer) :
    view (asyncWait t) = { view t with waits := (view t).waits + 1 }
  view_cancel (t : Timer) : view (cancel t) = (view t).over true
  view_expire (t : Timer) : view (expire t) = (view t).over false
  view_callHandler (t : Timer) :
    view (callHandler t) = { view t with handlers := (view t).handlers.tail }

attribute [simp] WaitableTimer.waits_new WaitableTimer.handlers_new WaitableTimer.view_expiresAt
  WaitableTimer.view_expiresFromNow WaitableTimer.view_asyncWait WaitableTimer.view_cancel
  WaitableTimer.view_expire WaitableTimer.view_callHandler

/-- A timer that is its view. -/
def viewTimer : WaitableTimer where
  Timer := TimerView
  new := ⟨0, 0, []⟩
  expiresAt v time := { v.over true with expiry := time }
  expiresFromNow v now delay := { v.over true with expiry := now + delay }
  asyncWait v := { v with waits := v.waits + 1 }
  cancel v := v.over true
  expire v := v.over false
  callHandler v := { v with handlers := v.handlers.tail }
  view v := v
  waits_new := rfl
  handlers_new := rfl
  view_expiresAt _ _ := rfl
  view_expiresFromNow _ _ _ := rfl
  view_asyncWait _ := rfl
  view_cancel _ := rfl
  view_expire _ := rfl
  view_callHandler _ := rfl
