import BluetoothAuto.Proxy.ReadGeonet

/-!
# The secured reader against the unsecured one

`readGeonet` exists twice. The copy in `proxy.c` makes an SSL object for every frame that passes
the filter and calls `SSL_write` only if `SSL_accept` succeeds on it; the copy in
`unsecured_proxy.c` calls `write` at once. Both reuse one buffer, which is all that an iteration
leaves to the next one.

## Main results

* `secured_refines_unsecured` — frame by frame, `SSL_write` is called as `write` is, unless the
  frame's own handshake failed
-/

namespace BluetoothAuto

/-- What the frame's own handshake lets through of the call that passes it on. -/
def restrict (x : RecvResult × Bool) (call : Option WriteCall) : Option WriteCall :=
  if x.2 then call else none

/-- Both copies leave the same variables to the next iteration, whatever `SSL_accept` returned. -/
theorem secured_step_state (s : ReaderState) (x : RecvResult × Bool) :
    (Secured.readGeonet.step s x).1 = (Unsecured.readGeonet.step s x.1).1 := by
  simp only [Secured.readGeonet, Unsecured.readGeonet]
  split
  · next t h => rw [h]
  · next t c h => rw [h]

/-- The calls of one iteration. -/
theorem secured_step_call (s : ReaderState) (x : RecvResult × Bool) :
    (Secured.readGeonet.step s x).2 = restrict x (Unsecured.readGeonet.step s x.1).2 := by
  simp only [Secured.readGeonet, Unsecured.readGeonet, restrict]
  split
  · next t h => rw [h, ite_self]
  · next t c h => rw [h]

/-- **The secured loop refines the unsecured one.** For every sequence of results of `recvfrom`
and of `SSL_accept`, the calls of `SSL_write` (offset, length and buffer) are the calls of `write`
on the same frames, without those whose own handshake failed. -/
theorem secured_refines_unsecured (s : ReaderState) (xs : List (RecvResult × Bool)) :
    Secured.readGeonet.answers s xs =
      List.zipWith restrict xs (Unsecured.readGeonet.answers s (xs.map Prod.fst)) := by
  refine Secured.readGeonet.answers_eq_zipWith (R := Eq) ?_ ?_ rfl xs
  · rintro s _ x rfl
    exact secured_step_state s x
  · rintro s _ x rfl
    exact secured_step_call s x

end BluetoothAuto
