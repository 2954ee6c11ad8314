import RobotBus.Wire.Decoder

/-!
# Receivers

A receiver decodes a stream that arrives in chunks. It looks at what has arrived only when that can
lead to something: not while a decoder still lacks bytes, and not any more behind a fault. So a long
item that comes in many small chunks is not begun again with each of them. `feedAll_drain` says that
nothing is missed by that.
-/

namespace RobotBus.Wire

structure Receiver where
  /-- What was decoded last time and left. -/
  buffer : Bytes := []
  /-- What has arrived since then, the newest chunk first. -/
  arrived : List Bytes := []
  /-- The number of bytes in the buffer and of those that have arrived. -/
  size : Nat := 0
  arrivedSize : Nat := 0
  pause : Pause := .incomplete 0

namespace Receiver

/-- All bytes of the stream that are not part of an item. -/
def rest (receiver : Receiver) : Bytes :=
  receiver.buffer ++ receiver.arrived.reverse.flatten

def put (receiver : Receiver) (chunk : Bytes) : Receiver :=
  { receiver with
    arrived := chunk :: receiver.arrived
    size := receiver.size + chunk.length
    arrivedSize := receiver.arrivedSize + chunk.length }

/-- Decodes what is there by `take`. -/
def decode (receiver : Receiver) (take : Bytes → Drained α) : List α × Receiver :=
  let drained := take receiver.rest
  (drained.items,
    { buffer := drained.rest, size := drained.rest.length, pause := drained.pause })

/-- The items that a chunk leads to. -/
def feed (receiver : Receiver) (take : Bytes → Drained α) (chunk : Bytes) : List α × Receiver :=
  let receiver := receiver.put chunk
  match receiver.pause with
  | .incomplete missing =>
    if receiver.arrivedSize < missing then ([], receiver) else receiver.decode take
  | .malformed _ | .complete => ([], receiver)

/-- The items that each chunk leads to, with the receiver after it. -/
def feedAll (receiver : Receiver) (take : Bytes → Drained α) :
    List Bytes → List (List α × Receiver)
  | [] => []
  | chunk :: chunks =>
    let (items, receiver) := receiver.feed take chunk
    (items, receiver) :: receiver.feedAll take chunks

end Receiver

/-! ## What a receiver skips -/

namespace Decoder

theorem drain_of_incomplete {d : Decoder α} {buffer : Bytes} {missing : Nat}
    (h : d.decode buffer = .incomplete missing) :
    d.drain buffer = ⟨[], buffer, .incomplete missing⟩ := by
  rw [drain]
  split <;> simp_all

theorem drain_of_malformed {d : Decoder α} {buffer : Bytes} {cause : Malformed}
    (h : d.decode buffer = .malformed cause) :
    d.drain buffer = ⟨[], buffer, .malformed cause⟩ := by
  rw [drain]
  split <;> simp_all

theorem drain_of_item {d : Decoder α} {buffer rest : Bytes} {a : α}
    (h : d.decode buffer = .item a rest) :
    d.drain buffer = { d.drain rest with items := a :: (d.drain rest).items } := by
  rw [drain]
  split <;> simp_all

/-- What decoding stops at. -/
def StopsAt (d : Decoder α) (buffer : Bytes) : Pause → Prop
  | .incomplete missing => d.decode buffer = .incomplete missing
  | .malformed cause => d.decode buffer = .malformed cause
  | .complete => False

theorem stopsAt_drain (d : Decoder α) (buffer : Bytes) :
    d.StopsAt (d.drain buffer).rest (d.drain buffer).pause := by
  fun_induction Decoder.drain d buffer with
  | case1 buffer missing h => exact h
  | case2 buffer cause h => exact h
  | case3 buffer a rest h _ more ih => exact ih

end Decoder

namespace Receiver

/-- Bookkeeping that fits to a decoder. -/
structure Fits (d : Decoder α) (receiver : Receiver) : Prop where
  arrivedSize_eq : receiver.arrivedSize = receiver.arrived.flatten.length
  stopsAt : receiver.pause = .incomplete 0 ∨ d.StopsAt receiver.buffer receiver.pause

theorem length_arrived (receiver : Receiver) :
    receiver.arrived.reverse.flatten.length = receiver.arrived.flatten.length := by
  simp [List.length_flatten, List.map_reverse, List.sum_reverse]

theorem rest_put (receiver : Receiver) (chunk : Bytes) :
    (receiver.put chunk).rest = receiver.rest ++ chunk := by
  simp [put, rest]

theorem Fits.put {d : Decoder α} {receiver : Receiver} (h : receiver.Fits d) (chunk : Bytes) :
    (receiver.put chunk).Fits d where
  arrivedSize_eq := by simp [Receiver.put, h.arrivedSize_eq]; omega
  stopsAt := h.stopsAt

theorem fits_decode (d : Decoder α) (receiver : Receiver) :
    (receiver.decode d.drain).2.Fits d where
  arrivedSize_eq := rfl
  stopsAt := .inr (d.stopsAt_drain receiver.rest)

/-- What is shown of a receiver after a chunk: items, bytes that are left, and a fault. -/
def shown (fed : List α × Receiver) : List α × Bytes × Option Malformed :=
  (fed.1, fed.2.rest, fed.2.pause.fault?)

theorem feed_drain {d : Decoder α} {receiver : Receiver} (h : receiver.Fits d) (chunk : Bytes) :
    let drained := d.drain (receiver.rest ++ chunk)
    shown (receiver.feed d.drain chunk) = (drained.items, drained.rest, drained.pause.fault?) ∧
      (receiver.feed d.drain chunk).2.Fits d := by
  have hPut := h.put chunk
  have hRest := rest_put receiver chunk
  generalize hNext : receiver.put chunk = next at hPut hRest
  have hFeed : receiver.feed d.drain chunk = match next.pause with
      | .incomplete missing =>
        if next.arrivedSize < missing then ([], next) else next.decode d.drain
      | .malformed _ | .complete => ([], next) := by
    rw [← hNext]
    rfl
  have hDecode : shown (next.decode d.drain) = ((d.drain next.rest).items,
      (d.drain next.rest).rest, (d.drain next.rest).pause.fault?) := by
    simp [shown, decode, rest]
  rw [hFeed, ← hRest]
  have hStops := hPut.stopsAt
  cases hPause : next.pause with
  | incomplete missing =>
    by_cases hMissing : next.arrivedSize < missing
    · simp only [hMissing, if_true]
      refine ⟨?_, hPut⟩
      have hBuffer : d.decode next.buffer = .incomplete missing := by
        rcases hStops with hStart | hStops
        · rw [hPause] at hStart
          cases hStart
          omega
        · rw [hPause] at hStops
          exact hStops
      have hLength : next.arrived.reverse.flatten.length < missing := by
        rw [length_arrived, ← hPut.arrivedSize_eq]
        exact hMissing
      obtain ⟨missing', hAll⟩ := d.incomplete_append _ _ _ hBuffer hLength
      have hAll : d.decode next.rest = .incomplete missing' := hAll
      simp [shown, hPause, Pause.fault?, Decoder.drain_of_incomplete hAll]
    · simp only [hMissing, if_false]
      exact ⟨hDecode, fits_decode d next⟩
  | malformed cause =>
    refine ⟨?_, hPut⟩
    have hBuffer : d.decode next.buffer = .malformed cause := by
      rcases hStops with hStart | hStops
      · rw [hPause] at hStart
        cases hStart
      · rw [hPause] at hStops
        exact hStops
    have hAll : d.decode next.rest = .malformed cause := d.malformed_append _ _ _ hBuffer
    simp [shown, hPause, Pause.fault?, Decoder.drain_of_malformed hAll]
  | complete =>
    rcases hStops with hStart | hStops
    · rw [hPause] at hStart
      cases hStart
    · rw [hPause] at hStops
      exact hStops.elim

theorem feedAll_fits {d : Decoder α} {receiver : Receiver} (h : receiver.Fits d)
    (chunks : List Bytes) :
    (receiver.feedAll d.drain chunks).map shown =
      (d.receive receiver.rest chunks).map fun drained =>
        (drained.items, drained.rest, drained.pause.fault?) := by
  induction chunks generalizing receiver with
  | nil => rfl
  | cons chunk chunks ih =>
    obtain ⟨hShown, hFits⟩ := feed_drain h chunk
    have hRest : (receiver.feed d.drain chunk).2.rest = (d.drain (receiver.rest ++ chunk)).rest :=
      congrArg (fun shown => shown.2.1) hShown
    simp only [feedAll, Decoder.receive, List.map_cons]
    rw [ih hFits, hRest, ← hShown]

/-- A receiver finds what a buffer that is drained after each chunk leads to. -/
theorem feedAll_drain (d : Decoder α) (chunks : List Bytes) :
    (feedAll {} d.drain chunks).map shown =
      (d.receive [] chunks).map fun drained =>
        (drained.items, drained.rest, drained.pause.fault?) :=
  feedAll_fits ⟨rfl, .inl rfl⟩ chunks

end Receiver

end RobotBus.Wire
