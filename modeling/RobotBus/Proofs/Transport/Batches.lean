import Mathlib.Algebra.Group.Nat.Defs
import RobotBus.Proofs.Transport.Delivery

/-!
# Batches

A writer appends the frames of a batch to one buffer. A frame that can not be encoded may have been
written in part when that shows, and then leaves the buffer as it was (`Frame.append_eq`), but uses
up its checksum base. So the bytes of a batch are `encodings`: those of the frames that can be
encoded, each with the base of its place (`Batch.bytes_appendAll`).

The next batch goes on with the base behind the last one. `Pipeline.run_writes` says what the socket
has taken of a writer after any moves: the encodings of all frames that the writer has ever put into
a batch, as far as they are not in its outbox. The bases of two of them are the same only if they
are as many frames apart as there are bases (`unencodable_leaves_no_trace`).
-/

namespace RobotBus

/-- There are texts of all lengths. -/
theorem Utf8.exists_length_encode (n : Nat) : ∃ text, (encode text).length = n := by
  induction n with
  | zero => exact ⟨"", rfl⟩
  | succ n ih =>
    obtain ⟨text, hText⟩ := ih
    refine ⟨text.push 'x', ?_⟩
    show (text.push 'x').utf8ByteSize = n + 1
    rw [String.utf8ByteSize_push, ← hText]
    rfl

namespace Wire

/-! ## Bases -/

namespace Bases

variable (bases : Bases)

/-- The base of a frame with so many frames before it. -/
def nth (n : Nat) : UInt64 :=
  bases.next + UInt64.ofNat n

/-- The supply after so many bases were taken. -/
def skip (n : Nat) : Bases :=
  ⟨bases.nth n⟩

theorem nth_zero : bases.nth 0 = bases.next :=
  UInt64.add_zero bases.next

theorem nth_skip (m n : Nat) : (bases.skip m).nth n = bases.nth (m + n) := by
  rw [skip, nth, nth, nth, UInt64.ofNat_add, UInt64.add_assoc]

theorem skip_zero : bases.skip 0 = bases := by
  rw [skip, nth_zero]

theorem skip_skip (m n : Nat) : (bases.skip m).skip n = bases.skip (m + n) := by
  rw [skip, nth_skip, skip]

theorem take_eq : bases.take = (bases.nth 0, bases.skip 1) := by
  rw [nth_zero]
  rfl

variable {bases}

/-- Only after as many bases as there are does one come again. -/
theorem eq_of_nth {m n : Nat} (hm : m < n + UInt64.size) (hn : n < m + UInt64.size)
    (h : bases.nth m = bases.nth n) : m = n := by
  have hSame : UInt64.ofNat m = UInt64.ofNat n := (UInt64.add_right_inj bases.next).1 h
  have hValues := congrArg UInt64.toNat hSame
  rw [UInt64.toNat_ofNat', UInt64.toNat_ofNat'] at hValues
  simp only [UInt64.size] at hm hn
  omega

end Bases

/-! ## Frames -/

namespace Frame

theorem isEncodable_iff {frame : Frame} : frame.isEncodable = true ↔
    frame.payload.length ≤ 2147483647 ∧
      (∀ text ∈ frame.target, (Utf8.encode text).length ≤ 65534) ∧
      ∀ text ∈ frame.source, (Utf8.encode text).length ≤ 65534 := by
  have hFits : ∀ text : Option String, textFits text = true ↔
      ∀ found ∈ text, (Utf8.encode found).length ≤ 65534 := by
    intro text
    cases text with
    | none => simp [textFits]
    | some found => simp [textFits]
  rw [isEncodable, Bool.and_eq_true, Bool.and_eq_true, decide_eq_true_eq, hFits, hFits]
  exact and_comm

/-- The bytes of a frame show the base that it was encoded with. -/
theorem baseOf_of_encode {frame : Frame} {base : UInt64} {bytes : Bytes}
    (h : frame.encode base = .ok bytes) : frame.baseOf bytes = base := by
  obtain ⟨_, target, source, _, _, rfl⟩ := encode_eq_ok_iff.1 h
  let behind := baseBytes base ++
    (frame.payload ++ bigEndianBytes 8 (checksum base frame.payload).toNat)
  let front := target ++ (source ++ bigEndianBytes 4 frame.payload.length)
  have hBytes : target ++ (source ++ body frame.payload base) = front ++ behind := by
    simp only [front, behind, body, List.append_assoc]
  have hBehind : behind.length = 8 + frame.payload.length + 8 := by
    simp only [behind, List.length_append, length_baseBytes, length_bigEndianBytes]
    omega
  have hDrop : (front ++ behind).drop ((front ++ behind).length - (8 + frame.payload.length + 8)) =
      behind := by
    rw [← hBehind, List.length_append, Nat.add_sub_cancel, List.drop_left]
  have hTake : behind.take 8 = baseBytes base := by
    rw [← length_baseBytes base, List.take_left]
  have hBase : base.toNat < valueCount 8 := base.toNat_lt
  rw [baseOf, hBytes, hDrop, hTake, baseBytes, bigEndian_bigEndianBytes, Nat.mod_eq_of_lt hBase,
    UInt64.ofNat_toNat]

end Frame

/-- The bytes of the frames that can be encoded, each with the base of its place among all of
them. -/
def encodings (bases : Bases) (frames : List Frame) : List Bytes :=
  frames.zipIdx.filterMap fun (frame, place) => (frame.encode (bases.nth place)).toOption

theorem encodings_append (bases : Bases) (frames frames' : List Frame) :
    encodings bases (frames ++ frames') =
      encodings bases frames ++ encodings (bases.skip frames.length) frames' := by
  rw [encodings, List.zipIdx_append, List.filterMap_append, ← encodings, Nat.zero_add,
    List.zipIdx_eq_map_add, List.filterMap_map, encodings]
  congr 2
  funext ⟨frame, place⟩
  show (frame.encode (bases.nth (frames.length + place))).toOption = _
  rw [← bases.nth_skip]

theorem encodings_singleton (bases : Bases) (frame : Frame) :
    encodings bases [frame] = (frame.encode bases.next).toOption.toList := by
  rw [← bases.nth_zero]
  cases hEncode : frame.encode (bases.nth 0) with
  | ok bytes => simp [encodings, hEncode, Except.toOption]
  | error cause => simp [encodings, hEncode, Except.toOption]

end Wire

namespace Transport

open Wire (Frame Bases encodings)

/-! ## Batches -/

theorem Batch.bases_append (batch : Batch) (frame : Frame) :
    (batch.append frame).bases = batch.bases.skip 1 := by
  simp only [append, Bases.take_eq]
  split <;> rfl

theorem Batch.bytes_append_eq (batch : Batch) (frame : Frame) :
    (batch.append frame).bytes = batch.bytes ++ (encodings batch.bases [frame]).flatten := by
  rw [bytes_append, Wire.encodings_singleton]
  cases frame.encode batch.bases.next with
  | ok bytes => simp [Except.toOption]
  | error cause => simp [Except.toOption]

/-- **A batch has the bytes of the frames that can be encoded**, behind what was in the buffer. -/
theorem Batch.bytes_appendAll (batch : Batch) (frames : List Frame) :
    (batch.appendAll frames).bytes = batch.bytes ++ (encodings batch.bases frames).flatten ∧
      (batch.appendAll frames).bases = batch.bases.skip frames.length := by
  induction frames generalizing batch with
  | nil => exact ⟨(List.append_nil _).symm, (Bases.skip_zero _).symm⟩
  | cons frame frames ih =>
    obtain ⟨hBytes, hBases⟩ := ih (batch.append frame)
    rw [Batch.bases_append] at hBytes hBases
    rw [Batch.bytes_append_eq] at hBytes
    refine ⟨hBytes.trans ?_, hBases.trans ?_⟩
    · rw [List.append_assoc, ← List.flatten_append]
      exact congrArg (batch.bytes ++ ·.flatten)
        (Wire.encodings_append batch.bases [frame] frames).symm
    · rw [Bases.skip_skip, Nat.add_comm]
      rfl

theorem Writer.outbox_load (writer : Writer) (frames : List Frame) :
    (writer.load frames).1.outbox = (encodings writer.bases frames).flatten ∧
      (writer.load frames).1.bases = writer.bases.skip frames.length :=
  Batch.bytes_appendAll { bases := writer.bases } frames

/-! ## All batches of a writer -/

namespace Pipeline

/-- The frames that a move puts into a batch. -/
def loads (p : Pipeline) : Event → List Frame
  | .load => if p.writer.isIdle ∧ p.queue.frames.isEmpty then p.taken else []
  | _ => []

/-- The bytes that the socket takes of the writer with a move. -/
def flushes (p : Pipeline) : Event → Bytes
  | .flush count => p.writer.outbox.take count
  | _ => []

/-- All frames that were put into batches by a sequence of moves. -/
def written (far : Endpoint) (p : Pipeline) : List Event → List Frame
  | [] => []
  | event :: events => p.loads event ++ (p.step far event).written far events

/-- All bytes that the socket has taken during a sequence of moves. -/
def sent (far : Endpoint) (p : Pipeline) : List Event → Bytes
  | [] => []
  | event :: events => p.flushes event ++ (p.step far event).sent far events

/-- A move that leaves the writer alone, but for the time of its next keepalive. -/
theorem writes_of_same {p p' : Pipeline} (hOutbox : p'.writer.outbox = p.writer.outbox)
    (hBases : p'.writer.bases = p.writer.bases) :
    p.writer.outbox ++ (encodings p.writer.bases []).flatten = [] ++ p'.writer.outbox ∧
      p'.writer.bases = p.writer.bases.skip ([] : List Frame).length :=
  ⟨(List.append_nil _).trans hOutbox.symm, hBases.trans (Bases.skip_zero _).symm⟩

theorem step_writes (far : Endpoint) (p : Pipeline) (event : Event) :
    p.writer.outbox ++ (encodings p.writer.bases (p.loads event)).flatten =
        p.flushes event ++ (p.step far event).writer.outbox ∧
      (p.step far event).writer.bases = p.writer.bases.skip (p.loads event).length := by
  cases event with
  | send message => exact writes_of_same rfl rfl
  | take =>
    have hWriter : (p.step far .take).writer = p.writer := by
      rw [step]
      split <;> rfl
    exact writes_of_same (by rw [hWriter]) (by rw [hWriter])
  | beat now =>
    rw [step]
    split
    · exact writes_of_same rfl rfl
    · exact writes_of_same rfl rfl
  | load =>
    rw [step, loads]
    split
    · rename_i hReady
      have hIdle : p.writer.outbox = [] := Writer.isIdle_iff.1 hReady.1
      obtain ⟨hOutbox, hBases⟩ := p.writer.outbox_load p.taken
      refine ⟨?_, hBases⟩
      rw [hIdle, List.nil_append]
      exact hOutbox.symm
    · exact writes_of_same rfl rfl
  | flush count =>
    refine ⟨?_, (Bases.skip_zero _).symm⟩
    show p.writer.outbox ++ [] = p.writer.outbox.take count ++ p.writer.outbox.drop count
    rw [List.append_nil, List.take_append_drop]
  | attach count now =>
    have hWriter : (p.step far (.attach count now)).writer = p.writer := by
      rw [step]
      split <;> rfl
    exact writes_of_same (by rw [hWriter]) (by rw [hWriter])
  | arrive count now =>
    have hWriter : (p.step far (.arrive count now)).writer = p.writer := by
      rw [step]
      split
      · split <;> rfl
      · rfl
    exact writes_of_same (by rw [hWriter]) (by rw [hWriter])
  | proceed now stopped =>
    have hWriter : (p.step far (.proceed now stopped)).writer = p.writer := by
      rw [step]
      split <;> rfl
    exact writes_of_same (by rw [hWriter]) (by rw [hWriter])
  | input now input =>
    have hWriter : (p.step far (.input now input)).writer = p.writer := by
      rw [step.eq_def]
      simp only
      split <;> rfl
    exact writes_of_same (by rw [hWriter]) (by rw [hWriter])

/-- **The socket is given the encodings of all frames that were put into batches**, with the bases
of their places, and nothing else. -/
theorem run_writes (far : Endpoint) (p : Pipeline) (events : List Event) :
    p.writer.outbox ++ (encodings p.writer.bases (p.written far events)).flatten =
        p.sent far events ++ (p.run far events).writer.outbox ∧
      (p.run far events).writer.bases = p.writer.bases.skip (p.written far events).length := by
  induction events generalizing p with
  | nil => exact writes_of_same rfl rfl
  | cons event events ih =>
    obtain ⟨hStep, hStepBases⟩ := p.step_writes far event
    obtain ⟨hRun, hRunBases⟩ := ih (p.step far event)
    rw [hStepBases] at hRun hRunBases
    refine ⟨?_, hRunBases.trans ?_⟩
    · rw [written, Wire.encodings_append, List.flatten_append, ← List.append_assoc, hStep,
        List.append_assoc, hRun, ← List.append_assoc]
      rfl
    · rw [Bases.skip_skip, written, List.length_append]

/-- **A frame that can not be encoded leaves no trace but a base that is left out.** Whatever is in
the buffer, the bytes of a batch come behind it: those of the frames that can be encoded, in order,
each with the base of its place. A frame can be encoded exactly if its payload and its texts are
short enough. One that can not be leaves the buffer as it was, also if its target was written before
its source was refused. And over all batches of a writer, the bases that two frames show are
different unless there are as many frames between them as there are bases. -/
theorem unencodable_leaves_no_trace (batch : Batch) (frames : List Frame) :
    (batch.appendAll frames).bytes = batch.bytes ++ (encodings batch.bases frames).flatten ∧
    (∀ (frame : Frame) base, (∃ bytes, frame.encode base = .ok bytes) ↔
      frame.payload.length ≤ 2147483647 ∧
        (∀ text ∈ frame.target, (Utf8.encode text).length ≤ 65534) ∧
        ∀ text ∈ frame.source, (Utf8.encode text).length ≤ 65534) ∧
    (∀ (frame : Frame) base buffer, frame.append base buffer = match frame.encode base with
      | .ok bytes => (buffer ++ bytes, none)
      | .error cause => (buffer, some cause)) ∧
    (∀ (frame : Frame) base buffer target cause, frame.payload.length ≤ 2147483647 →
      Wire.textBytes frame.target = .ok target → Wire.textBytes frame.source = .error cause →
      frame.write base buffer = (buffer ++ target, some cause) ∧
        frame.append base buffer = (buffer, some cause)) ∧
    ∀ (near : Config) (link : String) (bases : Bases) (began : Moment) (far : Endpoint)
      (events : List Event),
      let p := start near link bases began
      let written := p.written far events
      p.sent far events ++ (p.run far events).writer.outbox = (encodings bases written).flatten ∧
        ∀ (i j : Nat) (frame frame' : Frame) bytes bytes', i < j → j < i + 2 ^ 64 →
          written[i]? = some frame → frame.encode (bases.nth i) = .ok bytes →
          written[j]? = some frame' → frame'.encode (bases.nth j) = .ok bytes' →
          frame.baseOf bytes ≠ frame'.baseOf bytes' := by
  refine ⟨(batch.bytes_appendAll frames).1, ?_, Frame.append_eq, ?_, ?_⟩
  · intro frame base
    rw [Frame.encode_isOk_iff, Frame.isEncodable_iff]
  · intro frame base buffer target cause hPayload hTarget hSource
    have hFits : ¬Wire.largestPayload < frame.payload.length := Nat.not_lt.2 hPayload
    have hWrite : frame.write base buffer = (buffer ++ target, some cause) := by
      rw [Frame.write, if_neg hFits, hTarget, hSource]
    refine ⟨hWrite, ?_⟩
    rw [Frame.append, hWrite]
    show ((buffer ++ target).take buffer.length, some cause) = (buffer, some cause)
    rw [List.take_left]
  · intro near link bases began far events p written
    refine ⟨(p.run_writes far events).1.symm, ?_⟩
    intro i j frame frame' bytes bytes' hLess hNear _ hEncode _ hEncode' hSame
    rw [Frame.baseOf_of_encode hEncode, Frame.baseOf_of_encode hEncode'] at hSame
    have hPlaces := Bases.eq_of_nth (Nat.lt_add_right _ hLess) hNear hSame
    omega

/-- Of three frames, the second has a source of one byte too many. The bases begin at the largest
one. -/
theorem base_left_out :
    ∃ text first last, (Utf8.encode text).length = 65535 ∧
      Frame.encode ⟨some "arm", none, [1]⟩ 18446744073709551615 = .ok first ∧
      Frame.encode ⟨some "lamp", none, [2]⟩ 1 = .ok last ∧
      (Batch.appendAll { bytes := [9], bases := ⟨18446744073709551615⟩ }
        [⟨some "arm", none, [1]⟩, ⟨some "hub", some text, []⟩, ⟨some "lamp", none, [2]⟩]).bytes =
          9 :: (first ++ last) := by
  obtain ⟨text, hText⟩ := Utf8.exists_length_encode 65535
  let batch : Batch := { bytes := [9], bases := ⟨18446744073709551615⟩ }
  obtain ⟨hBytes, hEncodes, _⟩ := unencodable_leaves_no_trace batch
    [⟨some "arm", none, [1]⟩, ⟨some "hub", some text, []⟩, ⟨some "lamp", none, [2]⟩]
  obtain ⟨first, hFirst⟩ := (hEncodes ⟨some "arm", none, [1]⟩ 18446744073709551615).2
    (Frame.isEncodable_iff.1 (by decide +kernel))
  obtain ⟨last, hLast⟩ := (hEncodes ⟨some "lamp", none, [2]⟩ 1).2
    (Frame.isEncodable_iff.1 (by decide +kernel))
  obtain ⟨cause, hLong⟩ : ∃ cause, Frame.encode ⟨some "hub", some text, []⟩ 0 = .error cause := by
    cases hEncode : Frame.encode ⟨some "hub", some text, []⟩ 0 with
    | error cause => exact ⟨cause, rfl⟩
    | ok bytes =>
      have hShort := ((hEncodes _ 0).1 ⟨bytes, hEncode⟩).2.2 text rfl
      omega
  have hFirstPlace : batch.bases.nth 0 = 18446744073709551615 := by decide
  have hSecondPlace : batch.bases.nth 1 = 0 := by decide
  have hThirdPlace : batch.bases.nth 2 = 1 := by decide
  refine ⟨text, first, last, hText, hFirst, hLast, hBytes.trans ?_⟩
  simp only [encodings, List.zipIdx_cons, List.zipIdx_nil, List.filterMap_cons, List.filterMap_nil,
    Nat.zero_add, Nat.reduceAdd, hFirstPlace, hSecondPlace, hThirdPlace, hFirst, hLong, hLast,
    Except.toOption, List.flatten_cons, List.flatten_nil, List.append_nil]
  rfl

end Pipeline

end Transport

end RobotBus
