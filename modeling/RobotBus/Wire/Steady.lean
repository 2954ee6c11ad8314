import RobotBus.Wire.Field

/-!
# Steady readers

What a reader has found at the front of a buffer does not change when more bytes come: a field stays
the same, a fault stays a fault, and a buffer that lacks some bytes is too short until as many have
come. All readers of fields are steady, and so is what is composed of them.
-/

namespace RobotBus.Wire

/-- A reader whose findings do not depend on what follows. -/
def Read.Steady (r : Read α) : Prop :=
  ∀ buffer more, match r buffer with
    | .ok a rest => r (buffer ++ more) = .ok a (rest ++ more)
    | .error (.malformed cause) _ =>
      ∃ rest, r (buffer ++ more) = .error (.malformed cause) rest
    | .error (.underflow missing) _ => more.length < missing →
      ∃ missing' rest, r (buffer ++ more) = .error (.underflow missing') rest

theorem bind_of_ok {r : Read α} {f : α → Read β} {buffer rest : Bytes} {a : α}
    (h : r buffer = .ok a rest) : (r >>= f) buffer = f a rest := by
  change EStateM.bind r f buffer = _
  simp [EStateM.bind, h]

theorem bind_of_error {r : Read α} {f : α → Read β} {buffer rest : Bytes} {e : ReadError}
    (h : r buffer = .error e rest) : (r >>= f) buffer = .error e rest := by
  change EStateM.bind r f buffer = _
  simp [EStateM.bind, h]

theorem Read.Steady.bind {r : Read α} {f : α → Read β} (hr : r.Steady)
    (hf : ∀ a, (f a).Steady) : (r >>= f).Steady := by
  intro buffer more
  have h := hr buffer more
  cases hRead : r buffer with
  | ok a rest =>
    rw [hRead] at h
    rw [bind_of_ok hRead, bind_of_ok h]
    exact hf a rest more
  | error e rest =>
    rw [hRead] at h
    rw [bind_of_error hRead]
    cases e with
    | malformed cause =>
      obtain ⟨left, h⟩ := h
      exact ⟨left, bind_of_error h⟩
    | underflow missing =>
      intro hMore
      obtain ⟨missing', left, h⟩ := h hMore
      exact ⟨missing', left, bind_of_error h⟩

theorem steady_pure (a : α) : Read.Steady (pure a) :=
  fun _ _ => rfl

theorem steady_refuse (cause : Malformed) : Read.Steady (refuse cause : Read α) :=
  fun buffer more => ⟨buffer ++ more, rfl⟩

theorem Read.Steady.map {r : Read α} {f : α → β} (hr : r.Steady) : (f <$> r).Steady := by
  have h : f <$> r = r >>= fun a => pure (f a) := by
    funext buffer
    change EStateM.map f r buffer = EStateM.bind r _ buffer
    unfold EStateM.map EStateM.bind
    cases r buffer <;> rfl
  rw [h]
  exact hr.bind fun a => steady_pure (f a)

theorem steady_readBytes (n : Nat) : (readBytes n).Steady := by
  intro buffer more
  by_cases h : buffer.length < n
  · have hRead : readBytes n buffer = .error (.underflow (n - buffer.length)) buffer := by
      simp only [readBytes, List.length_take]
      rw [if_pos (by omega), Nat.min_eq_right (by omega)]
    rw [hRead]
    intro hMore
    refine ⟨n - (buffer ++ more).length, buffer ++ more, ?_⟩
    simp only [readBytes, List.length_take]
    have : (buffer ++ more).length < n := by simp; omega
    rw [if_pos (by omega), Nat.min_eq_right (by omega)]
  · have hRead : readBytes n buffer = .ok (buffer.take n) (buffer.drop n) :=
      readBytes_eq_ok_iff.2 ⟨by simp; omega, by simp⟩
    rw [hRead]
    exact readBytes_eq_ok_iff.2 ⟨by simp; omega, by simp [← List.append_assoc]⟩

theorem steady_readNat (width : Nat) : (readNat width).Steady :=
  (steady_readBytes width).map

theorem steady_readU16 : readU16.Steady :=
  (steady_readNat 2).map

theorem steady_readU32 : readU32.Steady :=
  (steady_readNat 4).map

theorem steady_readU64 : readU64.Steady :=
  (steady_readNat 8).map

theorem steady_readI32 : readI32.Steady :=
  (steady_readNat 4).map

theorem steady_readText : readText.Steady := by
  refine (steady_readNat 2).bind fun length => ?_
  by_cases h : length = absentMarker
  · simp only [h, if_true]
    exact steady_pure none
  · simp only [h, if_false]
    refine (steady_readBytes length).bind fun bytes => ?_
    cases Utf8.decode bytes with
    | ok text => exact steady_pure (some text)
    | error fault => exact steady_refuse _

end RobotBus.Wire
