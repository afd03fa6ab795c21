import ChipEight.Keys.Layout
import ChipEight.Proofs.KeyWait
import Mathlib.Data.List.Nodup

/-!
# Held keys by their last events

Keys go down and come up one at a time, or come up all together.  A key is
held exactly if the last event that concerns it pressed it, and the list of
held keys and the lowest of them are views of the same set.  The layout gives
each key to one host key, so a key follows the last event of that host key
alone.  Both are `keypad_follows_last_events`.
-/

namespace ChipEight

/-! ## Events on the keypad -/

/-- What can happen to the keys of a keypad. -/
inductive KeyEvent
  | press (code : UInt8)
  | release (code : UInt8)
  | releaseAll
  deriving DecidableEq

/-- Whether an event says anything about the key with a code. -/
def KeyEvent.concerns (code : UInt8) : KeyEvent → Bool
  | press changed | release changed => changed == code
  | releaseAll => true

namespace Keypad

/-- The keypad after an event. -/
def take (keypad : Keypad) : KeyEvent → Keypad
  | .press code => keypad.press code
  | .release code => keypad.release code
  | .releaseAll => keypad.releaseAll

variable {keypad : Keypad} {code : UInt8}

/-- A code that names no key changes nothing. -/
theorem record_of_off_pad
    (off : 15 < code) (keypad : Keypad) (down : Bool) :
    keypad.record code down = keypad := by
  have outside : ¬ code.toNat < 16 := Nat.not_lt.mpr off
  rw [record, dif_neg outside]

theorem isHeld_of_off_pad (off : 15 < code) (keypad : Keypad) :
    keypad.isHeld code = false := by
  have outside : ¬ code.toNat < 16 := Nat.not_lt.mpr off
  rw [isHeld, dif_neg outside]

theorem isHeld_record_self_iff
    (keypad : Keypad) (code : UInt8) (down : Bool) :
    (keypad.record code down).isHeld code = true ↔
      code ≤ 15 ∧ down = true := by
  by_cases onPad : code ≤ 15
  · have inRange : code.toNat < 16 := Nat.lt_succ_of_le onPad
    rw [isHeld_record, if_pos ⟨rfl, inRange⟩]
    exact (and_iff_right onPad).symm
  · rw [isHeld_of_off_pad (UInt8.not_le.mp onPad)]
    simp [onPad]

/-- An event that concerns a key decides alone whether the key is held. -/
theorem isHeld_take_iff
    {event : KeyEvent}
    (concerned : event.concerns code = true) (keypad : Keypad) :
    (keypad.take event).isHeld code = true ↔
      code ≤ 15 ∧ event = .press code := by
  cases event with
  | press changed =>
      have same : changed = code := eq_of_beq concerned
      subst same
      exact (keypad.isHeld_record_self_iff changed true).trans (by simp)
  | release changed =>
      have same : changed = code := eq_of_beq concerned
      subst same
      exact (keypad.isHeld_record_self_iff changed false).trans (by simp)
  | releaseAll => simp [take, releaseAll]

theorem isHeld_take_of_unconcerned
    {event : KeyEvent}
    (unconcerned : event.concerns code = false) (keypad : Keypad) :
    (keypad.take event).isHeld code = keypad.isHeld code := by
  cases event with
  | press changed | release changed =>
      have different : changed ≠ code := ne_of_beq_false unconcerned
      simp [take, press, release, different]
  | releaseAll => cases unconcerned

/-- Whether the last of some events to concern a key pressed it. -/
def LastPressed (events : List KeyEvent) (code : UInt8) : Prop :=
  (events.filter (KeyEvent.concerns code)).getLast? = some (.press code)

/-- The last event decides about the keys that it concerns. -/
theorem lastPressed_concat_iff
    (events : List KeyEvent) (event : KeyEvent) (code : UInt8) :
    LastPressed (events ++ [event]) code ↔
      if event.concerns code then event = .press code
      else LastPressed events code := by
  unfold LastPressed
  rw [List.filter_append]
  cases concerned : event.concerns code <;> simp [concerned]

/-- From an idle keypad on, the held keys are those pressed last. -/
theorem isHeld_foldl_take_iff (events : List KeyEvent) (code : UInt8) :
    (events.foldl take idle).isHeld code = true ↔
      code ≤ 15 ∧ LastPressed events code := by
  induction events using List.reverseRecOn with
  | nil => simp [LastPressed]
  | append_singleton events event ih =>
      rw [List.foldl_append, List.foldl_cons, List.foldl_nil,
        lastPressed_concat_iff]
      cases concerned : event.concerns code with
      | true => exact isHeld_take_iff concerned _
      | false =>
          rw [isHeld_take_of_unconcerned concerned, ih]
          rfl

end Keypad

/-! ## The host's keys -/

namespace Layout

/-- A key is played by the host character that stands with it in the layout. -/
theorem exists_player_of_key?_eq_some
    {code : Int32} {key : Key}
    (plays : key? code = some key) :
    ∃ player ∈ players, player.2 = key ∧ code = keycode player.1 := by
  rcases Option.map_eq_some_iff.mp plays with ⟨player, found, rfl⟩
  have matched := List.find?_some found
  exact ⟨player, List.mem_of_find?_eq_some found, rfl, (eq_of_beq matched).symm⟩

/-- No key stands twice in the layout, so no two host keys play one key. -/
theorem key?_injective
    {first second : Int32} {key : Key}
    (firstPlays : key? first = some key)
    (secondPlays : key? second = some key) :
    first = second := by
  rcases exists_player_of_key?_eq_some firstPlays with
    ⟨firstPlayer, firstListed, rfl, rfl⟩
  rcases exists_player_of_key?_eq_some secondPlays with
    ⟨secondPlayer, secondListed, same, rfl⟩
  have distinct : (players.map Prod.snd).Nodup := by decide
  rw [List.inj_on_of_nodup_map distinct secondListed firstListed same]

/-- Every key is played by some host key. -/
theorem exists_key?_eq_some (key : Key) : ∃ code, key? code = some key := by
  have listed : ∀ key, ∃ player ∈ players, key? (keycode player.1) = some key :=
    by decide
  rcases listed key with ⟨player, _, plays⟩
  exact ⟨keycode player.1, plays⟩

end Layout

/-- A key of the host's keyboard that went down or came up. -/
structure HostKeyEvent where
  code : Int32
  down : Bool
  deriving DecidableEq

namespace Keypad

/-- The keypad after an event of the host's keyboard. -/
def hear (keypad : Keypad) (event : HostKeyEvent) : Keypad :=
  match Layout.key? event.code with
  | some key =>
    if event.down then keypad.press (UInt8.ofNat key.val)
    else keypad.release (UInt8.ofNat key.val)
  | none => keypad

variable {code : Int32} {key : Key} {event : HostKeyEvent}

theorem code_le_fifteen (key : Key) : UInt8.ofNat key.val ≤ 15 := by
  revert key
  decide

theorem eq_of_code_eq
    {first second : Key}
    (same : UInt8.ofNat first.val = UInt8.ofNat second.val) :
    first = second := by
  revert first second
  decide

/-- The host's event on a key's own host key is an event on the key. -/
theorem hear_of_plays
    (plays : Layout.key? event.code = some key) (keypad : Keypad) :
    keypad.hear event =
      keypad.record (UInt8.ofNat key.val) event.down := by
  rw [hear, plays]
  cases event.down <;> rfl

/-- The host key that plays a key says whether the key is held. -/
theorem isHeld_hear_iff
    (plays : Layout.key? event.code = some key) (keypad : Keypad) :
    (keypad.hear event).isHeld (UInt8.ofNat key.val) = true ↔
      event.down = true := by
  rw [hear_of_plays plays, isHeld_record_self_iff]
  exact and_iff_right (code_le_fifteen key)

/-- No other host key presses or releases it. -/
theorem isHeld_hear_of_other
    (plays : Layout.key? code = some key)
    (other : event.code ≠ code) (keypad : Keypad) :
    (keypad.hear event).isHeld (UInt8.ofNat key.val) =
      keypad.isHeld (UInt8.ofNat key.val) := by
  cases played : Layout.key? event.code with
  | none => rw [hear, played]
  | some otherKey =>
      have different : UInt8.ofNat otherKey.val ≠ UInt8.ofNat key.val := by
        intro same
        rw [eq_of_code_eq same] at played
        exact other (Layout.key?_injective played plays)
      rw [hear_of_plays played, isHeld_record,
        if_neg fun changed => different changed.1]

/-- A key is held exactly if the last event of its host key was a press. -/
theorem isHeld_foldl_hear_iff
    (plays : Layout.key? code = some key) (events : List HostKeyEvent) :
    (events.foldl hear idle).isHeld (UInt8.ofNat key.val) = true ↔
      (events.filter fun event => decide (event.code = code)).getLast? =
        some ⟨code, true⟩ := by
  induction events using List.reverseRecOn with
  | nil => simp
  | append_singleton events event ih =>
      rw [List.foldl_append, List.foldl_cons, List.foldl_nil,
        List.filter_append]
      by_cases same : event.code = code
      · rw [isHeld_hear_iff (same ▸ plays)]
        rcases event with ⟨changed, down⟩
        cases same
        simp
      · rw [isHeld_hear_of_other plays same, ih]
        simp [same]

end Keypad

/--
After any events a key is held exactly if its code is at most fifteen and the
last event that concerns it pressed it; the listed keys are these, in
ascending order, and the lowest is the least of them.  Other codes change
nothing.  Each key is played by exactly one host key, whose last event alone
decides whether the key is held.
-/
theorem keypad_follows_last_events :
    (∀ events : List KeyEvent,
      let keypad := events.foldl Keypad.take .idle
      let held (code : UInt8) :=
        code ≤ 15 ∧ Keypad.LastPressed events code
      (∀ code, keypad.isHeld code = true ↔ held code) ∧
        (∀ key : Key,
          key ∈ keypad.pressed ↔ held (UInt8.ofNat key.val)) ∧
        (keypad.pressed.Pairwise fun lower higher => lower < higher) ∧
        (∀ key,
          keypad.lowest? = some key ↔
            IsLeast {other : Key | held (UInt8.ofNat other.val)} key) ∧
        (keypad.lowest? = none ↔
          ∀ key : Key, ¬ held (UInt8.ofNat key.val))) ∧
      (∀ (keypad : Keypad) code,
        15 < code →
          keypad.press code = keypad ∧ keypad.release code = keypad) ∧
      (∀ first second key,
        Layout.key? first = some key → Layout.key? second = some key →
          first = second) ∧
      (∀ key, ∃ code, Layout.key? code = some key) ∧
      ∀ code key,
        Layout.key? code = some key →
          (∀ events : List HostKeyEvent,
            (events.foldl Keypad.hear .idle).isHeld
                  (UInt8.ofNat key.val) = true ↔
              (events.filter fun event =>
                decide (event.code = code)).getLast? =
                  some ⟨code, true⟩) ∧
            ∀ (keypad : Keypad) (event : HostKeyEvent),
              event.code ≠ code →
                (keypad.hear event).isHeld (UInt8.ofNat key.val) =
                  keypad.isHeld (UInt8.ofNat key.val) := by
  refine
    ⟨?_, ?_, fun _ _ _ => Layout.key?_injective, Layout.exists_key?_eq_some,
      ?_⟩
  · intro events keypad held
    have isHeld (code : UInt8) : keypad.isHeld code = true ↔ held code :=
      Keypad.isHeld_foldl_take_iff events code
    have heldKeys :
        keypad.heldKeys = {other : Key | held (UInt8.ofNat other.val)} := by
      ext key
      exact isHeld (UInt8.ofNat key.val)
    refine ⟨isHeld, ?_, keypad.pairwise_pressed, ?_, ?_⟩
    · intro key
      rw [Keypad.mem_pressed, isHeld]
    · intro key
      rw [Keypad.lowest?_eq_some_iff, heldKeys]
    · rw [Keypad.lowest?_eq_none_iff_heldKeys, heldKeys,
        Set.eq_empty_iff_forall_notMem]
      rfl
  · intro keypad code off
    exact
      ⟨Keypad.record_of_off_pad off keypad true,
        Keypad.record_of_off_pad off keypad false⟩
  · intro code key plays
    exact
      ⟨Keypad.isHeld_foldl_hear_iff plays, fun keypad _ other =>
        Keypad.isHeld_hear_of_other plays other keypad⟩

end ChipEight
