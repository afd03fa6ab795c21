import ChipEight.Proofs.Timers
import ChipEight.Sound.Beeper
import Mathlib.Data.List.Chain

/-!
# The tone and its device

A beeper tells its device about changes of the tone only, so what it
remembers has to stay what the device does.  The pacer sets the tone to what
the sound timer says at the end of each tick that succeeds.  Put together,
after such a tick the device plays exactly if the sound timer runs, and
between two of them it is left alone: `device_follows_sound_timer`.
-/

namespace ChipEight

/-! ## Changes of a tone -/

namespace DeviceCommand

/-- What a tone asks of a device after another one, if it asks for anything. -/
def ofChange? : Bool → Bool → Option DeviceCommand
  | false, true => some resume
  | true, false => some pause
  | _, _ => none

/-- The commands for the changes in a row of tones, in order. -/
def ofChanges (tones : List Bool) : List DeviceCommand :=
  (tones.zip tones.tail).filterMap fun (before, on) => ofChange? before on

theorem ofChanges_cons_cons (before on : Bool) (later : List Bool) :
    ofChanges (before :: on :: later) =
      (ofChange? before on).toList ++ ofChanges (on :: later) := by
  cases before <;> cases on <;> rfl

/-- The command that a device heeded last if it plays a tone or does not. -/
def ofTone (on : Bool) : DeviceCommand :=
  if on then resume else pause

/-- No command for a change repeats the one before it. -/
theorem isChain_ofTone_cons_ofChanges (before : Bool) (tones : List Bool) :
    (ofTone before :: ofChanges (before :: tones)).IsChain (· ≠ ·) := by
  induction tones generalizing before with
  | nil => exact .singleton _
  | cons on later ih =>
      rw [ofChanges_cons_cons]
      cases before <;> cases on
      · exact ih false
      · exact List.isChain_cons_cons.mpr ⟨nofun, ih true⟩
      · exact List.isChain_cons_cons.mpr ⟨nofun, ih false⟩
      · exact ih true

/-- From off on the commands for the changes alternate, a resume first. -/
theorem alternating_ofChanges (tones : List Bool) :
    (ofChanges (false :: tones)).IsChain (· ≠ ·) ∧
      ∀ command ∈ (ofChanges (false :: tones)).head?, command = resume := by
  have chain := isChain_ofTone_cons_ofChanges false tones
  rw [List.isChain_cons] at chain
  rcases chain with ⟨first, rest⟩
  refine ⟨rest, ?_⟩
  intro command member
  cases command with
  | resume => rfl
  | pause => exact (first pause member rfl).elim

end DeviceCommand

/-- What a device does after some commands. -/
def DeviceStatus.after
    (status : DeviceStatus) (commands : List DeviceCommand) : DeviceStatus :=
  commands.foldl (fun _ command => command.status) status

/-! ## The beeper -/

namespace Beeper

variable {beeper : Beeper}

/-- The beeper after some tones were set in turn. -/
def after (beeper : Beeper) (tones : List Bool) : Beeper :=
  tones.foldl setTone beeper

/-- What setting some tones in turn tells the device. -/
def commands (beeper : Beeper) : List Bool → List DeviceCommand
  | [] => []
  | on :: later =>
      (beeper.command? on).toList ++ (beeper.setTone on).commands later

theorem after_concat (beeper : Beeper) (tones : List Bool) (on : Bool) :
    beeper.after (tones ++ [on]) = (beeper.after tones).setTone on :=
  List.foldl_concat ..

/-- Whether the device, if there is one, does what the beeper remembers. -/
def InStep (beeper : Beeper) : Prop :=
  ∀ status ∈ beeper.device,
    status = (DeviceCommand.ofTone beeper.playing).status

theorem inStep_create (available : Bool) : (create available).InStep := by
  intro status member
  cases available with
  | false => cases member
  | true =>
      cases member
      rfl

/-- Without a device nothing is told and only the tone is remembered. -/
theorem setTone_of_silent
    (silent : beeper.device = none) (on : Bool) :
    beeper.command? on = none ∧ beeper.setTone on = ⟨none, on⟩ := by
  have nothing : beeper.command? on = none := by
    rw [command?, silent, Option.isNone_none, Bool.or_true, if_pos rfl]
  exact ⟨nothing, by rw [setTone, nothing, silent]; rfl⟩

/-- A device is told about the change of the tone, and it obeys. -/
theorem setTone_of_device
    {status : DeviceStatus}
    (device : beeper.device = some status) (on : Bool) :
    beeper.command? on = DeviceCommand.ofChange? beeper.playing on ∧
      beeper.setTone on =
        ⟨some (status.after (beeper.command? on).toList), on⟩ := by
  rcases beeper with ⟨_, playing⟩
  cases device
  cases playing <;> cases on <;> exact ⟨rfl, rfl⟩

theorem InStep.setTone (inStep : beeper.InStep) (on : Bool) :
    (beeper.setTone on).InStep := by
  rcases beeper with ⟨device, playing⟩
  cases device with
  | none =>
      rw [(setTone_of_silent rfl on).2]
      exact nofun
  | some status =>
      have same : status = (DeviceCommand.ofTone playing).status :=
        inStep status rfl
      subst same
      cases playing <;> cases on <;> rintro _ ⟨⟩ <;> rfl

theorem InStep.after (inStep : beeper.InStep) (tones : List Bool) :
    (beeper.after tones).InStep := by
  induction tones using List.reverseRecOn with
  | nil => exact inStep
  | append_singleton tones on ih =>
      rw [after_concat]
      exact ih.setTone on

/-- Without a device there is nothing to command, whatever the tones. -/
theorem commands_of_silent
    (silent : beeper.device = none) (tones : List Bool) :
    beeper.commands tones = [] ∧ (beeper.after tones).device = none := by
  induction tones generalizing beeper with
  | nil => exact ⟨rfl, silent⟩
  | cons on later ih =>
      rcases setTone_of_silent silent on with ⟨nothing, remembered⟩
      have silent' : (beeper.setTone on).device = none := by
        rw [remembered]
      rcases ih silent' with ⟨rest, still⟩
      rw [commands, nothing, rest]
      exact ⟨rfl, still⟩

/-- A device is told about the changes of the tone, and it obeys. -/
theorem commands_of_device
    {status : DeviceStatus}
    (device : beeper.device = some status) (tones : List Bool) :
    beeper.commands tones =
        DeviceCommand.ofChanges (beeper.playing :: tones) ∧
      (beeper.after tones).device =
        some (status.after (beeper.commands tones)) := by
  induction tones generalizing beeper status with
  | nil => exact ⟨rfl, device⟩
  | cons on later ih =>
      rcases setTone_of_device device on with ⟨told, obeyed⟩
      have device' :
          (beeper.setTone on).device =
            some (status.after (beeper.command? on).toList) := by
        rw [obeyed]
      rcases ih device' with ⟨rest, final⟩
      have playing : (beeper.setTone on).playing = on := rfl
      rw [playing] at rest
      constructor
      · rw [commands, told, rest, DeviceCommand.ofChanges_cons_cons]
      · refine final.trans (congrArg some ?_)
        rw [commands, DeviceStatus.after, DeviceStatus.after,
          DeviceStatus.after, List.foldl_append]

/-- What a new beeper tells its device, and what that does then. -/
theorem commands_create (available : Bool) (tones : List Bool) :
    (create available).commands tones =
        (if available then DeviceCommand.ofChanges (false :: tones)
        else []) ∧
      ((create available).after tones).device =
        if available then
          some (DeviceStatus.paused.after ((create available).commands tones))
        else none := by
  cases available with
  | false => exact commands_of_silent rfl tones
  | true => exact commands_of_device rfl tones

/-- A device in step plays exactly if the beeper remembers that it does. -/
theorem InStep.playing_iff
    {status : DeviceStatus}
    (inStep : beeper.InStep)
    (device : status ∈ beeper.device) :
    status = .playing ↔ beeper.playing = true := by
  rw [inStep status device]
  cases beeper.playing <;> decide

end Beeper

/-! ## The tones of a session -/

namespace Pacer

/-- A tick that succeeds asks for the tone of its machine, others for none. -/
theorem tones_tick (pacer : Pacer) (machine : Machine) :
    ((pacer.tick machine).result = .ok () ∧
        Request.tones (pacer.tick machine).requests =
          [decide (0 < (pacer.tick machine).machine.state.sound)]) ∨
      ((pacer.tick machine).result ≠ .ok () ∧
        Request.tones (pacer.tick machine).requests = []) := by
  cases burst : (machine.burst pacer.speed.toNat).result with
  | error fault =>
      rw [tick_of_burst_error burst]
      exact Or.inr ⟨by rintro ⟨⟩, rfl⟩
  | ok answer =>
      rw [tick_of_burst_ok burst]
      exact Or.inl ⟨rfl, rfl⟩

theorem tones_poll (pacer : Pacer) (machine : Machine) (now : Instant) :
    ((pacer.poll machine now).result = .ok true ∧
        Request.tones (pacer.poll machine now).requests =
          [decide (0 < (pacer.poll machine now).machine.state.sound)]) ∨
      ((pacer.poll machine now).result ≠ .ok true ∧
        Request.tones (pacer.poll machine now).requests = []) := by
  cases due : pacer.isDue now with
  | false =>
      rw [poll_of_not_isDue due]
      exact Or.inr ⟨by rintro ⟨⟩, rfl⟩
  | true =>
      rw [poll_of_isDue due]
      rcases pacer.tones_tick machine with
        ⟨succeeded, tones⟩ | ⟨failed, tones⟩
      · exact Or.inl ⟨by rw [succeeded]; rfl, tones⟩
      · refine Or.inr ⟨?_, tones⟩
        intro fired
        cases result : (pacer.tick machine).result with
        | ok answer => exact failed result
        | error fault =>
            rw [result] at fired
            cases fired

end Pacer

namespace Session

/-- Whether an action on a session is a tick that runs and succeeds. -/
def Ticks (session : Session) : Action → Prop
  | .tick => (session.act .tick).result = .ok (.answer .done)
  | .poll now => (session.act (.poll now)).result = .ok (.fired true)
  | .operate _ | .pace _ => False

theorem result_ofTick_eq_ok_iff
    {answer : Type} {reply : answer → Reply}
    (injective : Function.Injective reply)
    (tick : Tick answer) (value : answer) :
    (ofTick reply tick).result = .ok (reply value) ↔
      tick.result = .ok value := by
  rcases tick with ⟨fault | other, _, _, _, _⟩
  · exact ⟨by rintro ⟨⟩, by rintro ⟨⟩⟩
  · simp [ofTick, Except.map, Except.mapError, injective.eq_iff]

/--
An action asks for a tone exactly if it is a tick that succeeds, and then for
the tone of the machine that it leaves.
-/
theorem tones_act (session : Session) (action : Action) :
    (session.Ticks action ∧
        Request.tones (session.act action).requests =
          [decide (0 < (session.act action).session.machine.state.sound)]) ∨
      (¬ session.Ticks action ∧
        Request.tones (session.act action).requests = []) := by
  cases action with
  | operate operation => exact Or.inr ⟨not_false, rfl⟩
  | pace speed =>
      refine Or.inr ⟨not_false, ?_⟩
      rw [act]
      cases Pacer.ofSpeed speed <;> rfl
  | tick =>
      rcases session with ⟨machine, _ | pacer⟩
      · exact Or.inr ⟨by rintro ⟨⟩, rfl⟩
      · have ticks :=
          result_ofTick_eq_ok_iff
            (Function.injective_of_subsingleton fun () => .answer .done)
            (pacer.tick machine) ()
        rcases pacer.tones_tick machine with
          ⟨succeeded, tones⟩ | ⟨failed, tones⟩
        · exact Or.inl ⟨ticks.mpr succeeded, tones⟩
        · exact Or.inr ⟨mt ticks.mp failed, tones⟩
  | poll now =>
      rcases session with ⟨machine, _ | pacer⟩
      · exact Or.inr ⟨by rintro ⟨⟩, rfl⟩
      · have ticks :=
          result_ofTick_eq_ok_iff (fun _ _ => Reply.fired.inj)
            (pacer.poll machine now) true
        rcases pacer.tones_poll machine now with
          ⟨fired, tones⟩ | ⟨failed, tones⟩
        · exact Or.inl ⟨ticks.mpr fired, tones⟩
        · exact Or.inr ⟨mt ticks.mp failed, tones⟩

theorem tones_concat
    (session : Session) (actions : List Action) (action : Action) :
    session.tones (actions ++ [action]) =
      session.tones actions ++
        Request.tones ((session.after actions).act action).requests := by
  induction actions generalizing session with
  | nil =>
      rw [List.nil_append, tones_cons]
      exact List.append_nil _
  | cons first rest ih =>
      rw [List.cons_append, tones_cons, ih, tones_cons, List.append_assoc]
      rfl

end Session

/--
A new beeper remembers the tone last set, and its device, if there is one,
is told to resume at each change from off to on and to pause at each change
from on to off, starting from off, and nothing else; so these commands
alternate, a resume first, and the device does what the beeper remembers.
Let the requests of any session set the tone.  After a tick that succeeds
the device then plays exactly if the sound timer of the machine is above
zero, while a tick that fails and every other action tells the device
nothing.
-/
theorem device_follows_sound_timer :
    (∀ available tones,
      let beeper := Beeper.create available
      let commands := beeper.commands tones
      (∀ on, (beeper.after (tones ++ [on])).playing = on) ∧
        commands =
          (if available then DeviceCommand.ofChanges (false :: tones)
          else []) ∧
        commands.IsChain (· ≠ ·) ∧
        (∀ command ∈ commands.head?, command = .resume) ∧
        (beeper.after tones).device =
          (if available then some (DeviceStatus.paused.after commands)
          else none) ∧
        ∀ status ∈ (beeper.after tones).device,
          status = .playing ↔ (beeper.after tones).playing = true) ∧
      ∀ available (session : Session) actions action,
        let beeper := Beeper.create available
        let before := beeper.after (session.tones actions)
        let after := beeper.after (session.tones (actions ++ [action]))
        let machine := (session.after (actions ++ [action])).machine
        ((session.after actions).Ticks action →
          after.device.isSome = available ∧
            ∀ status ∈ after.device,
              status = .playing ↔ 0 < machine.state.sound) ∧
          (¬ (session.after actions).Ticks action →
            after = before ∧
              beeper.commands (session.tones (actions ++ [action])) =
                beeper.commands (session.tones actions)) := by
  constructor
  · intro available tones beeper commands
    rcases Beeper.commands_create available tones with ⟨sent, device⟩
    have alternating :
        commands.IsChain (· ≠ ·) ∧
          ∀ command ∈ commands.head?, command = .resume := by
      simp only [commands, beeper, sent]
      cases available with
      | false => exact ⟨.nil, nofun⟩
      | true => exact DeviceCommand.alternating_ofChanges tones
    have inStep := (Beeper.inStep_create available).after tones
    refine ⟨?_, sent, alternating.1, alternating.2, device, ?_⟩
    · intro on
      rw [Beeper.after_concat]
      rfl
    · intro status member
      exact inStep.playing_iff member
  · intro available session actions action beeper before after machine
    have tones := session.tones_concat actions action
    rcases (session.after actions).tones_act action with
      ⟨ticks, asked⟩ | ⟨quiet, silent⟩
    · refine ⟨fun _ => ?_, fun noTick => (noTick ticks).elim⟩
      rw [asked] at tones
      have playing :
          after.playing = decide (0 < machine.state.sound) := by
        simp only [after, machine, tones, Beeper.after_concat,
          Session.after_concat]
        rfl
      have inStep := (Beeper.inStep_create available).after
        (session.tones (actions ++ [action]))
      constructor
      · simp only [after, beeper, (Beeper.commands_create _ _).2]
        cases available <;> rfl
      · intro status member
        rw [inStep.playing_iff member]
        exact (congrArg (· = true) playing).to_iff.trans decide_eq_true_iff
    · refine ⟨fun ticks => (quiet ticks).elim, fun _ => ?_⟩
      rw [silent, List.append_nil] at tones
      exact ⟨congrArg beeper.after tones, congrArg beeper.commands tones⟩

/--
The device plays on through a tick that fails and through direct counts, and
pauses with the next tick that succeeds.
-/
theorem device_plays_through_failing_tick :
    let start : Session := ⟨ringing, some ⟨5, by decide, none, 0⟩⟩
    let broken : List Action :=
      [.tick,
        .operate (.load #[0x60, 0x03, 0xF0, 0x18, 0xF1, 0x0A, 0x00, 0x00]),
        .operate (.press 0x5)]
    let repaired : List Action :=
      broken ++
        [.tick,
          .operate (.load #[0x60, 0x03, 0xF0, 0x18, 0xF1, 0x0A, 0x12, 0x06]),
          .operate .countDown, .operate .countDown]
    let beeper := Beeper.create true
    ((start.after broken).act .tick).result =
        .error (.failure (.fault (.unknownInstruction 0x0000 0x0206))) ∧
      (beeper.after (start.tones (broken ++ [.tick]))).device =
        some .playing ∧
      ((start.after repaired).act (.poll 0)).result = .ok (.fired true) ∧
      (beeper.after (start.tones (repaired ++ [.poll 0]))).device =
        some .paused ∧
      beeper.commands (start.tones (repaired ++ [.poll 0])) =
        [.resume, .pause] := by
  intro start broken repaired beeper
  have aborted :
      ((start.after broken).act .tick).result =
        .error (.failure (.fault (.unknownInstruction 0x0000 0x0206))) := by
    decide +kernel
  have ticks :
      ((start.after repaired).act (.poll 0)).result = .ok (.fired true) := by
    decide +kernel
  have tones :
      start.tones (repaired ++ [.poll 0]) = [true, false] := by
    decide +kernel
  rcases device_follows_sound_timer with ⟨rows, sessions⟩
  have noTick : ¬ (start.after broken).Ticks .tick := by
    rw [Session.Ticks, aborted]
    exact nofun
  rcases (sessions true start broken .tick).2 noTick with ⟨kept, _⟩
  rcases (sessions true start repaired (.poll 0)).1 ticks with
    ⟨present, follows⟩
  refine ⟨aborted, ?_, ticks, ?_, ?_⟩
  · rw [kept]
    decide +kernel
  · rcases Option.isSome_iff_exists.mp present with ⟨status, device⟩
    have silent : ¬ status = .playing := fun playing =>
      absurd ((follows status device).mp playing) (by decide +kernel)
    rw [device]
    cases status with
    | paused => rfl
    | playing => exact (silent rfl).elim
  · rw [tones]
    exact (rows true [true, false]).2.1

end ChipEight
