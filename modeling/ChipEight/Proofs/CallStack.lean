import ChipEight.Proofs.Effect
import ChipEight.Proofs.InstructionTable
import ChipEight.Proofs.Run
import Mathlib.Data.List.Infix

/-!
# The call stack

The live return addresses form a list of at most sixteen entries, the newest
one last.  A call appends the address after it, a return takes the last
entry and continues there, a reset empties the list, and nothing else
touches it; stale slots above the live ones never matter.  It follows that
a return which brings the depth back to that of a call continues right after
that call, whatever happened in between.  `Session.call_stack_is_bounded_list`
states all of this for every machine of every session.
-/

namespace ChipEight

namespace State

variable {state next : State}

theorem length_callStack
    (shallow : state.depth.toNat ≤ 16) :
    state.callStack.length = state.depth.toNat := by
  simp [callStack, shallow]

theorem callStack_eq_nil_iff
    (shallow : state.depth.toNat ≤ 16) :
    state.callStack = [] ↔ state.depth = 0 := by
  rw [← List.length_eq_zero_iff, length_callStack shallow,
    ← UInt8.toNat_inj]
  rfl

/-- Entering a call appends one entry to the live ones. -/
theorem callStack_of_enter
    {target : Address}
    (entered : state.enter target = .ok next) :
    next.callStack = state.callStack ++ [state.counter + 2] ∧
      next.depth.toNat = state.depth.toNat + 1 ∧
      next.depth.toNat ≤ 16 ∧
      next.counter = UInt16.ofNat target.val := by
  rcases enter_eq_ok_iff.mp entered with ⟨free, rfl⟩
  have deeper : (state.depth + 1).toNat = state.depth.toNat + 1 := by
    rw [UInt8.toNat_add]
    exact Nat.mod_eq_of_lt (by simp; omega)
  refine ⟨?_, deeper, by simp only [deeper]; omega, rfl⟩
  have inRange :
      state.depth.toNat <
        (state.returns.toList.set state.depth.toNat
          (state.counter + 2)).length := by
    simpa using free
  simp only [callStack, deeper, Vector.toList_set free]
  rw [List.take_succ_eq_append_getElem inRange,
    List.take_set_of_le (Nat.le_refl _), List.getElem_set_self]

/-- Leaving a call takes the last live entry off and continues there. -/
theorem callStack_of_leave
    (shallow : state.depth.toNat ≤ 16)
    (left : state.leave = .ok next) :
    state.callStack = next.callStack ++ [next.counter] ∧
      next.depth.toNat + 1 = state.depth.toNat := by
  rcases leave_eq_ok_iff.mp left with ⟨nonempty, live, rfl⟩
  have positive := depth_pos nonempty
  have lower := toNat_depth_sub_one nonempty
  have depth : state.depth.toNat = state.depth.toNat - 1 + 1 := by omega
  refine ⟨?_, by simp only [lower]; omega⟩
  have inRange : state.depth.toNat - 1 < state.returns.toList.length := by
    simpa using live
  simp only [callStack, lower]
  calc
    state.returns.toList.take state.depth.toNat =
        state.returns.toList.take (state.depth.toNat - 1 + 1) := by
      rw [← depth]
    _ = _ := by
      rw [List.take_succ_eq_append_getElem inRange]
      simp

end State

/--
The call stack after a cycle that fetches a word: `00EE` returns, `2nnn`
calls, and a call without a free slot fails.
-/
def State.callStackAfter (state : State) (word : UInt16) : List UInt16 :=
  if word = 0x00EE then state.callStack.dropLast
  else if word.toNat / 4096 = 0x2 ∧ state.callStack.length < 16 then
    state.callStack ++ [state.counter + 2]
  else state.callStack

namespace State

variable {state : State} {word : UInt16}

theorem callStackAfter_of_ret
    (decoded : Instruction.decode? word = some .ret) :
    state.callStackAfter word = state.callStack.dropLast :=
  if_pos (Instruction.decode?_eq_ret_iff.mp decoded)

theorem callStackAfter_of_call
    {target : Address}
    (decoded : Instruction.decode? word = some (.call target)) :
    state.callStackAfter word =
      if state.callStack.length < 16 then
        state.callStack ++ [state.counter + 2]
      else state.callStack := by
  have calls := Instruction.decode?_eq_call_iff.mp ⟨target, decoded⟩
  have noRet : word ≠ 0x00EE := by
    rintro rfl
    cases calls
  rw [callStackAfter, if_neg noRet]
  simp only [calls, true_and]

theorem callStackAfter_of_other
    (noRet : Instruction.decode? word ≠ some .ret)
    (noCall : ∀ target, Instruction.decode? word ≠ some (.call target)) :
    state.callStackAfter word = state.callStack := by
  have notReturning : word ≠ 0x00EE := fun returns =>
    noRet (Instruction.decode?_eq_ret_iff.mpr returns)
  have notCalling : ¬ word.toNat / 4096 = 0x2 := by
    intro calls
    rcases Instruction.decode?_eq_call_iff.mpr calls with ⟨target, decoded⟩
    exact noCall target decoded
  rw [callStackAfter, if_neg notReturning, if_neg fun both => notCalling both.1]

/-- A word keeps the entries that it leaves room for. -/
theorem prefix_callStackAfter
    {entries : List UInt16}
    (start : entries <+: state.callStack)
    (above : entries.length ≤ (state.callStackAfter word).length) :
    entries <+: state.callStackAfter word := by
  revert above
  rw [callStackAfter]
  split
  · exact List.prefix_of_prefix_length_le start (List.dropLast_prefix _)
  · split
    · exact fun _ => start.trans (List.prefix_append _ _)
    · exact fun _ => start

end State

namespace Machine

variable {machine : Machine}

/-! ## One operation -/

/--
The call stack after an operation.  A cycle changes it only if it fetches the
word of a call or of a return.
-/
def callStackAfter (machine : Machine) : Operation → List UInt16
  | .cycle =>
      match machine.word? with
      | some word => machine.state.callStackAfter word
      | none => machine.state.callStack
  | .reset => []
  | _ => machine.state.callStack

/-- A call either appends the address after it or finds no free slot. -/
theorem cycle_of_upcoming_call
    {target : Address}
    (shallow : machine.state.depth.toNat ≤ 16)
    (upcoming : machine.upcoming? = some (.call target)) :
    (machine.state.callStack.length = 16 ∧
        machine.cycle.result =
          .error (.stackOverflow machine.state.counter machine.state.depth) ∧
        machine.cycle.machine = machine) ∨
      (machine.state.callStack.length < 16 ∧
        (∃ status, machine.cycle.result = .ok status) ∧
        machine.cycle.machine.state.counter = UInt16.ofNat target.val ∧
        machine.cycle.machine.state.depth.toNat =
          machine.state.depth.toNat + 1 ∧
        machine.cycle.machine.state.callStack =
          machine.state.callStack ++ [machine.state.counter + 2]) := by
  have length := State.length_callStack shallow
  rcases cycle_machine_of_upcoming upcoming with
    ⟨fault, execution, failed, same⟩ | ⟨next, execution, succeeded, after⟩
  · rcases State.enter_eq_error_iff.mp execution with ⟨full, rfl⟩
    exact Or.inl ⟨by omega, failed, same⟩
  · rcases State.callStack_of_enter execution with
      ⟨appended, deeper, bounded, continued⟩
    rw [after]
    exact Or.inr ⟨by omega, succeeded, continued, deeper, appended⟩

/-- A return either continues at the last entry or finds no entry. -/
theorem cycle_of_upcoming_ret
    (shallow : machine.state.depth.toNat ≤ 16)
    (upcoming : machine.upcoming? = some .ret) :
    (machine.state.callStack = [] ∧
        machine.cycle.result =
          .error (.stackUnderflow machine.state.counter) ∧
        machine.cycle.machine = machine) ∨
      ((∃ status, machine.cycle.result = .ok status) ∧
        machine.cycle.machine.state.depth.toNat + 1 =
          machine.state.depth.toNat ∧
        machine.state.callStack =
          machine.cycle.machine.state.callStack ++
            [machine.cycle.machine.state.counter]) := by
  rcases cycle_machine_of_upcoming upcoming with
    ⟨fault, execution, failed, same⟩ | ⟨next, execution, succeeded, after⟩
  · rcases (State.leave_eq_error_iff shallow).mp execution with ⟨empty, rfl⟩
    exact Or.inl
      ⟨(State.callStack_eq_nil_iff shallow).mpr empty, failed, same⟩
  · rcases State.callStack_of_leave shallow execution with ⟨taken, higher⟩
    rw [after]
    exact Or.inr ⟨succeeded, higher, taken⟩

/-- Every other instruction leaves the call stack alone. -/
theorem cycle_of_upcoming_other
    {instruction : Instruction}
    (upcoming : machine.upcoming? = some instruction)
    (noCall : ∀ target, instruction ≠ .call target)
    (noRet : instruction ≠ .ret) :
    machine.cycle.machine.state.returns = machine.state.returns ∧
      machine.cycle.machine.state.depth = machine.state.depth := by
  rcases cycle_machine_of_upcoming upcoming with
    ⟨fault, execution, failed, same⟩ | ⟨next, execution, succeeded, after⟩
  · rw [same]
    exact ⟨rfl, rfl⟩
  · rw [after, Instruction.execute_eq_ok execution]
    change
      instruction.returnsAfter machine.state = machine.state.returns ∧
        instruction.depthAfter machine.state = machine.state.depth
    cases instruction with
    | call target => exact (noCall target rfl).elim
    | ret => exact (noRet rfl).elim
    | _ => exact ⟨rfl, rfl⟩

/-- A cycle does to the call stack what the word says that it fetches. -/
theorem callStack_cycle
    (shallow : machine.state.depth.toNat ≤ 16) :
    machine.cycle.machine.state.callStack = machine.callStackAfter .cycle ∧
      machine.cycle.machine.state.depth.toNat ≤ 16 := by
  rw [callStackAfter]
  cases upcoming : machine.upcoming? with
  | none =>
      have quiet := upcoming
      rw [upcoming?_eq_bind_word?] at quiet
      rcases cycle_machine_of_upcoming_eq_none upcoming with
        ⟨registers, waiting, after⟩
      rw [after]
      cases fetched : machine.word? with
      | none => exact ⟨rfl, shallow⟩
      | some word =>
          rw [fetched, Option.bind_some] at quiet
          have same : machine.state.callStackAfter word = _ :=
            State.callStackAfter_of_other (by simp [quiet]) (by simp [quiet])
          exact ⟨same.symm, shallow⟩
  | some instruction =>
      have decoding := upcoming
      rw [upcoming?_eq_bind_word?] at decoding
      rcases Option.bind_eq_some_iff.mp decoding with ⟨word, fetched, decoded⟩
      rw [fetched]
      cases instruction with
      | call target =>
          dsimp only
          rw [State.callStackAfter_of_call decoded]
          rcases cycle_of_upcoming_call shallow upcoming with
            ⟨full, _, same⟩ | ⟨free, _, _, deeper, appended⟩
          · rw [same, if_neg (Nat.not_lt.mpr full.ge)]
            exact ⟨rfl, shallow⟩
          · have length := State.length_callStack shallow
            rw [appended, if_pos free]
            exact ⟨rfl, by omega⟩
      | ret =>
          dsimp only
          rw [State.callStackAfter_of_ret decoded]
          rcases cycle_of_upcoming_ret shallow upcoming with
            ⟨empty, _, same⟩ | ⟨_, higher, taken⟩
          · rw [same, empty]
            exact ⟨rfl, shallow⟩
          · rw [taken, List.dropLast_concat]
            exact ⟨rfl, by omega⟩
      | _ =>
          rcases cycle_of_upcoming_other upcoming (by simp) (by simp) with
            ⟨returns, depth⟩
          have same : machine.state.callStackAfter word = _ :=
            State.callStackAfter_of_other (by simp [decoded])
              (by simp [decoded])
          rw [State.callStack, returns, depth]
          exact ⟨same.symm, shallow⟩

/-- Every operation does to the call stack what `callStackAfter` says. -/
theorem callStack_perform
    (shallow : machine.state.depth.toNat ≤ 16)
    (operation : Operation) :
    (machine.perform operation).machine.state.callStack =
        machine.callStackAfter operation ∧
      (machine.perform operation).machine.state.depth.toNat ≤ 16 := by
  cases operation with
  | cycle => exact callStack_cycle shallow
  | load program =>
      rcases machine.load_machine program with ⟨memory, after⟩
      rw [perform_load_machine, after]
      exact ⟨rfl, shallow⟩
  | loadFile path contents =>
      rcases machine.loadFile_machine path contents with ⟨memory, after⟩
      rw [perform_loadFile_machine, after]
      exact ⟨rfl, shallow⟩
  | reset => exact ⟨rfl, Nat.zero_le 16⟩
  | _ => exact ⟨rfl, shallow⟩

/-! ## Runs -/

theorem shallow_after
    (shallow : machine.state.depth.toNat ≤ 16)
    (operations : List Operation) :
    (machine.after operations).state.depth.toNat ≤ 16 :=
  after_invariant (fun machine => machine.state.depth.toNat ≤ 16)
    (fun _ operation shallow => (callStack_perform shallow operation).2)
    shallow operations

/-- An operation keeps the entries that it leaves room for. -/
theorem prefix_callStackAfter
    {entries : List UInt16} {operation : Operation}
    (start : entries <+: machine.state.callStack)
    (above :
      entries.length ≤ (machine.callStackAfter operation).length) :
    entries <+: machine.callStackAfter operation := by
  cases operation with
  | cycle =>
      rw [callStackAfter] at above ⊢
      generalize machine.word? = fetched at above ⊢
      cases fetched with
      | none => exact start
      | some word => exact State.prefix_callStackAfter start above
  | reset =>
      have empty : entries = [] :=
        List.eq_nil_of_length_eq_zero (Nat.eq_zero_of_le_zero above)
      rw [empty]
      exact List.nil_prefix
  | _ => exact start

/-- Entries stay in place through a run that never gets below them. -/
theorem prefix_callStack_after
    {entries : List UInt16} {operations : List Operation}
    (shallow : machine.state.depth.toNat ≤ 16)
    (start : entries <+: machine.state.callStack)
    (above :
      ∀ first, first <+: operations →
        entries.length ≤ (machine.after first).state.depth.toNat) :
    entries <+: (machine.after operations).state.callStack := by
  induction operations generalizing machine with
  | nil => exact start
  | cons operation rest ih =>
      rcases callStack_perform shallow operation with ⟨equation, bounded⟩
      have long :
          entries.length ≤ (machine.callStackAfter operation).length := by
        rw [← equation, State.length_callStack bounded]
        exact above [operation] (by simp)
      have next :
          entries <+: (machine.perform operation).machine.state.callStack := by
        rw [equation]
        exact prefix_callStackAfter start long
      apply ih bounded next
      intro first initial
      exact above (operation :: first)
        ((List.prefix_cons_inj operation).mpr initial)

/--
A return that brings the depth back to that of a call continues right after
the call with the entries from before it.  The call's own entry is kept until
then, since the depth stays above it, and at the return it is the last one.
-/
theorem return_matches_call
    {target : Address} {between : List Operation}
    (shallow : machine.state.depth.toNat ≤ 16)
    (calling : machine.upcoming? = some (.call target))
    (above :
      ∀ first, first <+: between →
        machine.state.depth.toNat <
          (machine.after (.cycle :: first)).state.depth.toNat)
    (returning :
      (machine.after (.cycle :: between)).upcoming? = some .ret)
    (back :
      (machine.after (.cycle :: between ++ [.cycle])).state.depth =
        machine.state.depth) :
    (machine.after (.cycle :: between ++ [.cycle])).state.counter =
        machine.state.counter + 2 ∧
      (machine.after (.cycle :: between ++ [.cycle])).state.callStack =
        machine.state.callStack := by
  have length := State.length_callStack shallow
  have entered := above [] List.nil_prefix
  rcases cycle_of_upcoming_call shallow calling with
    ⟨_, _, same⟩ | ⟨_, _, _, deeper, appended⟩
  · rw [after_cons, perform_cycle_machine, same] at entered
    exact (Nat.lt_irrefl _ entered).elim
  · have bounded := (callStack_cycle shallow).2
    have kept :
        machine.state.callStack ++ [machine.state.counter + 2] <+:
          (machine.after (.cycle :: between)).state.callStack := by
      apply prefix_callStack_after bounded
      · exact appended ▸ List.prefix_rfl
      · intro first initial
        have high := above first initial
        simp only [List.length_append, List.length_singleton, length]
        exact high
    have final :
        machine.after (.cycle :: between ++ [.cycle]) =
          (machine.after (.cycle :: between)).cycle.machine := by
      rw [after_append]
      rfl
    have last :
        (machine.after (.cycle :: between)).state.depth.toNat ≤ 16 :=
      shallow_after bounded between
    have high := above between List.prefix_rfl
    rw [final] at back ⊢
    rcases cycle_of_upcoming_ret last returning with
      ⟨_, _, same⟩ | ⟨_, higher, taken⟩
    · rw [same] at back
      rw [back] at high
      exact (Nat.lt_irrefl _ high).elim
    · have whole :
          machine.state.callStack ++ [machine.state.counter + 2] =
            (machine.after (.cycle :: between)).state.callStack := by
        apply kept.eq_of_length
        rw [State.length_callStack last, ← higher, back, ← length]
        simp
      rw [taken] at whole
      rcases List.append_inj' whole rfl with ⟨lower, entry⟩
      exact ⟨(List.singleton_inj.mp entry).symm, lower.symm⟩

end Machine

namespace Session

open Instruction (addressWord)

theorem shallow_after
    (config : Config) (random : RandomStream) (actions : List Action) :
    ((create config random).after actions).machine.state.depth.toNat ≤
      16 := by
  have start : (create config random).machine.state.depth.toNat ≤ 16 :=
    Nat.zero_le 16
  exact after_invariant (fun machine => machine.state.depth.toNat ≤ 16)
    (fun _ operation shallow =>
      (Machine.callStack_perform shallow operation).2)
    start actions

/--
In every session the live return addresses are a list of at most sixteen
entries.  Calls append to it, returns take from its end, resets empty it and
nothing else changes it, so the return that brings the depth back to that of
a call continues right after the call, above the entries from before it.
-/
theorem call_stack_is_bounded_list
    (config : Config) (random : RandomStream) (actions : List Action) :
    let session := (create config random).after actions
    let machine := session.machine
    let stack := machine.state.callStack
    (stack.length = machine.state.depth.toNat ∧ stack.length ≤ 16) ∧
      (∀ operation,
        (machine.perform operation).machine.state.callStack =
          machine.callStackAfter operation) ∧
      (∀ action,
        (session.act action).session.machine =
            machine.after (session.operations action) ∧
          ∀ operation ∈ session.operations action,
            action = .operate operation ∨ operation = .cycle ∨
              operation = .countDown) ∧
      (∀ target,
        machine.Fetches (addressWord 0x2 target) →
          ((∃ fault, machine.cycle.result = .error fault) ↔
            stack.length = 16) ∧
          (stack.length < 16 →
            machine.cycle.machine.state.counter = UInt16.ofNat target.val ∧
            machine.cycle.machine.state.callStack =
              stack ++ [machine.state.counter + 2])) ∧
      (machine.Fetches 0x00EE →
        ((∃ fault, machine.cycle.result = .error fault) ↔ stack = []) ∧
        ∀ lower entry,
          stack = lower ++ [entry] →
            machine.cycle.machine.state.counter = entry ∧
            machine.cycle.machine.state.callStack = lower) ∧
      ∀ target between,
        machine.Fetches (addressWord 0x2 target) →
        (∀ first, first <+: between →
          machine.state.depth.toNat <
            (machine.after (.cycle :: first)).state.depth.toNat) →
        (machine.after (.cycle :: between)).Fetches 0x00EE →
        (machine.after (.cycle :: between ++ [.cycle])).state.depth =
          machine.state.depth →
        (machine.after (.cycle :: between ++ [.cycle])).state.counter =
            machine.state.counter + 2 ∧
          (machine.after (.cycle :: between ++ [.cycle])).state.callStack =
            stack := by
  intro session machine stack
  have shallow : machine.state.depth.toNat ≤ 16 :=
    shallow_after config random actions
  have length : stack.length = machine.state.depth.toNat :=
    State.length_callStack shallow
  refine ⟨⟨length, by omega⟩, ?_, ?_, ?_, ?_, ?_⟩
  · intro operation
    exact (Machine.callStack_perform shallow operation).1
  · exact session.act_operations
  · intro target fetched
    have upcoming : machine.upcoming? = some (.call target) :=
      Machine.upcoming?_eq_some_iff_fetches.mpr fetched
    rcases Machine.cycle_of_upcoming_call shallow upcoming with
      ⟨full, failed, _⟩ | ⟨free, ⟨status, succeeded⟩, continued, _, appended⟩
    · constructor
      · simp [failed, full, stack]
      · intro free
        exact absurd full (Nat.ne_of_lt free)
    · have notFull : stack.length ≠ 16 := Nat.ne_of_lt free
      constructor
      · simp [succeeded, notFull]
      · intro _
        exact ⟨continued, appended⟩
  · intro fetched
    have upcoming : machine.upcoming? = some .ret :=
      Machine.upcoming?_eq_some_iff_fetches.mpr fetched
    rcases Machine.cycle_of_upcoming_ret shallow upcoming with
      ⟨empty, failed, _⟩ | ⟨⟨status, succeeded⟩, _, taken⟩
    · constructor
      · simp [failed, empty, stack]
      · intro lower entry split
        simp [stack, empty] at split
    · constructor
      · simp [succeeded, taken, stack]
      · intro lower entry split
        rcases List.append_inj' (taken.symm.trans split) rfl with
          ⟨rest, last⟩
        exact ⟨List.singleton_inj.mp last, rest⟩
  · intro target between calls above returns back
    have calling : machine.upcoming? = some (.call target) :=
      Machine.upcoming?_eq_some_iff_fetches.mpr calls
    have returning :
        (machine.after (.cycle :: between)).upcoming? = some .ret :=
      Machine.upcoming?_eq_some_iff_fetches.mpr returns
    exact Machine.return_matches_call shallow calling above returning back

/--
A program whose first word calls a subroutine that calls another one, loaded
into a new machine.
-/
def nestedCalls : List Action :=
  [.operate
    (.load
      #[0x22, 0x06, 0x00, 0x00, 0x00, 0x00, 0x22, 0x0A, 0x00, 0xEE, 0x00,
        0xEE])]

/--
The inner call returns into the outer subroutine, and the outer call behind
the first word.
-/
theorem nested_calls_return_in_turn :
    let start := create .standard (.cycling #[])
    let outer := (start.after nestedCalls).machine
    let inner := (start.after (nestedCalls ++ [.operate .cycle])).machine
    outer.cycle.machine.state.callStack = [0x202] ∧
      inner.cycle.machine.state.callStack = [0x202, 0x208] ∧
      (inner.after [.cycle, .cycle]).state.counter = 0x208 ∧
      (inner.after [.cycle, .cycle]).state.callStack = [0x202] ∧
      (outer.after [.cycle, .cycle, .cycle, .cycle]).state.counter = 0x202 ∧
      (outer.after [.cycle, .cycle, .cycle, .cycle]).state.callStack = [] := by
  intro start outer inner
  have calls :
      outer.Fetches (addressWord 0x2 0x206) ∧
        inner.Fetches (addressWord 0x2 0x20A) := by
    decide +kernel
  have returns :
      (inner.after [.cycle]).Fetches 0x00EE ∧
        (outer.after [.cycle, .cycle, .cycle]).Fetches 0x00EE := by
    decide +kernel
  have counters :
      outer.state.counter = 0x200 ∧ inner.state.counter = 0x206 := by
    decide +kernel
  have entries :
      outer.state.callStack = [] ∧ inner.state.callStack = [0x202] := by
    decide +kernel
  have innerAbove :
      ∀ first ∈ List.inits [],
        inner.state.depth.toNat <
          (inner.after (.cycle :: first)).state.depth.toNat := by
    decide +kernel
  have outerAbove :
      ∀ first ∈ List.inits [.cycle, .cycle],
        outer.state.depth.toNat <
          (outer.after (.cycle :: first)).state.depth.toNat := by
    decide +kernel
  have back :
      (inner.after [.cycle, .cycle]).state.depth = inner.state.depth ∧
        (outer.after [.cycle, .cycle, .cycle, .cycle]).state.depth =
          outer.state.depth := by
    decide +kernel
  have outerLaw :=
    call_stack_is_bounded_list .standard (.cycling #[]) nestedCalls
  have innerLaw :=
    call_stack_is_bounded_list .standard (.cycling #[])
      (nestedCalls ++ [.operate .cycle])
  have isOuter : (start.after nestedCalls).machine = outer := rfl
  have isInner :
      (start.after (nestedCalls ++ [.operate .cycle])).machine = inner := rfl
  simp only [start] at isOuter isInner
  simp only [isOuter] at outerLaw
  simp only [isInner] at innerLaw
  clear_value outer inner
  rcases outerLaw with ⟨_, _, _, outerCalls, _, outerReturns⟩
  rcases innerLaw with ⟨_, _, _, innerCalls, _, innerReturns⟩
  have entered := (outerCalls 0x206 calls.1).2 (by simp [entries])
  have nested := (innerCalls 0x20A calls.2).2 (by simp [entries])
  have left :=
    innerReturns 0x20A [] calls.2
      (fun first initial =>
        innerAbove first ((List.mem_inits _ _).mpr initial))
      returns.1 back.1
  have finished :=
    outerReturns 0x206 [.cycle, .cycle] calls.1
      (fun first initial =>
        outerAbove first ((List.mem_inits _ _).mpr initial))
      returns.2 back.2
  rw [entries.1, counters.1] at entered finished
  rw [entries.2, counters.2] at nested left
  exact ⟨entered.2, nested.2, left.1, left.2, finished.1, finished.2⟩

end Session

end ChipEight
