import CallSummary.Proofs.Call.ArgumentRead
import Mathlib.Data.List.Nodup

/-!
# Reading a Row of Arguments

How far a row of arguments is read, and that there is an end to it.

A row is read from the front, so `arguments_succ` takes it apart at the back:
one more argument is read after all the others. Reading only reports, and
what an argument comes to is a question about the machine, so each of them
comes to what it would have come to on its own. By induction on the count the
row is either all answers, or it stops at the first index that has none, with
the fault of that index and with nothing read behind it.

Nothing bounds the count, so what ends a row that is asked for too much is
the machine. Arguments behind the registers are a stride apart, and their
addresses are exact, so with a stride other than zero no two of them are read
from the same slot. There are then no more answers than registers and slots
that hold something.

## Main definitions

* `Setting.readings`: The lines of the journal that a row leaves.
* `Activation.afterReading`: What reading the first arguments leaves.
* `Activation.Answers`: The values are the first arguments.
* `Activation.StopsAt`: The first index whose argument cannot be read.

## Theorems

* `arguments_succ`: One more argument is read after all the others.
* `arguments_cases`: A row is read, or stops at the first missing argument.
* `result_arguments_eq_ok_iff`, `result_arguments_eq_error_iff`: When a row is
  read and when it fails, by its arguments.
* `arguments_eq_done`: A row of arguments at their locations is read.
* `le_size_stack`: What is in different slots is no more than the slots.
* `count_le_of_answered`: There are no more answers than registers and slots.
* `arguments_prefixExact`: A row is its arguments, one by one, and ends.
-/

namespace CallSummary

/-- The lines that reading the first arguments leaves in the journal: one for
    each of them that has a location. -/
def Setting.readings (setting : Setting) (count : Nat) : List Event :=
  (List.range count).flatMap fun index =>
    match setting.location index with
    | .ok location => [.readingArgument index location]
    | .error _ => []

namespace Activation

variable (a : Activation) (setting : Setting)

/-- What reading the first arguments leaves. -/
def afterReading (count : Nat) : Activation :=
  { a with journal := a.journal ++ setting.readings count }

/-- The values are the first arguments, in order. -/
def Answers (values : List Value) : Prop :=
  ∀ i (h : i < values.length), (a.argument setting i).result = .ok values[i]

/-- The index is the first whose argument cannot be read, and this is why. -/
structure StopsAt (index : Nat) (fault : Fault) : Prop where
  answered : ∀ i < index, ∃ value, (a.argument setting i).result = .ok value
  failed : (a.argument setting index).result = .error fault

/-! ### A row is its arguments -/

/-- An argument comes to the same after others have been read. -/
theorem result_argument_afterReading (count index : Nat) :
    ((a.afterReading setting count).argument setting index).result =
      (a.argument setting index).result := by
  rw [result_argument, result_argument]
  rfl

theorem state_argument_afterReading (count : Nat) :
    ((a.afterReading setting count).argument setting count).state =
      a.afterReading setting (count + 1) := by
  rw [state_argument]
  unfold afterReading Setting.readings
  rw [List.range_succ, List.flatMap_append, List.flatMap_singleton, ← List.append_assoc]
  cases setting.location count with
  | error fault => simp only [List.append_nil]
  | ok location => rfl

theorem argumentsFrom_succ (count : Nat) :
    ∀ (a : Activation) (index : Nat), a.argumentsFrom setting (count + 1) index =
      (a.argumentsFrom setting count index).andThen fun values middle =>
        (middle.argument setting (index + count)).andThen fun value after =>
          .done (values ++ [value]) after := by
  induction count with
  | zero => exact fun a index => rfl
  | succ count ih =>
      intro a index
      have hindex : index + 1 + count = index + (count + 1) := by omega
      rw [argumentsFrom, argumentsFrom]
      simp only [ih, hindex, Outcome.andThen_assoc, Outcome.andThen_done, List.cons_append]

/-- One more argument is read after all the others. -/
theorem arguments_succ (count : Nat) :
    a.arguments setting (count + 1) =
      (a.arguments setting count).andThen fun values middle =>
        (middle.argument setting count).andThen fun value after =>
          .done (values ++ [value]) after := by
  unfold arguments
  rw [argumentsFrom_succ, Nat.zero_add]

theorem answers_append (values : List Value) (value : Value) (h : a.Answers setting values)
    (hlast : (a.argument setting values.length).result = .ok value) :
    a.Answers setting (values ++ [value]) := by
  intro i hi
  rw [List.length_append, List.length_singleton] at hi
  by_cases hlt : i < values.length
  · rw [List.getElem_append_left hlt]
    exact h i hlt
  · obtain rfl : i = values.length := by omega
    rw [List.getElem_concat_length rfl]
    exact hlast

/-- A row is read, or stops at the first argument that cannot be read. -/
theorem arguments_cases (count : Nat) :
    (∃ values, values.length = count ∧ a.Answers setting values ∧
      a.arguments setting count = .done values (a.afterReading setting count)) ∨
      ∃ index < count, ∃ fault, a.StopsAt setting index fault ∧
        a.arguments setting count = .failed fault (a.afterReading setting (index + 1)) := by
  induction count with
  | zero =>
      refine .inl ⟨[], rfl, fun i hi => absurd hi (Nat.not_lt_zero i), ?_⟩
      unfold afterReading Setting.readings
      rw [List.range_zero, List.flatMap_nil, List.append_nil]
      rfl
  | succ count ih =>
      rw [arguments_succ]
      rcases ih with ⟨values, hlength, hanswers, hrow⟩ | ⟨index, hindex, fault, hstops, hrow⟩
      · -- All of them are read so far, so the row depends on the last.
        have hstate := a.state_argument_afterReading setting count
        have hresult := a.result_argument_afterReading setting count count
        rw [hrow, Outcome.andThen_done]
        rcases hlast : (a.afterReading setting count).argument setting count with
          ⟨fault | value, left⟩
        · rw [hlast] at hstate hresult
          refine .inr ⟨count, by omega, fault, ⟨?_, hresult.symm⟩, ?_⟩
          · intro i hi
            exact ⟨values[i], hanswers i (by omega)⟩
          · rw [← hstate]
            rfl
        · rw [hlast] at hstate hresult
          subst hlength
          refine .inl ⟨values ++ [value], List.length_append, ?_, ?_⟩
          · exact a.answers_append setting values value hanswers hresult.symm
          · rw [← hstate]
            rfl
      · refine .inr ⟨index, by omega, fault, hstops, ?_⟩
        rw [hrow, Outcome.andThen_failed]

/-- There is one row of answers of a length. -/
theorem answers_unique (values others : List Value) (hlength : values.length = others.length)
    (hvalues : a.Answers setting values) (hothers : a.Answers setting others) :
    values = others := by
  refine List.ext_getElem hlength ?_
  intro i hi hj
  have hsame := (hvalues i hi).symm.trans (hothers i hj)
  exact Except.ok.inj hsame

/-- Where a row stops, it has no answer. -/
theorem not_answers_of_stopsAt (values : List Value) (index : Nat) (fault : Fault)
    (h : a.StopsAt setting index fault) (hindex : index < values.length) :
    ¬ a.Answers setting values := by
  intro hanswers
  have hfailed := h.failed
  rw [hanswers index hindex] at hfailed
  cases hfailed

/-- A row does not go past an argument that cannot be read. -/
theorem le_of_stopsAt (i j : Nat) (first second : Fault) (hi : a.StopsAt setting i first)
    (hj : a.StopsAt setting j second) : j ≤ i := by
  refine Nat.le_of_not_lt fun hlt => ?_
  rcases hj.answered i hlt with ⟨value, hvalue⟩
  have hfailed := hi.failed
  rw [hvalue] at hfailed
  cases hfailed

theorem stopsAt_unique (i j : Nat) (first second : Fault) (hi : a.StopsAt setting i first)
    (hj : a.StopsAt setting j second) : i = j ∧ first = second := by
  obtain rfl := Nat.le_antisymm (a.le_of_stopsAt setting j i second first hj hi)
    (a.le_of_stopsAt setting i j first second hi hj)
  have hsame := hi.failed.symm.trans hj.failed
  exact ⟨rfl, Except.error.inj hsame⟩

/-- A row stops where it does whatever was asked for beyond. -/
theorem arguments_of_stopsAt (count index : Nat) (fault : Fault) (hindex : index < count)
    (h : a.StopsAt setting index fault) :
    a.arguments setting count = .failed fault (a.afterReading setting (index + 1)) := by
  rcases a.arguments_cases setting count with
    ⟨values, rfl, hanswers, _⟩ | ⟨other, _, cause, hstops, hrow⟩
  · exact absurd hanswers (a.not_answers_of_stopsAt setting values index fault h hindex)
  · rcases a.stopsAt_unique setting index other fault cause h hstops with ⟨rfl, rfl⟩
    exact hrow

/-- A row is read if each of its arguments is, and then it is these. -/
theorem result_arguments_eq_ok_iff (count : Nat) (values : List Value) :
    (a.arguments setting count).result = .ok values ↔
      values.length = count ∧ a.Answers setting values := by
  rcases a.arguments_cases setting count with
    ⟨found, hlength, hanswers, hrow⟩ | ⟨index, hindex, fault, hstops, hrow⟩
  · rw [hrow, Outcome.result_done, Except.ok.injEq]
    constructor
    · rintro rfl
      exact ⟨hlength, hanswers⟩
    · rintro ⟨hvalues, hothers⟩
      exact a.answers_unique setting found values (hlength.trans hvalues.symm) hanswers hothers
  · rw [hrow]
    constructor
    · nofun
    · rintro ⟨rfl, hanswers⟩
      exact absurd hanswers (a.not_answers_of_stopsAt setting values index fault hstops hindex)

/-- A row of arguments that are all at their locations is read in order. -/
theorem arguments_eq_done (values : List Value)
    (hheld : ∀ i (h : i < values.length), ∃ location, setting.location i = .ok location ∧
      a.machine.readLocation location = .ok values[i]) :
    ∃ after, a.arguments setting values.length = .done values after ∧ a.Extends after := by
  have hrow : (a.arguments setting values.length).result = .ok values := by
    refine (a.result_arguments_eq_ok_iff setting values.length values).mpr ⟨rfl, ?_⟩
    exact fun i hi => (a.result_argument_eq_ok_iff setting i values[i]).mpr (hheld i hi)
  exact ⟨_, Outcome.eq_done_of_result _ values hrow,
    argumentsFrom_extends setting values.length a 0⟩

/-- A row fails if one of its arguments does, for the reason of the first. -/
theorem result_arguments_eq_error_iff (count : Nat) (fault : Fault) :
    (a.arguments setting count).result = .error fault ↔
      ∃ index < count, a.StopsAt setting index fault := by
  constructor
  · intro h
    rcases a.arguments_cases setting count with
      ⟨_, _, _, hrow⟩ | ⟨index, hindex, found, hstops, hrow⟩
    · rw [hrow] at h
      cases h
    · rw [hrow, Outcome.result_failed, Except.error.injEq] at h
      exact ⟨index, hindex, h ▸ hstops⟩
  · rintro ⟨index, hindex, hstops⟩
    rw [a.arguments_of_stopsAt setting count index fault hindex hstops]
    rfl

end Activation

/-! ### A row ends -/

/-- What is held under different addresses is no more than the stack holds. -/
theorem Machine.le_size_stack (machine : Machine) (address : Nat → Int)
    (hinjective : Function.Injective address) (n : Nat)
    (hheld : ∀ i < n, ∃ word : Word, (word.toNat : Int) = address i ∧
      (machine.stack[word]?).isSome = true) : n ≤ machine.stack.size := by
  have hnodup : ((List.range n).map address).Nodup := List.nodup_range.map hinjective
  have hsubset : (List.range n).map address ⊆
      machine.stack.keys.map fun word => (word.toNat : Int) := by
    intro target hmem
    rcases List.mem_map.mp hmem with ⟨i, hi, rfl⟩
    rcases hheld i (List.mem_range.mp hi) with ⟨word, hword, hsome⟩
    rw [← hword]
    exact List.mem_map_of_mem (Std.ExtTreeMap.mem_keys.mpr
      (Std.ExtTreeMap.mem_iff_isSome_getElem?.mpr hsome))
  have hle := hnodup.length_le_of_subset hsubset
  rw [List.length_map, List.length_map, List.length_range, Std.ExtTreeMap.length_keys] at hle
  exact hle

namespace Activation

variable (a : Activation) (setting : Setting)

/-- An argument behind the registers is read from a slot, at the exact address
    that its offset leads to. -/
theorem slot_of_argument (placement : Placement) (index : Nat) (value : Value)
    (hplacement : setting.placement = .ok placement)
    (hindex : placement.registers.length ≤ index)
    (h : (a.argument setting index).result = .ok value) :
    ∃ sp address : Word, a.machine.readStackPointer = .ok sp ∧
      (address.toNat : Int) = sp.toNat - placement.exactOffset index ∧
        a.machine.stack[address]? = some value := by
  rcases (a.result_argument_eq_ok_iff setting index value).mp h with ⟨location, hlocation, hread⟩
  rcases (setting.location_eq_ok_iff index location).mp hlocation with ⟨used, hused, hplaced⟩
  obtain rfl := Except.ok.inj (hplacement.symm.trans hused)
  rcases (placement.location_eq_some_iff index location hindex).mp hplaced with
    ⟨_, offset, rfl, hexact⟩
  rcases (a.machine.readStack_eq_ok_iff offset value).mp hread with ⟨address, haddress, hslot⟩
  rcases Machine.stackAddress_eq_ok_iff.mp haddress with ⟨sp, hsp, hbelow, _⟩
  rw [hexact] at hbelow
  exact ⟨sp, address, hsp, hbelow, hslot⟩

/-- There are no more answers in a row than registers and slots, if the slots
    are not all the same. -/
theorem count_le_of_answered (placement : Placement) (count : Nat)
    (hplacement : setting.placement = .ok placement) (hstride : placement.stride ≠ 0)
    (h : ∀ i < count, ∃ value, (a.argument setting i).result = .ok value) :
    count ≤ placement.registers.length + a.machine.stack.size := by
  have hslots : ∀ i < count - placement.registers.length, ∃ value,
      ∃ sp address : Word, a.machine.readStackPointer = .ok sp ∧
        (address.toNat : Int) =
          sp.toNat - placement.exactOffset (placement.registers.length + i) ∧
          a.machine.stack[address]? = some value := by
    intro i hi
    rcases h (placement.registers.length + i) (by omega) with ⟨value, hvalue⟩
    exact ⟨value, a.slot_of_argument setting placement _ value hplacement (Nat.le_add_right _ _)
      hvalue⟩
  cases hsp : a.machine.readStackPointer with
  | error cause =>
      -- Without a stack pointer there is no argument behind the registers.
      refine Nat.le_trans (Nat.le_of_not_lt fun hlt => ?_) (Nat.le_add_right _ _)
      rcases hslots 0 (by omega) with ⟨_, sp, _, hread, _⟩
      rw [hsp] at hread
      cases hread
  | ok sp =>
      -- All addresses are counted from one stack pointer.
      have hinjective : Function.Injective fun i : Nat =>
          (sp.toNat : Int) - placement.exactOffset (placement.registers.length + i) := by
        intro i j hsame
        have hindex := placement.exactOffset_injective hstride ((Int.sub_right_inj _).mp hsame)
        omega
      have hle : count - placement.registers.length ≤ a.machine.stack.size := by
        refine a.machine.le_size_stack _ hinjective _ ?_
        intro i hi
        rcases hslots i hi with ⟨value, other, address, hother, haddress, hslot⟩
        obtain rfl := Except.ok.inj (hsp.symm.trans hother)
        exact ⟨address, haddress, by rw [hslot]; rfl⟩
      omega

/-- A row of arguments is read exactly if each of them is, and fails exactly at
    the first that is not, with the fault of that one and with nothing read
    behind it. If the slots are not all the same, no more can be read than there
    are registers and slots that hold something, so a row that asks for more
    stops, and stops no later than behind these. -/
theorem arguments_prefixExact (count : Nat) :
    (∀ values, (a.arguments setting count).result = .ok values ↔
        values.length = count ∧ a.Answers setting values) ∧
      (∀ fault, (a.arguments setting count).result = .error fault ↔
        ∃ index < count, a.StopsAt setting index fault) ∧
      (∀ values, (a.arguments setting count).result = .ok values →
        (a.arguments setting count).state = a.afterReading setting count) ∧
      (∀ index < count, ∀ fault, a.StopsAt setting index fault →
        a.arguments setting count = .failed fault (a.afterReading setting (index + 1))) ∧
      ∀ placement, setting.placement = .ok placement → placement.stride ≠ 0 →
        (∀ values, (a.arguments setting count).result = .ok values →
          count ≤ placement.registers.length + a.machine.stack.size) ∧
        (placement.registers.length + a.machine.stack.size < count →
          ∃ index ≤ placement.registers.length + a.machine.stack.size, ∃ fault,
            a.StopsAt setting index fault ∧
              a.arguments setting count =
                .failed fault (a.afterReading setting (index + 1))) := by
  refine ⟨a.result_arguments_eq_ok_iff setting count, a.result_arguments_eq_error_iff setting count,
    ?_, fun index hindex fault => a.arguments_of_stopsAt setting count index fault hindex, ?_⟩
  · intro values h
    rcases a.arguments_cases setting count with ⟨_, _, _, hrow⟩ | ⟨_, _, _, _, hrow⟩
    · rw [hrow]
      rfl
    · rw [hrow] at h
      cases h
  · intro placement hplacement hstride
    refine ⟨?_, ?_⟩
    · intro values h
      rcases (a.result_arguments_eq_ok_iff setting count values).mp h with ⟨rfl, hanswers⟩
      exact a.count_le_of_answered setting placement values.length hplacement hstride
        fun i hi => ⟨values[i], hanswers i hi⟩
    · intro hcount
      rcases a.arguments_cases setting count with
        ⟨values, rfl, hanswers, _⟩ | ⟨index, _, fault, hstops, hrow⟩
      · have hle := a.count_le_of_answered setting placement values.length hplacement hstride
          fun i hi => ⟨values[i], hanswers i hi⟩
        omega
      · -- All before the stop are answers, so there is room for no more of them.
        have hle := a.count_le_of_answered setting placement index hplacement hstride
          hstops.answered
        exact ⟨index, hle, fault, hstops, hrow⟩

/-- The largest count there is, asked of a stack with one slot: the first
    argument is read from it, and the second is the one that is missing. -/
theorem arguments_prefixExact_oneSlot :
    let setting : Setting := ⟨.builtin, Registry.builtin.invocation .x86 none none⟩
    let machine : Machine := (Machine.withStackPointer .x86 0x1000).store 0x1004 (.constant 7 32)
    ((start machine .zero).arguments setting (2 ^ 64 - 1)).result =
        .error (.access (.undefinedStack 0x1008)) ∧
      (∃ index ≤ 1, ∃ fault, (start machine .zero).StopsAt setting index fault) ∧
      ((start machine .zero).arguments setting 1).result = .ok [.constant 7 32] := by
  intro setting machine
  have hfirst : ((start machine .zero).argument setting 0).result = .ok (.constant 7 32) := rfl
  have hstops : (start machine .zero).StopsAt setting 1 (.access (.undefinedStack 0x1008)) := by
    refine ⟨fun i hi => ⟨.constant 7 32, ?_⟩, rfl⟩
    rw [Nat.lt_one_iff.mp hi]
    exact hfirst
  rcases arguments_prefixExact (start machine .zero) setting (2 ^ 64 - 1) with
    ⟨_, herror, _, _, hends⟩
  refine ⟨(herror _).mpr ⟨1, by decide, hstops⟩, ?_, ?_⟩
  · rcases (hends ⟨[], 1, -4⟩ rfl (by decide)).2 (by decide) with ⟨index, hle, fault, hlast, _⟩
    exact ⟨index, hle, fault, hlast⟩
  · refine ((arguments_prefixExact (start machine .zero) setting 1).1 _).mpr ⟨rfl, ?_⟩
    intro i hi
    obtain rfl := Nat.lt_one_iff.mp hi
    exact hfirst

end Activation

end CallSummary
