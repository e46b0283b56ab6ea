import CallSummary.Proofs.Summary.Transcript
import CallSummary.Summary.Library
import Mathlib.Data.List.Range
import Mathlib.Data.List.Forall2

/-!
# What Is Drawn

Every number of a supply is drawn once, in order, wherever in a run that is.

A fork runs on a copy of the machine, but there is no copy of the supply. The
body goes on with the numbers the program has come to, and the program goes on
where the body has stopped, whether the body has succeeded or not. So the
numbers of a whole run form one row, in the order of the transcript with the
entries of every body in their place. `drawings` is that row, read off the
transcript. Nothing in it is left out for a failure, which is the difference to
the successors that a transcript shows.

`Draws` says of a row that it has used up exactly the numbers between two
supplies. It holds of every operation (`draws_perform`) and is kept by putting
rows behind each other, so it holds of every run, by induction on the program
(`draws_run`). The numbers are words, and `upcoming` lists them as a supply
gives them out, past the last word too. As long as they do not come to that,
they are an interval (`toNat_upcoming`).

A name says which number it was made with, because the digits of a number have
no underscore in them: what is behind the last underscore of a name is the
number, whatever the stem looks like (`numbered_inj`). Hence names of different
numbers are different, and those of a row have no duplicates. The symbols that
`Summary.returnUnconstrained` returns are among them.

## Main definitions

* `NameSupply.upcoming`: The numbers that a supply gives out next.
* `Drawing`, `drawings`: What was drawn from the supply.
* `Drawing.Shows`: The number that a drawing has used up.
* `Draws`: A row of drawings leads from one supply to another.
* `freshNames`: The names of a row.
* `returnedSymbol?`, `returnedSymbols`: The symbols of unconstrained returns.

## Theorems

* `numbered_inj`: A name determines its stem and its number.
* `upcoming_append`, `toNat_upcoming`: The numbers of a supply, taken apart and
  as an interval.
* `draws_append`: Rows behind each other.
* `draws_perform`, `draws_run`: What operations and programs draw.
* `nodup_freshNames`: The names of a row are distinct.
* `sublist_returnedSymbols`: The returned symbols are fresh names.
* `returnedSymbol_returnUnconstrained`: What the library summary returns.
-/

namespace CallSummary

namespace NameSupply

theorem not_mem_digits (number : Nat) : '_' ∉ Nat.toDigits 10 number := by
  intro hmem
  have hdigit := Nat.isDigit_of_mem_toDigits (by decide) (by decide) hmem
  exact absurd hdigit (by decide)

theorem toDigits_inj (number other : Nat) (h : Nat.toDigits 10 number = Nat.toDigits 10 other) :
    number = other := by
  have hback := congrArg (fun digits => Nat.ofDigitChars 10 digits 0) h
  simp only [Nat.ofDigitChars_toDigits (b := 10) (by decide) (by decide)] at hback
  exact hback

/-- Two rows that are split at their last underscore are split in the same
    place. -/
theorem split_at_last (first second before after : List Char) (hbefore : '_' ∉ before)
    (hafter : '_' ∉ after) (h : first ++ '_' :: before = second ++ '_' :: after) :
    first = second ∧ before = after := by
  rcases List.append_eq_append_iff.mp h with ⟨gap, rfl, hgap⟩ | ⟨gap, rfl, hgap⟩
  · cases gap with
    | nil =>
        simp only [List.nil_append, List.cons.injEq, true_and] at hgap
        exact ⟨(List.append_nil first).symm, hgap⟩
    | cons char gap =>
        rw [List.cons_append, List.cons.injEq] at hgap
        rw [hgap.2] at hbefore
        exact absurd (List.mem_append_right gap List.mem_cons_self) hbefore
  · cases gap with
    | nil =>
        simp only [List.nil_append, List.cons.injEq, true_and] at hgap
        exact ⟨List.append_nil second, hgap.symm⟩
    | cons char gap =>
        rw [List.cons_append, List.cons.injEq] at hgap
        rw [hgap.2] at hafter
        exact absurd (List.mem_append_right gap List.mem_cons_self) hafter

/-- A name determines its stem and its number. The stem may end in an underscore
    and digits itself, or be empty. -/
theorem numbered_inj (stem other : String) (number number' : Nat) :
    numbered stem number = numbered other number' ↔ stem = other ∧ number = number' := by
  constructor
  · intro h
    have hchars : stem.toList ++ '_' :: Nat.toDigits 10 number =
        other.toList ++ '_' :: Nat.toDigits 10 number' := by
      have hlist := congrArg String.toList h
      simpa [numbered, Nat.toString_eq_ofList_toDigits] using hlist
    rcases split_at_last _ _ _ _ (not_mem_digits number) (not_mem_digits number') hchars with
      ⟨hstem, hdigits⟩
    exact ⟨String.toList_inj.mp hstem, toDigits_inj number number' hdigits⟩
  · rintro ⟨rfl, rfl⟩
    rfl

/-- The numbers that are drawn next, one after the other. -/
def upcoming (supply : NameSupply) : (count : Nat) → List Word
  | 0 => []
  | count + 1 => supply.draw.1 :: supply.draw.2.upcoming count

/-- What is drawn at once, and what is drawn after it. -/
theorem upcoming_append (first second : Nat) :
    ∀ supply : NameSupply, supply.upcoming (first + second) =
      supply.upcoming first ++ upcoming ⟨supply.next + .ofNat first⟩ second := by
  induction first with
  | zero =>
      intro supply
      rw [Nat.zero_add, supply.next_add_zero, upcoming, List.nil_append]
  | succ first ih =>
      intro supply
      -- One step further on there is one number less in front.
      have hnext : supply.draw.2.next + .ofNat first = supply.next + .ofNat (first + 1) := by
        simp only [draw, UInt64.ofNat_add, UInt64.add_assoc]
        rw [UInt64.add_comm (.ofNat first)]
        rfl
      rw [Nat.succ_add, upcoming, upcoming, ih supply.draw.2, hnext, List.cons_append]

/-- As long as the supply does not begin again, its numbers are an interval. -/
theorem toNat_upcoming (count : Nat) :
    ∀ supply : NameSupply, supply.next.toNat + count < 2 ^ 64 →
      (supply.upcoming count).map UInt64.toNat = List.range' supply.next.toNat count := by
  induction count with
  | zero => exact fun supply _ => rfl
  | succ count ih =>
      intro supply h
      -- There is a number left, so the next one does not begin again at zero.
      have hnext : supply.draw.2.next.toNat = supply.next.toNat + 1 :=
        supply.toNat_next_add 1 (by omega)
      rw [upcoming, List.map_cons, ih supply.draw.2 (by omega), hnext, List.range'_succ]
      rfl

end NameSupply

/-- Something that was drawn from a supply of names. -/
inductive Drawing where
  | number (drawn : Word)
  /-- A name, which was made with the number that was drawn for it. -/
  | name (stem text : String)
deriving DecidableEq

/-- The drawing has used up the number. -/
def Drawing.Shows : Drawing → Nat → Prop
  | .number drawn, n => drawn.toNat = n
  | .name stem text, n => text = NameSupply.numbered stem n

def Drawing.name? : Drawing → Option String
  | .number _ => none
  | .name _ text => some text

/-- The names of a row of drawings. -/
def freshNames (row : List Drawing) : List String :=
  row.filterMap Drawing.name?

mutual

/-- What was drawn at a node, by the bodies inside it too, and whatever became
    of them. -/
def Entry.drawings : Entry → List Drawing
  | .performed .drawNumber (.ok drawn) => [.number drawn]
  | .performed (.freshName stem) (.ok text) => [.name stem text]
  | .performed _ _ => []
  | .forked entries _ => CallSummary.drawings entries
  | .summarized _ entries _ => CallSummary.drawings entries
  | .prepared _ => []

/-- What a transcript shows as drawn, in order. -/
def drawings : List Entry → List Drawing
  | [] => []
  | entry :: rest => entry.drawings ++ drawings rest

end

/-- The row leads from one supply to the other: it has used up the numbers in
    between, each of them once and in order. -/
structure Draws (before after : NameSupply) (row : List Drawing) : Prop where
  next : after.next = before.next + .ofNat row.length
  shows : List.Forall₂ Drawing.Shows row ((before.upcoming row.length).map UInt64.toNat)

theorem draws_nil (names : NameSupply) : Draws names names [] where
  next := names.next_add_zero.symm
  shows := .nil

theorem draws_single (names : NameSupply) (drawing : Drawing)
    (h : drawing.Shows names.next.toNat) : Draws names names.draw.2 [drawing] where
  next := rfl
  shows := .cons h .nil

/-- Rows behind each other are one row. -/
theorem draws_append (before middle after : NameSupply) (first second : List Drawing)
    (hfirst : Draws before middle first) (hsecond : Draws middle after second) :
    Draws before after (first ++ second) where
  next := by
    rw [hsecond.next, hfirst.next, List.length_append, UInt64.ofNat_add, UInt64.add_assoc]
  shows := by
    have hmiddle : middle = ⟨before.next + .ofNat first.length⟩ :=
      congrArg NameSupply.mk hfirst.next
    have hrest := hsecond.shows
    rw [hmiddle] at hrest
    rw [List.length_append, NameSupply.upcoming_append, List.map_append]
    exact List.rel_append hfirst.shows hrest

namespace Activation

theorem names_of_extends (a after : Activation) (h : a.Extends after) : after.names = a.names := by
  rcases h with ⟨events, rfl⟩
  rfl

theorem names_setReturn (a : Activation) (setting : Setting) (value : Value) :
    (a.setReturn setting value).state.names = a.names := by
  unfold setReturn
  cases setting.returnRegister with
  | error fault => rfl
  | ok register => rfl

theorem names_doReturn (a : Activation) (setting : Setting) :
    (a.doReturn setting).state.names = a.names := by
  unfold doReturn
  cases setting.returnSequence with
  | error fault => rfl
  | ok sequence =>
      refine Outcome.state_andThen _ _ (fun after : Activation => after.names = a.names) rfl ?_
      exact fun target middle hmiddle => hmiddle

end Activation

namespace Operation

/-- Two operations draw, and all others leave the supply as it is. -/
theorem draws_perform (setting : Setting) (op : Operation) (a : Activation) :
    Draws a.names (op.perform setting a).state.names
      (Entry.performed op (op.perform setting a).result).drawings := by
  have hkept : ∀ after : Activation, after.names = a.names → Draws a.names after.names [] := by
    intro after h
    rw [h]
    exact draws_nil a.names
  cases op with
  | drawNumber => exact draws_single a.names (.number _) rfl
  | freshName stem => exact draws_single a.names (.name stem _) rfl
  | argument index => exact hkept _ (a.names_of_extends _ (a.argument_extends setting index))
  | arguments count =>
      exact hkept _ (a.names_of_extends _ (Activation.argumentsFrom_extends setting count a 0))
  | setReturn value => exact hkept _ (a.names_setReturn setting value)
  | forwardArgument index =>
      refine hkept _ (Outcome.state_andThen _ _
        (fun after : Activation => after.names = a.names) ?_ ?_)
      · exact a.names_of_extends _ (a.argument_extends setting index)
      · exact fun value middle hmiddle => (middle.names_setReturn setting value).trans hmiddle
  | doReturn => exact hkept _ (a.names_doReturn setting)
  | _ => exact draws_nil a.names

end Operation

/-- A program draws what its transcript shows, by induction on the program. A
    body goes on with the supply of the program, and hands it back even if it
    fails. -/
theorem Program.draws_run (setting : Setting) (program : Program) :
    ∀ a : Activation, Draws a.names (program.run setting a).activation.names
      (CallSummary.drawings (program.run setting a).transcript) := by
  induction program with
  | finish status => exact fun a => draws_nil a.names
  | fail fault => exact fun a => draws_nil a.names
  | perform op next ih =>
      intro a
      have hop := op.draws_perform setting a
      have hrest := ih (op.perform setting a).result (op.perform setting a).state
      exact draws_append _ _ _ _ _ hop hrest
  | fork body next ihbody ih =>
      intro a
      have hbody := ihbody a.child
      cases hresult : (body.run setting a.child).result with
      | error fault =>
          rw [run_fork_error setting body next a fault hresult]
          have hrest := ih (.error fault) (a.dropping (body.run setting a.child).activation)
          exact draws_append _ _ _ _ _ hbody hrest
      | ok status =>
          rw [run_fork_ok setting body next a status hresult]
          have hrest := ih (.ok ()) (a.taking (body.run setting a.child).activation)
          exact draws_append _ _ _ _ _ hbody hrest
  | inline name body next ihbody ih =>
      intro a
      have hbody := ihbody a
      have hrest := ih (body.run setting a).result (body.run setting a).activation
      exact draws_append _ _ _ _ _ hbody hrest

theorem exists_shows_of_mem (row : List Drawing) (numbers : List Nat) (drawing : Drawing)
    (h : List.Forall₂ Drawing.Shows row numbers) (hmem : drawing ∈ row) :
    ∃ number ∈ numbers, drawing.Shows number := by
  induction h with
  | nil => exact absurd hmem List.not_mem_nil
  | cons hshows _ ih =>
      rcases List.mem_cons.mp hmem with rfl | hrest
      · exact ⟨_, List.mem_cons_self, hshows⟩
      · rcases ih hrest with ⟨number, hnumber, hother⟩
        exact ⟨number, List.mem_cons_of_mem _ hnumber, hother⟩

/-- The names of a row are distinct, since each has a number of its own. -/
theorem nodup_freshNames (row : List Drawing) (numbers : List Nat)
    (h : List.Forall₂ Drawing.Shows row numbers) (hnodup : numbers.Nodup) :
    (freshNames row).Nodup := by
  induction h with
  | nil => exact List.nodup_nil
  | @cons drawing number row numbers hshows hrest ih =>
      rw [List.nodup_cons] at hnodup
      have hbehind := ih hnodup.2
      cases drawing with
      | number drawn => exact hbehind
      | name stem text =>
          refine List.nodup_cons.mpr ⟨?_, hbehind⟩
          intro hmem
          -- The same name further on would have been made with the same number.
          rcases List.mem_filterMap.mp hmem with ⟨other, hother, htext⟩
          rcases exists_shows_of_mem row numbers other hrest hother with ⟨number', hnumber, hother'⟩
          cases other with
          | number drawn => cases htext
          | name stem' text' =>
              cases htext
              have hsame := (NameSupply.numbered_inj _ _ _ _).mp (hshows.symm.trans hother')
              rw [hsame.2] at hnodup
              exact hnodup.1 hnumber

/-- The numbers of a row are the interval between the two supplies, as long as
    the supply does not begin again. -/
theorem Draws.interval {before after : NameSupply} {row : List Drawing}
    (h : Draws before after row) (hlasts : before.next.toNat + row.length < 2 ^ 64) :
    after.next.toNat = before.next.toNat + row.length ∧
      List.Forall₂ Drawing.Shows row (List.range' before.next.toNat row.length) := by
  refine ⟨?_, ?_⟩
  · rw [h.next, before.toNat_next_add row.length (by omega)]
  · rw [← before.toNat_upcoming row.length hlasts]
    exact h.shows

/-- The symbol that an unconstrained return has made and returned, if the
    transcript is one of such a return and has come so far. -/
def returnedSymbol? : List Entry → Option String
  | .performed .returnRegister (.ok register) :: .performed (.freshName _) (.ok text) ::
      .performed (.setReturn value) _ :: _ =>
    if value = .symbol text register.bits then some text else none
  | _ => none

mutual

/-- The symbols of the unconstrained returns inside an entry. -/
def Entry.returnedSymbols : Entry → List String
  | .prepared _ => []
  | .performed _ _ => []
  | .forked entries _ => CallSummary.returnedSymbols entries
  | .summarized _ entries _ =>
    (returnedSymbol? entries).toList ++ CallSummary.returnedSymbols entries

/-- The symbols of the unconstrained returns that a transcript shows, at any
    depth. -/
def returnedSymbols : List Entry → List String
  | [] => []
  | entry :: rest => entry.returnedSymbols ++ returnedSymbols rest

end

theorem freshNames_append (first second : List Drawing) :
    freshNames (first ++ second) = freshNames first ++ freshNames second :=
  List.filterMap_append

mutual

theorem Entry.sublist_returnedSymbols (entry : Entry) :
    entry.returnedSymbols.Sublist (freshNames entry.drawings) := by
  cases entry with
  | prepared invocation => exact List.Sublist.slnil
  | performed op reply => exact List.nil_sublist _
  | forked entries result => exact CallSummary.sublist_returnedSymbols entries
  | summarized name entries result =>
      exact CallSummary.sublist_returnedSymbol entries

theorem sublist_returnedSymbol (entries : List Entry) :
    ((returnedSymbol? entries).toList ++ returnedSymbols entries).Sublist
      (freshNames (drawings entries)) := by
  unfold returnedSymbol?
  split
  next register stem text value reply rest =>
    -- The fresh name is the second entry, and the first and third draw nothing.
    have hrest := CallSummary.sublist_returnedSymbols rest
    split
    next => exact hrest.cons_cons text
    next => exact hrest.cons text
  next => exact CallSummary.sublist_returnedSymbols entries

theorem sublist_returnedSymbols (entries : List Entry) :
    (returnedSymbols entries).Sublist (freshNames (drawings entries)) := by
  cases entries with
  | nil => exact List.Sublist.slnil
  | cons entry rest =>
      simp only [returnedSymbols, drawings, freshNames_append]
      exact entry.sublist_returnedSymbols.append (CallSummary.sublist_returnedSymbols rest)

end

/-- An unconstrained return makes its symbol with the next number, if there is
    a register to return it in. -/
theorem Summary.returnedSymbol_returnUnconstrained (setting : Setting) (a : Activation)
    (register : Register) (h : setting.returnRegister = .ok register) :
    returnedSymbol? (returnUnconstrained.program.run setting a).transcript =
      some (NameSupply.numbered "unconstrained_ret" a.names.next.toNat) := by
  simp only [returnUnconstrained, Program.ask, Program.step, Program.run, Operation.perform, h,
    Outcome.result_done, Run.after, returnedSymbol?, if_true]
  rfl

end CallSummary
