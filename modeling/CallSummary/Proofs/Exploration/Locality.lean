import CallSummary.Proofs.Exploration.StepLimit

/-!
# Locality of Explorations

An exploration depends on what stands at the addresses it visits, and on
nothing else.

Two explorers are compared that share a registry. At an address they are the
same if they have the same hook there, or no hook and the same block. A block
under a hook is not compared, since a hook is taken before a block. One visit
looks at one address (`runUnit_congr`), so it goes on at the same position in
both explorers, and the next address is one that the first of them visits. Only
that side has to be asked about its addresses: the induction in `walk_congr`
carries along that the other one follows. Nothing is assumed about how the
exploration ends. Explorers that agree on the way to a fault come to the same
fault.

An explorer is changed by edits, which put a hook or a block at an address or
take it away. An edit spares an address if it leaves alone what is run there,
so it is made elsewhere, or to a block under a hook. A row of edits that spare
all addresses of an exploration does not change it. That later edits of the row
spare the addresses of the edited explorer too is what `spares_of_sameAt` is
for.

## Main definitions

* `Explorer.SameAt`: The same is run at an address.
* `Edit`, `Edit.apply`: A change to an explorer.
* `Edit.Spares`: The change leaves alone what is run at an address.

## Theorems

* `runUnit_congr`: A visit looks at its own address.
* `walk_congr`: A walk looks at the addresses it visits.
* `sameAt_edits`: A row of edits that spare an address.
* `explore_local`: An exploration depends on what it visits.
-/

namespace CallSummary

namespace Explorer

/-- The same is run at the address. A block counts only where there is no
    hook. -/
structure SameAt (first second : Explorer) (address : Word) : Prop where
  hook : second.hooks.lookup? address = first.hooks.lookup? address
  block : first.hooks.lookup? address = none →
    second.blocks[address]? = first.blocks[address]?

theorem sameAt_refl (explorer : Explorer) (address : Word) : explorer.SameAt explorer address :=
  ⟨rfl, fun _ => rfl⟩

theorem sameAt_trans (first second third : Explorer) (address : Word)
    (h : first.SameAt second address) (h' : second.SameAt third address) :
    first.SameAt third address := by
  refine ⟨h'.hook.trans h.hook, ?_⟩
  intro hnone
  exact (h'.block (h.hook.trans hnone)).trans (h.block hnone)

/-- A visit looks at what stands at its own address. -/
theorem runUnit_congr (first second : Explorer) (position : Position)
    (hregistry : second.registry = first.registry) (h : first.SameAt second position.address) :
    second.runUnit position = first.runUnit position := by
  unfold runUnit
  rw [HookTable.isHooked_eq, HookTable.isHooked_eq, h.hook]
  cases hlookup : first.hooks.lookup? position.address with
  | none =>
      -- Neither side has a hook, so the blocks are run.
      simp only [Option.isSome_none, Bool.false_eq_true, if_false]
      unfold runBlock
      rw [h.block hlookup, hregistry]
  | some hook =>
      simp only [Option.isSome_some, if_true]
      -- The hook is all that is asked for, and no block is looked at.
      unfold runHook HookTable.dispatch?
      rw [h.hook, hregistry]

/-- A walk looks at the addresses it visits, by induction on the number of
    steps. The position is that of both explorers, as long as they agree on what
    the first one visits. -/
theorem walk_congr (first second : Explorer) (limit steps : Nat)
    (hregistry : second.registry = first.registry) :
    ∀ position : Position,
      (∀ address ∈ (first.walk limit steps position).visited, first.SameAt second address) →
        second.walk limit steps position = first.walk limit steps position := by
  induction steps with
  | zero => exact fun _ _ => rfl
  | succ steps ih =>
      intro position h
      have hvisited : position.address ∈ (first.walk limit (steps + 1) position).visited := by
        rcases first.visited_walk_succ limit steps position with ⟨rest, hrest⟩
        rw [hrest]
        exact List.mem_cons_self
      have hadvance : second.advance position = first.advance position := by
        unfold advance
        rw [first.runUnit_congr second position hregistry (h _ hvisited)]
      have hsame : second.next? position = first.next? position := by
        unfold next?
        rw [hadvance]
      cases hnext : first.next? position with
      | none =>
          rw [first.walk_of_next_none limit steps position hnext,
            second.walk_of_next_none limit steps position (hsame.trans hnext)]
          simp only [conclude, hadvance]
      | some next =>
          -- The rest of the walk visits the rest of the addresses.
          have hrest : ∀ address ∈ (first.walk limit steps next).visited,
              first.SameAt second address := by
            intro address hmem
            refine h address ?_
            rw [first.walk_of_next_some limit steps position next hnext]
            exact List.mem_cons_of_mem _ hmem
          rw [first.walk_of_next_some limit steps position next hnext,
            second.walk_of_next_some limit steps position next (hsame.trans hnext),
            ih next hrest, hadvance]

end Explorer

/-- A change to an explorer at one address. -/
inductive Edit where
  | hook (address : Word) (hook : Hook)
  | unhook (address : Word)
  | block (address : Word) (block : Block)
  | unblock (address : Word)

namespace Edit

/-- The explorer with the change made. -/
def apply (explorer : Explorer) : Edit → Explorer
  | hook address new => { explorer with hooks := (explorer.hooks.insert address new).table }
  | unhook address => { explorer with hooks := (explorer.hooks.erase address).table }
  | block address new => { explorer with blocks := explorer.blocks.insert address new }
  | unblock address => { explorer with blocks := explorer.blocks.erase address }

/-- The change leaves alone what is run at the address: it is made elsewhere,
    or to a block where there is a hook. -/
def Spares (explorer : Explorer) (address : Word) : Edit → Prop
  | hook other _ => other ≠ address
  | unhook other => other ≠ address
  | block other _ => other ≠ address ∨ (explorer.hooks.lookup? address).isSome
  | unblock other => other ≠ address ∨ (explorer.hooks.lookup? address).isSome

theorem registry_apply (explorer : Explorer) (edit : Edit) :
    (edit.apply explorer).registry = explorer.registry := by
  cases edit with
  | hook address new => rfl
  | unhook address => rfl
  | block address new => rfl
  | unblock address => rfl

theorem sameAt_apply (explorer : Explorer) (edit : Edit) (address : Word)
    (h : edit.Spares explorer address) : explorer.SameAt (edit.apply explorer) address := by
  -- An edit of blocks matters only if nothing is hooked, and then it is elsewhere.
  have helsewhere : ∀ other : Word,
      other ≠ address ∨ (explorer.hooks.lookup? address).isSome →
        explorer.hooks.lookup? address = none → other ≠ address := by
    rintro other (hne | hhooked) hnone
    · exact hne
    · simp only [hnone, Option.isSome_none, Bool.false_eq_true] at hhooked
  cases edit with
  | hook other new =>
      refine ⟨?_, fun _ => rfl⟩
      rw [apply, HookTable.lookup?_insert, if_neg h]
  | unhook other =>
      refine ⟨?_, fun _ => rfl⟩
      rw [apply, HookTable.lookup?_erase, if_neg h]
  | block other new =>
      refine ⟨rfl, ?_⟩
      intro hnone
      have hne := helsewhere other h hnone
      rw [apply, Std.ExtTreeMap.getElem?_insert, if_neg]
      simpa only [Std.compare_eq_iff_eq] using hne
  | unblock other =>
      refine ⟨rfl, ?_⟩
      intro hnone
      have hne := helsewhere other h hnone
      rw [apply, Std.ExtTreeMap.getElem?_erase, if_neg]
      simpa only [Std.compare_eq_iff_eq] using hne

-- Whether an address is spared is a question about its hook.
theorem spares_of_sameAt (first second : Explorer) (edit : Edit) (address : Word)
    (h : edit.Spares first address) (hsame : first.SameAt second address) :
    edit.Spares second address := by
  cases edit with
  | hook other new => exact h
  | unhook other => exact h
  | block other new =>
      simp only [Spares, hsame.hook]
      exact h
  | unblock other =>
      simp only [Spares, hsame.hook]
      exact h

end Edit

namespace Explorer

/-- The explorer with a row of changes made. -/
def edited (explorer : Explorer) (edits : List Edit) : Explorer :=
  edits.foldl Edit.apply explorer

theorem registry_edited (edits : List Edit) :
    ∀ explorer : Explorer, (explorer.edited edits).registry = explorer.registry := by
  induction edits with
  | nil => exact fun _ => rfl
  | cons edit rest ih => exact fun explorer => (ih _).trans (edit.registry_apply explorer)

/-- A row of edits that spare an address leaves alone what is run there, by
    induction on the row. -/
theorem sameAt_edits (address : Word) (edits : List Edit) :
    ∀ explorer : Explorer, (∀ edit ∈ edits, edit.Spares explorer address) →
      explorer.SameAt (explorer.edited edits) address := by
  induction edits with
  | nil => exact fun explorer _ => explorer.sameAt_refl address
  | cons edit rest ih =>
      intro explorer h
      have hfirst := edit.sameAt_apply explorer address (h edit List.mem_cons_self)
      refine sameAt_trans _ _ _ address hfirst (ih (edit.apply explorer) ?_)
      -- The other edits were said to spare the address before the first was made.
      intro other hother
      exact other.spares_of_sameAt explorer _ address (h other (List.mem_cons_of_mem _ hother))
        hfirst

/-- An exploration depends on the registry and on what is run at the addresses
    it visits. Explorers that are the same there explore in the same way, to the
    same end. So blocks under hooks make no difference to any exploration, and
    neither do edits that are made off the way or to such blocks. -/
theorem explore_local :
    (∀ (first second : Explorer) (machine : Machine) (names : NameSupply) (entry : Word)
        (limit : Nat), second.registry = first.registry →
        (∀ address ∈ (first.explore machine names entry limit).visited,
          first.SameAt second address) →
        second.explore machine names entry limit = first.explore machine names entry limit) ∧
      (∀ (explorer : Explorer) (blocks : Std.ExtTreeMap Word Block) (machine : Machine)
        (names : NameSupply) (entry : Word) (limit : Nat),
        (∀ address, explorer.hooks.isHooked address = false →
          blocks[address]? = explorer.blocks[address]?) →
        Explorer.explore { explorer with blocks := blocks } machine names entry limit =
          explorer.explore machine names entry limit) ∧
      ∀ (explorer : Explorer) (edits : List Edit) (machine : Machine) (names : NameSupply)
        (entry : Word) (limit : Nat),
        (∀ address ∈ (explorer.explore machine names entry limit).visited,
          ∀ edit ∈ edits, edit.Spares explorer address) →
        (explorer.edited edits).explore machine names entry limit =
          explorer.explore machine names entry limit := by
  refine ⟨?_, ?_, ?_⟩
  · intro first second machine names entry limit hregistry h
    exact first.walk_congr second limit limit hregistry _ h
  · intro explorer blocks machine names entry limit h
    refine explorer.walk_congr { explorer with blocks := blocks } limit limit rfl _ ?_
    refine fun address _ => ⟨rfl, ?_⟩
    intro hnone
    refine h address ?_
    rw [HookTable.isHooked_eq, hnone]
    rfl
  · intro explorer edits machine names entry limit h
    refine explorer.walk_congr _ limit limit (registry_edited edits explorer) _ ?_
    intro address haddress
    exact sameAt_edits address edits explorer (h address haddress)

/-- The circle with a block under its hook, a hook off the way, and another one
    that is put there and taken away. -/
def circleEdits : List Edit :=
  [.block 0x2000 [.halt], .hook 0x3000 ⟨Summary.exit, none⟩, .hook 0x1008 ⟨Summary.exit, none⟩,
    .unhook 0x1008, .unblock 0x4000]

theorem explore_local_circle :
    (circle.explore (.withStackPointer .amd64 0x7fff0000) .zero 0x1000 6).visited =
        [0x1000, 0x2000, 0x1000, 0x2000, 0x1000, 0x2000] ∧
      (circle.edited circleEdits).explore (.withStackPointer .amd64 0x7fff0000) .zero 0x1000 6 =
        circle.explore (.withStackPointer .amd64 0x7fff0000) .zero 0x1000 6 := by
  have hvisited : (circle.explore (.withStackPointer .amd64 0x7fff0000) .zero 0x1000 6).visited =
      [0x1000, 0x2000, 0x1000, 0x2000, 0x1000, 0x2000] := rfl
  refine ⟨hvisited, explore_local.2.2 circle circleEdits _ .zero 0x1000 6 ?_⟩
  have hcall : ∀ edit ∈ circleEdits, edit.Spares circle 0x1000 := by
    simp only [circleEdits, List.forall_mem_cons, Edit.Spares]
    refine ⟨.inl (by decide), by decide, by decide, by decide, .inl (by decide), ?_⟩
    exact fun _ hnone => absurd hnone List.not_mem_nil
  have hsummary : ∀ edit ∈ circleEdits, edit.Spares circle 0x2000 := by
    simp only [circleEdits, List.forall_mem_cons, Edit.Spares]
    refine ⟨.inr rfl, by decide, by decide, by decide, .inl (by decide), ?_⟩
    exact fun _ hnone => absurd hnone List.not_mem_nil
  rw [hvisited]
  simp only [List.forall_mem_cons, List.not_mem_nil, false_implies, implies_true, and_true]
  exact ⟨hcall, hsummary, hcall, hsummary, hcall, hsummary⟩

end Explorer

end CallSummary
