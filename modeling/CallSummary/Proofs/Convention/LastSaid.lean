import CallSummary.Convention.Builtin

/-!
# What Was Said Last

A registry answers with the last thing that was said to it.

A row can be asked four questions, the first of them once for every
convention. What is said about one of them is an entry, and a declaration is
a row of entries: its placements in their order, and then its other parts,
as far as they are there (`declare_eq_entries`). So whatever is done to a
registry is a row of entries in the end. An entry is the answer to its own
question, and leaves the other answers alone (`answer_enter`). From this
`answer_foldl` goes to every row of entries by induction: the last entry that
says something about the question counts, and the old answer where none does.

Architectures do not meet. An entry goes into the row of its own architecture,
so a row of the registry has seen the entries of its own architecture and no
others, in their order (`rules_afterAll`). That is why changes of different
architectures commute: no row can tell which of them came first.

A declaration that is entered twice says everything twice, and the last thing
said is the same. Every row of the built-in registry is a declaration, so it
does not notice when it is declared again.

## Main definitions

* `Rules.Question`, `Rules.answer?`: What a row can be asked.
* `Rules.Entry`, `Rules.Entry.says?`: What can be said, and about what.
* `Declaration.entries`: A declaration as a row of entries.
* `Registry.Change`, `Registry.afterAll`: A registry after changes.
* `Registry.ownEntries`: What was said of one architecture, in order.

## Theorems

* `answer_foldl`: After a row of changes, the last thing said counts.
* `declare_eq_entries`: A declaration is a row of entries.
* `declare_declare`: Declaring again changes nothing.
* `rules_afterAll`: Each architecture sees its own entries.
* `apply_comm`: Changes of different architectures commute.
* `conventions_ascending`: Conventions are listed in order, each once.
* `answers_lastSaid`: A registry answers with what was said last.
* `answers_lastSaid_twice`: A convention placed twice in one declaration.
-/

namespace CallSummary

/-- If a change leaves what it says or else what was there, then a row of
    changes leaves the last thing that is said. -/
theorem answer_foldl {State Change Entry : Type} (apply : State → Change → State)
    (answer : State → Option Entry) (says? : Change → Option Entry)
    (happly : ∀ state change, answer (apply state change) = (says? change).or (answer state))
    (changes : List Change) : ∀ state,
    answer (changes.foldl apply state) =
      (changes.filterMap says?).getLast?.or (answer state) := by
  induction changes with
  | nil => exact fun _ => rfl
  | cons change rest ih =>
      intro state
      rw [List.foldl_cons, ih (apply state change), happly]
      -- What the rest says comes later than what this change says.
      cases hsays : says? change with
      | none => rw [List.filterMap_cons_none hsays, Option.none_or]
      | some entry =>
          rw [List.filterMap_cons_some hsays, ← List.singleton_append, List.getLast?_append,
            Option.or_assoc]
          rfl

namespace Rules

/-- What a row can be asked. -/
inductive Question where
  | placement (convention : CallingConvention)
  | preferred
  | returnRegister
  | returnSequence

/-- What an answer to the question is. -/
def Question.Answer : Question → Type
  | .placement _ => Placement
  | .preferred => CallingConvention
  | .returnRegister => Register
  | .returnSequence => ReturnSequence

/-- The answer of the row, if it has one. -/
def answer? (rules : Rules) : (question : Question) → Option question.Answer
  | .placement convention => rules.placement convention
  | .preferred => rules.preferred
  | .returnRegister => rules.returnRegister
  | .returnSequence => rules.returnSequence

/-- One thing that can be said to a row. -/
inductive Entry where
  | placement (convention : CallingConvention) (placed : Placement)
  | preferred (convention : CallingConvention)
  | returnRegister (register : Register)
  | returnSequence (sequence : ReturnSequence)

/-- The row with the entry in it. -/
def enter (rules : Rules) : Entry → Rules
  | .placement convention placed => rules.setPlacement convention placed
  | .preferred convention => rules.setPreferred convention
  | .returnRegister register => rules.setReturnRegister register
  | .returnSequence sequence => rules.setReturnSequence sequence

/-- What the entry says about the question. -/
def Entry.says? : Entry → (question : Question) → Option question.Answer
  | .placement other placed, .placement convention =>
      if other = convention then some placed else none
  | .preferred convention, .preferred => some convention
  | .returnRegister register, .returnRegister => some register
  | .returnSequence sequence, .returnSequence => some sequence
  | _, _ => none

/-- Rows that answer alike are equal. -/
theorem ext_answer (rules other : Rules)
    (h : ∀ question, rules.answer? question = other.answer? question) : rules = other := by
  ext1
  · funext convention
    exact h (.placement convention)
  · exact h .preferred
  · exact h .returnRegister
  · exact h .returnSequence

/-- An entry is the answer to its own question, and to no other. -/
theorem answer_enter (question : Question) (rules : Rules) (entry : Entry) :
    (rules.enter entry).answer? question = (entry.says? question).or (rules.answer? question) := by
  cases entry with
  | placement other placed =>
      cases question with
      | placement convention =>
          change (if convention = other then some placed else rules.placement convention) =
            (if other = convention then some placed else none).or (rules.placement convention)
          by_cases h : other = convention
          · rw [if_pos h, if_pos h.symm]
            rfl
          · rw [if_neg h, if_neg fun hc => h hc.symm]
            rfl
      | preferred => rfl
      | returnRegister => rfl
      | returnSequence => rfl
  | preferred convention => cases question <;> rfl
  | returnRegister register => cases question <;> rfl
  | returnSequence sequence => cases question <;> rfl

/-- After a row of entries, the last one about the question is the answer. -/
theorem answer_enterAll (question : Question) (entries : List Entry) (rules : Rules) :
    (entries.foldl enter rules).answer? question =
      (entries.filterMap (·.says? question)).getLast?.or (rules.answer? question) :=
  answer_foldl enter (·.answer? question) (·.says? question) (answer_enter question) entries rules

end Rules

namespace Declaration

/-- The declaration as a row of entries. A part that is absent is none. -/
def entries (declaration : Declaration) : List Rules.Entry :=
  declaration.placements.map (fun entry => .placement entry.1 entry.2) ++
    declaration.preferred.toList.map .preferred ++
    declaration.returnRegister.toList.map .returnRegister ++
    declaration.returnSequence.toList.map .returnSequence

/-- Placements leave the other parts of the row as they are. -/
theorem placing_keeps (placements : List (CallingConvention × Placement)) (rules : Rules) :
    let placed := placements.foldl (fun rules entry => rules.setPlacement entry.1 entry.2) rules
    placed.preferred = rules.preferred ∧ placed.returnRegister = rules.returnRegister ∧
      placed.returnSequence = rules.returnSequence := by
  induction placements generalizing rules with
  | nil => exact ⟨rfl, rfl, rfl⟩
  | cons entry rest ih => exact ih (rules.setPlacement entry.1 entry.2)

theorem declare_eq_entries (declaration : Declaration) (rules : Rules) :
    rules.declare declaration = declaration.entries.foldl Rules.enter rules := by
  rcases declaration with ⟨preferred, placements, register, sequence⟩
  simp only [entries, List.foldl_append, List.foldl_map]
  rcases placing_keeps placements rules with ⟨hpreferred, hregister, hsequence⟩
  unfold Rules.declare
  -- What is absent falls back on the row, and placing has left that entry there.
  rw [← hpreferred, ← hregister, ← hsequence]
  cases preferred <;> cases register <;> cases sequence <;> rfl

/-- What is declared again has been said before. -/
theorem declare_declare (declaration : Declaration) (rules : Rules) :
    (rules.declare declaration).declare declaration = rules.declare declaration := by
  refine Rules.ext_answer _ _ fun question => ?_
  simp only [declare_eq_entries, Rules.answer_enterAll, ← Option.or_assoc, Option.or_self]

end Declaration

namespace Registry

/-- The answer of the registry for the architecture, if it has one. -/
def answer? (registry : Registry) (arch : Architecture) :
    (question : Rules.Question) → Option question.Answer
  | .placement convention => registry.placement? arch convention
  | .preferred => registry.preferred? arch
  | .returnRegister => registry.returnRegister? arch
  | .returnSequence => registry.returnSequence? arch

theorem answer_eq (registry : Registry) (arch : Architecture) (question : Rules.Question) :
    registry.answer? arch question = (registry.rules arch).answer? question := by
  cases question <;> rfl

/-- One change of a registry. -/
inductive Change where
  | declare (arch : Architecture) (declaration : Declaration)
  | placement (arch : Architecture) (convention : CallingConvention) (placed : Placement)
  | preferred (arch : Architecture) (convention : CallingConvention)
  | returnRegister (arch : Architecture) (register : Register)
  | returnSequence (arch : Architecture) (sequence : ReturnSequence)

/-- The registry with the change made. -/
def apply (registry : Registry) : Change → Registry
  | .declare arch declaration => registry.declare arch declaration
  | .placement arch convention placed => registry.setPlacement arch convention placed
  | .preferred arch convention => registry.setPreferred arch convention
  | .returnRegister arch register => registry.setReturnRegister arch register
  | .returnSequence arch sequence => registry.setReturnSequence arch sequence

/-- The registry with all the changes made, in order. -/
def afterAll (registry : Registry) (changes : List Change) : Registry :=
  changes.foldl apply registry

/-- The architecture whose row is changed. -/
def Change.architecture : Change → Architecture
  | .declare arch _ => arch
  | .placement arch _ _ => arch
  | .preferred arch _ => arch
  | .returnRegister arch _ => arch
  | .returnSequence arch _ => arch

/-- What the change says, in order. -/
def Change.entries : Change → List Rules.Entry
  | .declare _ declaration => declaration.entries
  | .placement _ convention placed => [.placement convention placed]
  | .preferred _ convention => [.preferred convention]
  | .returnRegister _ register => [.returnRegister register]
  | .returnSequence _ sequence => [.returnSequence sequence]

/-- The change that makes a single entry. -/
def Change.single (arch : Architecture) : Rules.Entry → Change
  | .placement convention placed => .placement arch convention placed
  | .preferred convention => .preferred arch convention
  | .returnRegister register => .returnRegister arch register
  | .returnSequence sequence => .returnSequence arch sequence

/-- Everything that the changes say of one architecture, in order. -/
def ownEntries (arch : Architecture) (changes : List Change) : List Rules.Entry :=
  changes.flatMap fun change => if change.architecture = arch then change.entries else []

/-- A change enters what it says in the row of its architecture. -/
theorem apply_eq_update (registry : Registry) (change : Change) :
    registry.apply change =
      registry.update change.architecture fun rules => change.entries.foldl Rules.enter rules := by
  cases change with
  | declare arch declaration =>
      change registry.update arch (fun rules => rules.declare declaration) = _
      congr 1
      funext rules
      exact declaration.declare_eq_entries rules
  | placement arch convention placed => rfl
  | preferred arch convention => rfl
  | returnRegister arch register => rfl
  | returnSequence arch sequence => rfl

/-- The row of an architecture has seen its own entries and no others. -/
theorem rules_afterAll (arch : Architecture) (changes : List Change) :
    ∀ registry : Registry, (registry.afterAll changes).rules arch =
      (ownEntries arch changes).foldl Rules.enter (registry.rules arch) := by
  induction changes with
  | nil => exact fun _ => rfl
  | cons change rest ih =>
      intro registry
      change ((registry.apply change).afterAll rest).rules arch = _
      rw [ih (registry.apply change), apply_eq_update, ownEntries, ownEntries, List.flatMap_cons,
        List.foldl_append]
      by_cases h : change.architecture = arch
      · subst h
        rw [update_same, if_pos rfl]
      · rw [update_other _ _ fun hc => h hc.symm, if_neg h]
        rfl

/-- After a row of changes, what was said last of the architecture is the
    answer. -/
theorem answer_afterAll (registry : Registry) (changes : List Change) (arch : Architecture)
    (question : Rules.Question) :
    (registry.afterAll changes).answer? arch question =
      ((ownEntries arch changes).filterMap (·.says? question)).getLast?.or
        (registry.answer? arch question) := by
  rw [answer_eq, rules_afterAll, Rules.answer_enterAll, answer_eq]

/-- Registries are known by their rows, and a row by what was said of its
    architecture. So it does not matter in which order different architectures
    are spoken of. -/
theorem afterAll_congr (registry : Registry) (changes others : List Change)
    (h : ∀ arch, ownEntries arch changes = ownEntries arch others) :
    registry.afterAll changes = registry.afterAll others := by
  ext1
  funext arch
  rw [rules_afterAll, rules_afterAll, h]

theorem apply_comm (registry : Registry) (first second : Change)
    (h : first.architecture ≠ second.architecture) :
    (registry.apply first).apply second = (registry.apply second).apply first := by
  refine registry.afterAll_congr [first, second] [second, first] fun arch => ?_
  simp only [ownEntries, List.flatMap_cons, List.flatMap_nil, List.append_nil]
  by_cases hfirst : first.architecture = arch
  · have hsecond : second.architecture ≠ arch := fun hc => h (hfirst.trans hc.symm)
    rw [if_neg hsecond, List.append_nil, List.nil_append]
  · rw [if_neg hfirst, List.append_nil, List.nil_append]

/-- A declaration does what its entries do one by one. -/
theorem declare_eq_afterAll (registry : Registry) (arch : Architecture)
    (declaration : Declaration) :
    registry.declare arch declaration =
      registry.afterAll (declaration.entries.map (Change.single arch)) := by
  have hsingle : ∀ entry : Rules.Entry, (Change.single arch entry).architecture = arch ∧
      (Change.single arch entry).entries = [entry] := by
    intro entry
    cases entry <;> exact ⟨rfl, rfl⟩
  refine registry.afterAll_congr [.declare arch declaration] _ fun other => ?_
  simp only [ownEntries, List.flatMap_map, hsingle, List.flatMap_cons, List.flatMap_nil,
    List.append_nil]
  by_cases h : arch = other
  · simp [Change.architecture, Change.entries, h]
  · simp [Change.architecture, h]

/-- The built-in registry has heard every declaration. -/
theorem declare_builtin (arch : Architecture) :
    builtin.declare arch arch.declaration = builtin := by
  ext1
  funext other
  by_cases h : other = arch
  · subst h
    change (builtin.update other (·.declare other.declaration)).rules other = _
    rw [update_same, rules_builtin, Declaration.declare_declare]
  · exact update_other _ _ h

/-- The conventions of an architecture are listed in order. -/
theorem conventions_ascending (registry : Registry) (arch : Architecture) :
    (registry.conventions arch).Pairwise fun first second => first.ctorIdx < second.ctorIdx := by
  have hall : CallingConvention.all.Pairwise fun first second =>
      first.ctorIdx < second.ctorIdx := by decide
  exact hall.filter _

theorem conventions_nodup (registry : Registry) (arch : Architecture) :
    (registry.conventions arch).Nodup := by
  refine (registry.conventions_ascending arch).imp fun hlt heq => ?_
  rw [heq] at hlt
  exact Nat.lt_irrefl _ hlt

/-- A registry answers with what was said last. After any changes, the answer
    for an architecture is given by the last entry that says something about
    the question, and is the old one if there is none. Changes of different
    architectures commute, and a declaration does what its entries do one by
    one. The built-in registry does not notice that an architecture is declared
    again. Its conventions are listed in order and each once, and they are
    those that have a placement. A call that asks for none gets the preferred
    one. -/
theorem answers_lastSaid (registry : Registry) (changes : List Change) (arch : Architecture) :
    (∀ question, (registry.afterAll changes).answer? arch question =
        ((ownEntries arch changes).filterMap (·.says? question)).getLast?.or
          (registry.answer? arch question)) ∧
      (∀ first second : Change, first.architecture ≠ second.architecture →
        (registry.apply first).apply second = (registry.apply second).apply first) ∧
      (∀ declaration, registry.declare arch declaration =
        registry.afterAll (declaration.entries.map (Change.single arch))) ∧
      builtin.declare arch arch.declaration = builtin ∧
      (registry.conventions arch).Pairwise (fun first second => first.ctorIdx < second.ctorIdx) ∧
      (registry.conventions arch).Nodup ∧
      (∀ convention, convention ∈ registry.conventions arch ↔
        (registry.placement? arch convention).isSome) ∧
      ∀ requested, registry.resolve arch requested =
        requested.or (registry.answer? arch .preferred) :=
  ⟨registry.answer_afterAll changes arch, registry.apply_comm, registry.declare_eq_afterAll arch,
    declare_builtin arch, registry.conventions_ascending arch, registry.conventions_nodup arch,
    fun _ => mem_conventions, fun _ => rfl⟩

/-- Two entries for one convention in a declaration that says nothing else: the
    later one stays, and what was built in for the rest of the architecture
    too. Another architecture may be spoken of before or after. -/
theorem answers_lastSaid_twice :
    let first : Placement := ⟨[Amd64.rdi], 1, -8⟩
    let second : Placement := ⟨[], 1, -8⟩
    let declared : Change := .declare .amd64
      { Declaration.empty with placements := [(.cdecl, first), (.cdecl, second)] }
    let elsewhere : Change := .preferred .x86 .syscall
    (builtin.afterAll [elsewhere, declared]).answer? .amd64 (.placement .cdecl) = some second ∧
      (builtin.afterAll [elsewhere, declared]).answer? .amd64 .preferred = some .systemV ∧
      (builtin.apply elsewhere).apply declared = (builtin.apply declared).apply elsewhere := by
  intro first second declared elsewhere
  refine ⟨?_, ?_, ?_⟩
  · exact (answers_lastSaid builtin [elsewhere, declared] .amd64).1 (.placement .cdecl)
  · exact (answers_lastSaid builtin [elsewhere, declared] .amd64).1 .preferred
  · exact (answers_lastSaid builtin [] .amd64).2.1 elsewhere declared (by decide)

end Registry

end CallSummary
