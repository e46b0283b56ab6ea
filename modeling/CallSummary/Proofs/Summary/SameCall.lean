import CallSummary.Proofs.Summary.Binding

/-!
# The Call That Is Seen

Every part of a summary sees the call that the summary is bound to.

What is fixed about a call is handed down with the program, into the bodies of
forks and of summaries that are run in place. A body cannot change it, and
nothing that a body does is needed to say what it is. So every reply to an
operation is one that the same setting gives, however deep in the transcript
it stands. `answers_run` says this by induction on the program, with
`within_cons` for the entry that each node writes down.

Most operations ask the machine too, and what they answer depends on when they
are performed. One asks for nothing but the call. Wherever it is performed,
it answers with the same (`invocation_of_within`).

## Main definitions

* `Entry.Within`: An entry stands in a transcript, at whatever depth.
* `Setting.Answers`: All replies of a transcript are replies of the setting.
* `Setting.AnswersEntry`: Those that a single entry shows are.

## Theorems

* `within_cons`: Where an entry can stand in a longer transcript.
* `answers_run`: A run is answered by one setting throughout.
* `invocation_of_within`: The call that is seen is the one of the setting.
* `answers_execute`: A bound summary is answered for the call it is bound to.
-/

namespace CallSummary

namespace Entry

/-- The entry stands in the transcript, or in that of a body that was run in
    between. -/
inductive Within (entry : Entry) : List Entry → Prop where
  | here (entries : List Entry) (h : entry ∈ entries) : Within entry entries
  | fork (entries body : List Entry) (result : Except Fault Unit)
      (h : .forked body result ∈ entries) (hbody : Within entry body) : Within entry entries
  | inline (entries : List Entry) (name : String) (body : List Entry)
      (result : Except Fault (Option Value)) (h : .summarized name body result ∈ entries)
      (hbody : Within entry body) : Within entry entries

theorem not_within_nil (entry : Entry) : ¬ entry.Within [] := by
  intro h
  cases h with
  | here _ h => exact List.not_mem_nil h
  | fork _ body result h _ => exact List.not_mem_nil h
  | inline _ name body result h _ => exact List.not_mem_nil h

/-- An entry of a longer transcript is the first one, or stands in it, or stands
    behind it. -/
theorem within_cons (entry first : Entry) (rest : List Entry)
    (h : entry.Within (first :: rest)) :
    entry = first ∨ (∃ body result, first = .forked body result ∧ entry.Within body) ∨
      (∃ name body result, first = .summarized name body result ∧ entry.Within body) ∨
      entry.Within rest := by
  cases h with
  | here _ h =>
      rcases List.mem_cons.mp h with hfirst | hrest
      · exact .inl hfirst
      · exact .inr (.inr (.inr (.here rest hrest)))
  | fork _ body result h hbody =>
      rcases List.mem_cons.mp h with hfirst | hrest
      · exact .inr (.inl ⟨body, result, hfirst.symm, hbody⟩)
      · exact .inr (.inr (.inr (.fork rest body result hrest hbody)))
  | inline _ name body result h hbody =>
      rcases List.mem_cons.mp h with hfirst | hrest
      · exact .inr (.inr (.inl ⟨name, body, result, hfirst.symm, hbody⟩))
      · exact .inr (.inr (.inr (.inline rest name body result hrest hbody)))

end Entry

/-- Every reply in the transcript, at whatever depth, is one that the operation
    has in this setting. -/
def Setting.Answers (setting : Setting) (transcript : List Entry) : Prop :=
  ∀ (op : Operation) (reply : Except Fault op.Reply),
    (Entry.performed op reply).Within transcript → ∃ a, reply = (op.perform setting a).result

namespace Setting

/-- What the entry itself shows is answered by the setting. -/
def AnswersEntry (setting : Setting) : Entry → Prop
  | .prepared _ => True
  | .performed op reply => ∃ a, reply = (op.perform setting a).result
  | .forked body _ => setting.Answers body
  | .summarized _ body _ => setting.Answers body

variable (setting : Setting)

theorem answers_nil : setting.Answers [] :=
  fun _ _ h => absurd h (Entry.not_within_nil _)

theorem answers_cons (first : Entry) (rest : List Entry) (hfirst : setting.AnswersEntry first)
    (hrest : setting.Answers rest) : setting.Answers (first :: rest) := by
  intro op reply h
  rcases Entry.within_cons _ first rest h with
    heq | ⟨body, result, heq, hbody⟩ | ⟨name, body, result, heq, hbody⟩ | hbehind
  · subst heq
    exact hfirst
  · subst heq
    exact hfirst op reply hbody
  · subst heq
    exact hfirst op reply hbody
  · exact hrest op reply hbehind

/-- One setting answers a whole run, by induction on the program. -/
theorem answers_run (program : Program) :
    ∀ a : Activation, setting.Answers (program.run setting a).transcript := by
  induction program with
  | finish status => exact fun _ => setting.answers_nil
  | fail fault => exact fun _ => setting.answers_nil
  | perform op next ih =>
      intro a
      simp only [Program.run, Run.after]
      exact setting.answers_cons _ _ ⟨a, rfl⟩ (ih _ _)
  | fork body next ihbody ih =>
      intro a
      simp only [Program.run, Run.after]
      -- The copy runs in the setting of the program.
      exact setting.answers_cons _ _ (ihbody a.child) (ih _ _)
  | inline name body next ihbody ih =>
      intro a
      simp only [Program.run, Run.after]
      exact setting.answers_cons _ _ (ihbody a) (ih _ _)

/-- Wherever the call is asked for, it is the one of the setting. -/
theorem invocation_of_within (transcript : List Entry) (reply : Except Fault Invocation)
    (h : setting.Answers transcript)
    (hwithin : (Entry.performed .invocation reply).Within transcript) :
    reply = .ok setting.invocation := by
  rcases h .invocation reply hwithin with ⟨a, ha⟩
  exact ha

end Setting

/-- A bound summary is answered for the call it is bound to. -/
theorem Bound.answers_execute (bound : Bound) (registry : Registry) (machine : Machine)
    (names : NameSupply) :
    Setting.Answers ⟨registry, bound.invocation⟩
      (bound.execute registry machine names).run.transcript :=
  Setting.answers_run _ bound.summary.program (.start machine names)

end CallSummary
