import ObjectStatus.Proofs.Cell.Refusal
import ObjectStatus.Proofs.Session.Stream

/-!
# Calls that leave no trace

A call on a cell that leaves the word as it was leaves everything else as it was, too. No log gets
an entry for it, so no full log gives one up; no message is offered for it, so the settings are not
taken over and nothing is written. Such a call is one that is refused, and then the error tells of
the state that is still there, or one that asks for what the word already is.
-/

namespace ObjectStatus

/-! ## Cells and logs -/

namespace Registry

/-- Nothing is recorded where nothing has changed. -/
theorem recordIn_none
    (logs : List TransitionLog)
    (log : Option Nat) : recordIn logs log none = logs := by
  cases log <;> rfl

/-- A call that leaves the word of its cell alone leaves all cells and all logs alone, and has no
change to tell about. -/
theorem step_onCell_of_word_eq
    {registry : Registry}
    {number : Nat}
    {cell : Cell}
    (present : registry.cells[number]? = some cell)
    {call : Cell.Call}
    (kept : (call.effect cell.word).word = cell.word) :
    (registry.step (.onCell number call)).registry = registry ∧
      (registry.step (.onCell number call)).change = none := by
  obtain ⟨inRange, cell_eq⟩ := List.getElem?_eq_some_iff.1 present
  have unchanged : call.change? cell.word = none := by
    rw [Cell.Call.change?, kept, Transition.ofWords?_self]
  have cells_eq : registry.cells.set number cell = registry.cells := by
    rw [← cell_eq, List.set_getElem_self]
  simp only [Registry.step, present, kept, unchanged, cells_eq, recordIn_none, and_self]

end Registry

namespace Session

/-- The word of the cell with this number. -/
def wordOf? (session : Session) (number : Nat) : Option Word :=
  session.registry.cells[number]?.map Cell.word

/-- The step that makes a call on the cell with this number. -/
def Step.onCell (number : Nat) (call : Cell.Call) : Step :=
  .registry (.onCell number call)

/-- The reply that hands on the answer of a cell. -/
def Reply.answered (answer : Cell.Answer) : Reply :=
  .registry (.answered answer)

theorem exists_cell_of_wordOf?
    {session : Session}
    {number : Nat}
    {word : Word}
    (holds : session.wordOf? number = some word) :
    ∃ cell, session.registry.cells[number]? = some cell ∧ cell.word = word :=
  Option.map_eq_some_iff.1 holds

/-- A cell is left with the word that the call leaves by itself. -/
theorem wordOf?_step_onCell
    {session : Session}
    {number : Nat}
    {word : Word}
    (holds : session.wordOf? number = some word)
    (call : Cell.Call) :
    (session.step (.onCell number call)).session.wordOf? number =
      some (call.effect word).word := by
  obtain ⟨cell, present, rfl⟩ := exists_cell_of_wordOf? holds
  have registry_eq :
      (session.step (.onCell number call)).session.registry =
        (session.registry.step (.onCell number call)).registry := rfl
  rw [wordOf?, registry_eq, Registry.cell_step_onCell present, Option.map_some]

/-- A call is answered as it is by itself. -/
theorem reply_step_onCell
    {session : Session}
    {number : Nat}
    {word : Word}
    (holds : session.wordOf? number = some word)
    (call : Cell.Call) :
    (session.step (.onCell number call)).reply = .answered (call.effect word).answer := by
  obtain ⟨cell, present, rfl⟩ := exists_cell_of_wordOf? holds
  rw [reply_step, Step.onCell, View.reply, view, Registry.reply_step_onCell present]
  rfl

/-- A call that leaves the word of its cell alone changes nothing in the session and writes
nothing. -/
theorem step_onCell_of_word_eq
    {session : Session}
    {number : Nat}
    {word : Word}
    (holds : session.wordOf? number = some word)
    {call : Cell.Call}
    (kept : (call.effect word).word = word) :
    (session.step (.onCell number call)).session = session ∧
      (session.step (.onCell number call)).written = [] := by
  obtain ⟨cell, present, rfl⟩ := exists_cell_of_wordOf? holds
  obtain ⟨registry_eq, change_eq⟩ := Registry.step_onCell_of_word_eq present kept
  simp only [Session.step, Step.onCell, announce, change_eq, registry_eq, and_self]

/-! ## Scripts -/

theorem written_append
    (session : Session)
    (first second : List Step) :
    session.written (first ++ second) =
      session.written first ++ (session.run first).written second := by
  unfold written
  rw [trace_append, List.flatMap_append]

/-- Nothing tells that the script has gone on with this step. -/
structure LeavesNoTrace
    (environment : Environment)
    (script : List Step)
    (step : Step) : Prop where
  /-- The session is the same: all words, the entries and the counts of all logs, and the
  settings. -/
  session_eq :
    (start environment).run (script ++ [step]) = (start environment).run script
  /-- Standard error holds the same text. -/
  text_eq :
    Message.render ((start environment).written (script ++ [step])) =
      Message.render ((start environment).written script)

theorem leavesNoTrace_of_step
    {environment : Environment}
    {script : List Step}
    {step : Step}
    (session_eq : (((start environment).run script).step step).session =
      (start environment).run script)
    (written_eq : (((start environment).run script).step step).written = []) :
    LeavesNoTrace environment script step where
  session_eq := by rw [run_append, run_singleton, session_eq]
  text_eq := by
    have nothing : ((start environment).run script).written [step] = [] := by
      rw [written_cons, written_eq]
      rfl
    rw [written_append, nothing, List.append_nil]

/-- A call on a cell with this word, made after a script, fails where it has to, and leaves no trace
if it does. -/
structure FailsAtomically
    (environment : Environment)
    (script : List Step)
    (number : Nat)
    (word : Word)
    (call : Cell.Call) : Prop where
  /-- The call is answered with an error exactly where it has to be refused. -/
  fails_iff :
    (∃ error, (((start environment).run script).step (.onCell number call)).reply =
        .answered (.refused error)) ↔
      call.IsRefusedAt word
  /-- The error is the one for this word: it tells of the word as it is, or of the target if that is
  no stage. -/
  refused_iff : ∀ error,
    (((start environment).run script).step (.onCell number call)).reply =
        .answered (.refused error) ↔
      Cell.Refuses call word error
  /-- A call that is answered with an error leaves no trace. -/
  of_refused : ∀ error,
    (((start environment).run script).step (.onCell number call)).reply =
        .answered (.refused error) →
      LeavesNoTrace environment script (.onCell number call)
  /-- A call that leaves the word as it was leaves no trace. -/
  of_kept :
    ((start environment).run (script ++ [.onCell number call])).wordOf? number = some word →
      LeavesNoTrace environment script (.onCell number call)
  /-- Apart from the refused calls, these are the calls that ask for what the word already is. -/
  kept_iff :
    ((start environment).run (script ++ [.onCell number call])).wordOf? number = some word ↔
      call.IsRefusedAt word ∨ Cell.IsMet call word

/-- Whatever a session has done, calls on its cells fail where they have to and without a trace. -/
theorem failsAtomically
    (environment : Environment)
    (script : List Step)
    {number : Nat}
    {word : Word}
    (holds : ((start environment).run script).wordOf? number = some word)
    (call : Cell.Call) : FailsAtomically environment script number word call := by
  have refused_iff (error : Error) :
      (((start environment).run script).step (.onCell number call)).reply =
          .answered (.refused error) ↔
        Cell.Refuses call word error := by
    rw [reply_step_onCell holds, ← Cell.Call.answer_effect_eq_refused_iff]
    simp only [Reply.answered, Reply.registry.injEq, Registry.Reply.answered.injEq]
  have kept_iff :
      ((start environment).run (script ++ [.onCell number call])).wordOf? number = some word ↔
        (call.effect word).word = word := by
    rw [run_append, run_singleton, wordOf?_step_onCell holds, Option.some.injEq]
  have of_word_eq (kept : (call.effect word).word = word) :
      LeavesNoTrace environment script (.onCell number call) := by
    obtain ⟨session_eq, written_eq⟩ := step_onCell_of_word_eq holds kept
    exact leavesNoTrace_of_step session_eq written_eq
  exact
    { fails_iff := by
        rw [← Cell.Call.exists_refuses_iff]
        exact exists_congr refused_iff
      refused_iff := refused_iff
      of_refused := by
        intro error refused
        have answer_eq := Cell.Call.answer_effect_eq_refused_iff.2 ((refused_iff error).1 refused)
        exact of_word_eq (Cell.Call.word_effect_of_refused answer_eq)
      of_kept := fun kept => of_word_eq (kept_iff.1 kept)
      kept_iff := kept_iff.trans Cell.Call.word_effect_eq_self_iff }

/-- Two cells share a log that is full and has given up an entry, and messages of all levels are
written. A promotion of a cell that has expired is refused for its target, which is no stage. -/
theorem failsAtomically_of_full_log :
    ((start (Environment.empty.set Settings.levelVariable "trace".toUTF8.toList)).run
        [.registry (.openLog 1), .registry (.openCell .staged (some 0)),
          .registry (.openCell .ready (some 0)), .onCell 0 (.promote .waiting),
          .onCell 1 (.insert ⟨0x81⟩)]).wordOf? 1 = some ⟨0xB7⟩ ∧
      FailsAtomically (Environment.empty.set Settings.levelVariable "trace".toUTF8.toList)
        [.registry (.openLog 1), .registry (.openCell .staged (some 0)),
          .registry (.openCell .ready (some 0)), .onCell 0 (.promote .waiting),
          .onCell 1 (.insert ⟨0x81⟩)] 1 ⟨0xB7⟩ (.promote .reserved) :=
  ⟨by decide +kernel, failsAtomically _ _ (by decide +kernel) _⟩

end Session
end ObjectStatus
