import ObjectStatus.Proofs.Reading.Shown
import ObjectStatus.Proofs.Registry.History
import ObjectStatus.Proofs.Session.Stream
import ObjectStatus.Proofs.Text.Lines

/-!
# The debug messages as a history

While the level is at least `debug`, a session that emits no other messages writes one line for
every change of a word, in the order of the changes. The words are shown by their names or as
hexadecimal numbers, and both are read back, so the text can be decoded: it is a second record of
the history, next to the log.
-/

namespace ObjectStatus

/-! ## Reading a line -/

/-- The word that a text shows, by a name or by a number. -/
def Word.ofText? (text : String) : Option Word :=
  (Reading.ofText? text).map Reading.toWord

/-- A shown word can be read back. -/
@[simp] theorem Word.ofText?_text_eq (word : Word) : ofText? word.text = some word := by
  rw [ofText?, Word.ofText?_text, Option.map_some, toWord_reading]

/-- A shown word holds nothing but letters and decimal digits. -/
theorem Word.notMem_text
    {character : Char}
    (not_alphanumeric : character.isAlphanum = false)
    (word : Word) : character ∉ word.text.toList := by
  intro member
  have alphanumeric := word.isAlphanum_text character member
  rw [not_alphanumeric] at alphanumeric
  contradiction

namespace Transition

/-- The line about a change, without its end. -/
def line (change : Transition) : String :=
  "[mpr DEBUG] status " ++ change.source.text ++ " -> " ++ change.target.text

/-- The change that a line is about. -/
def ofLine? (line : String) : Option Transition :=
  match (line.toList.splitOn ' ').map String.ofList with
  | ["[mpr", "DEBUG]", "status", source, "->", target] => do
      return ⟨← Word.ofText? source, ← Word.ofText? target⟩
  | _ => none

/-- The changes that the lines of a text are about, if each line is about one. -/
def ofLines? (text : String) : Option (List Transition) :=
  (Text.lines text).mapM ofLine?

theorem line_changeMessage (change : Transition) :
    (Session.changeMessage change).line = change.line ++ "\n" := by
  unfold Message.line Session.changeMessage text line
  simp only [Level.tag, ← String.append_assoc, String.reduceAppend]

/-- A line consists of six parts with a blank between each two of them. -/
theorem line_eq_intercalate (change : Transition) :
    change.line =
      " ".intercalate
        ["[mpr", "DEBUG]", "status", change.source.text, "->", change.target.text] := by
  have opening :
      "[mpr DEBUG] status " = "[mpr" ++ " " ++ "DEBUG]" ++ " " ++ "status" ++ " " := by
    simp only [String.reduceAppend]
  have arrow : " -> " = " " ++ "->" ++ " " := by
    simp only [String.reduceAppend]
  unfold line
  rw [opening, arrow]
  simp only [String.intercalate_cons_cons, String.intercalate_singleton, String.append_assoc]

theorem splitOn_line (change : Transition) :
    (change.line.toList.splitOn ' ').map String.ofList =
      ["[mpr", "DEBUG]", "status", change.source.text, "->", change.target.text] := by
  have unbroken : ∀ word : Word, ' ' ∉ word.text.toList := Word.notMem_text rfl
  have blank_eq : " ".toList = [' '] := rfl
  rw [line_eq_intercalate, String.toList_intercalate, blank_eq, List.splitOn_intercalate]
  · simp only [List.map_cons, List.map_nil, String.ofList_toList]
  · simp only [List.map_cons, List.map_nil, List.forall_mem_cons]
    exact ⟨by decide, by decide, by decide, unbroken _, by decide, unbroken _, nofun⟩
  · exact List.cons_ne_nil _ _

theorem newline_not_mem_line (change : Transition) : '\n' ∉ change.line.toList := by
  have unbroken : ∀ word : Word, '\n' ∉ word.text.toList := Word.notMem_text rfl
  unfold line
  simp only [String.toList_append, List.mem_append, not_or]
  exact ⟨⟨⟨by decide, unbroken _⟩, by decide⟩, unbroken _⟩

theorem ofLine?_line (change : Transition) : ofLine? change.line = some change := by
  rw [ofLine?, splitOn_line]
  simp

example :
    ofLine? "[mpr DEBUG] status READY -> 0x37" = some ⟨Code.ready.word, ⟨0x37⟩⟩ := by
  decide +kernel

theorem mapM_ofLine?_map_line (changes : List Transition) :
    (changes.map line).mapM ofLine? = some changes := by
  induction changes with
  | nil => rfl
  | cons change rest inductionHypothesis =>
      rw [List.map_cons, List.mapM_cons, inductionHypothesis, ofLine?_line]
      rfl

/-- The lines about changes can be read back. -/
theorem ofLines?_render (changes : List Transition) :
    ofLines? (Message.render (changes.map Session.changeMessage)) = some changes := by
  have render_eq :
      Message.render (changes.map Session.changeMessage) =
        String.join ((changes.map line).map fun line => line ++ "\n") := by
    unfold Message.render
    rw [List.map_map, List.map_map]
    exact congrArg String.join (List.map_congr_left fun change _ => line_changeMessage change)
  have single : ∀ text ∈ changes.map line, '\n' ∉ text.toList := by
    intro text member
    obtain ⟨change, -, rfl⟩ := List.mem_map.1 member
    exact newline_not_mem_line change
  rw [ofLines?, render_eq, Text.lines_join single, mapM_ofLine?_map_line]

end Transition

namespace Session

/-! ## What can be seen of a script -/

/-- The changes of words that can be seen by comparing the cells before and after the step. -/
def Moment.changes (moment : Moment) : List Transition :=
  Registry.cellChanges moment.session.registry.cells
    (moment.session.step moment.step).session.registry.cells

/-- Every change of a word during a script. -/
def history (session : Session) (script : List Step) : List Transition :=
  (session.moments script).flatMap Moment.changes

theorem history_cons
    (session : Session)
    (step : Step)
    (rest : List Step) :
    session.history (step :: rest) =
      Moment.changes ⟨session, step⟩ ++ (session.step step).session.history rest :=
  List.flatMap_cons

theorem changes_moment (moment : Moment) :
    moment.changes =
      (moment.step.registry?.bind fun step =>
        (moment.session.registry.step step).change).toList := by
  obtain ⟨session, step⟩ := moment
  rw [Moment.changes, registry_step]
  cases step with
  | registry step => exact Registry.cellChanges_step session.registry step
  | _ => exact Registry.cellChanges_self session.registry.cells

/-- The history of a session is the one of its cells. -/
theorem history_eq (session : Session) (script : List Step) :
    session.history script = session.registry.history (registrySteps script) := by
  induction script generalizing session with
  | nil => rfl
  | cons step rest inductionHypothesis =>
      rw [history_cons, inductionHypothesis, registrySteps_cons, Moment.changes, registry_step]
      cases step <;> simp [Step.registry?, Registry.history]

/-- A step that emits no message offers the message about its change, if it makes one. -/
theorem toList_offered?_moment
    {moment : Moment}
    (quiet : ∀ message, moment.step ≠ .emit message) :
    moment.offered?.toList = moment.changes.map changeMessage := by
  rw [changes_moment]
  obtain ⟨session, step⟩ := moment
  cases step with
  | registry step =>
      cases changed : (session.registry.step step).change <;>
        simp [Moment.offered?, Step.registry?, changed]
  | emit message => exact absurd rfl (quiet message)
  | _ => rfl

section Quiet

variable {session : Session} {script : List Step} (quiet : ∀ message, .emit message ∉ script)

include quiet

theorem step_ne_emit_of_quiet
    {moment : Moment}
    (member : moment ∈ session.moments script)
    (message : Message) : moment.step ≠ .emit message := by
  intro emits
  exact quiet message (emits ▸ step_mem_of_mem_moments member)

/-- A script that emits no messages offers the messages about its history. -/
theorem offered_eq_map_history :
    session.offered script = (session.history script).map changeMessage := by
  have moments_eq : ∀ moment ∈ session.moments script,
      moment.offered?.toList = moment.changes.map changeMessage := by
    intro moment member
    exact toList_offered?_moment (step_ne_emit_of_quiet quiet member)
  unfold offered history
  rw [List.map_flatMap, List.filterMap_eq_flatMap_toList]
  exact List.flatMap_congr moments_eq

/-- The messages on offer are debug messages then, so it is a matter of the level alone whether they
are written. -/
theorem admittedBy_iff_of_offers
    {moment : Moment}
    (member : moment ∈ session.moments script)
    {message : Message}
    (offers : message ∈ moment.offered?) :
    message.AdmittedBy moment.level ↔ .debug ≤ moment.level := by
  have listed : message ∈ moment.changes.map changeMessage := by
    rw [← toList_offered?_moment (step_ne_emit_of_quiet quiet member)]
    exact Option.mem_toList.2 offers
  obtain ⟨change, -, rfl⟩ := List.mem_map.1 listed
  constructor
  · rintro ⟨-, level_le⟩
    exact level_le
  · intro level_le
    exact ⟨nofun, level_le⟩

theorem written_eq_map_history
    (admits : ∀ moment ∈ session.moments script, .debug ≤ moment.level) :
    session.written script = (session.history script).map changeMessage := by
  have agrees : ∀ moment ∈ session.moments script, ∀ message ∈ moment.offered?,
      decide (message.AdmittedBy moment.level) = (fun _ => true) message := by
    intro moment member message offers
    exact decide_eq_true
      ((admittedBy_iff_of_offers quiet member offers).2 (admits moment member))
  rw [written_eq_filter agrees, offered_eq_map_history quiet, List.filter_true]

theorem written_eq_nil_of_level
    (silences : ∀ moment ∈ session.moments script, moment.level < .debug) :
    session.written script = [] := by
  have agrees : ∀ moment ∈ session.moments script, ∀ message ∈ moment.offered?,
      decide (message.AdmittedBy moment.level) = (fun _ => false) message := by
    intro moment member message offers
    have not_le : ¬.debug ≤ moment.level := fun level_le =>
      Level.not_lt_iff.2 level_le (silences moment member)
    exact decide_eq_false (mt (admittedBy_iff_of_offers quiet member offers).1 not_le)
  rw [written_eq_filter agrees, List.filter_false]

end Quiet

/-- A call that is refused makes no change. -/
theorem changes_eq_nil_of_refused
    {moment : Moment}
    {error : Error}
    (refused :
      (moment.session.step moment.step).reply = .registry (.answered (.refused error))) :
    moment.changes = [] := by
  rw [changes_moment]
  obtain ⟨session, step⟩ := moment
  cases step with
  | registry step =>
      have reply_eq : (session.registry.step step).reply = .answered (.refused error) :=
        Reply.registry.inj ((reply_step session (.registry step)).symm.trans refused)
      cases step with
      | onCell cell call =>
          cases found_eq : session.registry.cells[cell]? with
          | none => simp [Registry.step, found_eq] at reply_eq
          | some found =>
              rw [Registry.reply_step_onCell found_eq] at reply_eq
              have word_eq := Cell.Call.word_effect_of_refused
                (Registry.Reply.answered.inj reply_eq)
              rw [Step.registry?, Option.bind_some, Registry.change_step_onCell found_eq,
                Cell.Call.change?, word_eq, Transition.ofWords?_self]
              rfl
      | openLog capacity => contradiction
      | openCell code log => contradiction
      | onLog log call =>
          cases found_eq : session.registry.logs[log]? <;>
            simp [Registry.step, found_eq] at reply_eq
  | _ => rfl

theorem isEffective_of_mem_history
    {session : Session}
    {script : List Step}
    {change : Transition}
    (member : change ∈ session.history script) : change.IsEffective := by
  obtain ⟨moment, -, seen⟩ := List.mem_flatMap.1 member
  obtain ⟨pair, -, changed⟩ := List.mem_filterMap.1 seen
  obtain ⟨differs, rfl⟩ := Transition.ofWords?_eq_some_iff.1 changed
  exact differs

/-- The debug messages of a script tell its history. -/
structure TellsHistory (session : Session) (script : List Step) : Prop where
  /-- While the level is at least `debug`, the text has one line for each change of a word, in the
  order of the changes, and no other line. -/
  text_eq : (∀ moment ∈ session.moments script, .debug ≤ moment.level) →
    Message.render (session.written script) =
      String.join
        ((session.history script).map fun change =>
          "[mpr DEBUG] status " ++ change.source.text ++ " -> " ++ change.target.text ++ "\n")
  /-- Each line is written in the very step that makes the change. -/
  written_eq : ∀ moment ∈ session.moments script, .debug ≤ moment.level →
    (moment.session.step moment.step).written = moment.changes.map changeMessage
  /-- A step makes one change at most. -/
  length_changes_le : ∀ moment ∈ session.moments script, moment.changes.length ≤ 1
  /-- A change has two different words. -/
  source_ne_target : ∀ change ∈ session.history script, change.source ≠ change.target
  /-- A call that is refused makes no change. -/
  changes_eq_nil : ∀ moment ∈ session.moments script, ∀ error,
    (moment.session.step moment.step).reply = .registry (.answered (.refused error)) →
      moment.changes = []
  /-- The text can be decoded into the changes. -/
  decoded_eq : (∀ moment ∈ session.moments script, .debug ≤ moment.level) →
    Transition.ofLines? (Message.render (session.written script)) = some (session.history script)
  /-- If all cells have one log, which is new at the beginning, and nothing else is recorded in it,
  and it never has to give anything up, then these are the changes that it delivers, with those
  that are drained from it at the end. -/
  delivered_eq : (∀ moment ∈ session.moments script, .debug ≤ moment.level) →
    ∀ number capacity,
      session.registry.logs[number]? = some (TransitionLog.new capacity) →
      (session.run script).registry.IsShared number →
      (∀ transition, .registry (.onLog number (.record transition)) ∉ script) →
      session.registry.evicted number capacity (registrySteps script) = [] →
        Transition.ofLines? (Message.render (session.written script)) =
          some (session.registry.delivered number
            (registrySteps script ++ [.onLog number .drain]))
  /-- While the level is below `debug`, nothing is written. -/
  silent : (∀ moment ∈ session.moments script, moment.level < .debug) →
    Message.render (session.written script) = ""

/-- Whatever else a script does, if it emits no messages itself, the debug messages tell its
history. -/
theorem tellsHistory
    (session : Session)
    {script : List Step}
    (quiet : ∀ message, .emit message ∉ script) : TellsHistory session script := by
  have decoded_eq : (∀ moment ∈ session.moments script, .debug ≤ moment.level) →
      Transition.ofLines? (Message.render (session.written script)) =
        some (session.history script) := by
    intro admits
    rw [written_eq_map_history quiet admits, Transition.ofLines?_render]
  exact
    { text_eq := by
        intro admits
        unfold Message.render
        rw [written_eq_map_history quiet admits, List.map_map]
        exact congrArg String.join
          (List.map_congr_left fun change _ => Transition.line_changeMessage change)
      written_eq := by
        intro moment member admits
        rw [← toList_offered?_moment (step_ne_emit_of_quiet quiet member), written_moment]
        apply List.filter_eq_self.2
        intro message offers
        exact decide_eq_true
          ((admittedBy_iff_of_offers quiet member (Option.mem_toList.1 offers)).2 admits)
      length_changes_le := by
        intro moment _
        rw [changes_moment]
        exact Option.length_toList_le
      source_ne_target := by
        intro change member
        exact isEffective_of_mem_history member
      changes_eq_nil := by
        intro moment _ error refused
        exact changes_eq_nil_of_refused refused
      decoded_eq := decoded_eq
      delivered_eq := by
        intro admits number capacity opened shared indirect complete
        rw [registry_run] at shared
        have indirect_steps : ∀ transition,
            .onLog number (.record transition) ∉ registrySteps script := by
          intro transition member
          obtain ⟨step, in_script, step_eq⟩ := List.mem_filterMap.1 member
          cases step with
          | registry step =>
              obtain rfl := Option.some.inj step_eq
              exact indirect transition in_script
          | _ => contradiction
        rw [decoded_eq admits, history_eq,
          Registry.delivered_eq_history opened shared indirect_steps complete]
      silent := by
        intro silences
        rw [written_eq_nil_of_level quiet silences]
        rfl }

/-- Two cells share a log and are used in turn, at a level that the environment asks for. Two calls
change nothing, one of them because it is refused; one entry is popped before the end, and one word
has no name. -/
theorem tellsHistory_of_shared_log :
    Transition.ofLines?
        (Message.render
          (((start (Environment.empty.set Settings.levelVariable "TRACE".toUTF8.toList)).run
                [.registry (.openLog 4), .registry (.openCell .staged (some 0)),
                  .registry (.openCell .ready (some 0))]).written
            [.registry (.onCell 0 (.promote .ready)),
              .registry (.onCell 1 (.insert Code.expired.word)), .registry (.onLog 0 .pop),
              .registry (.onCell 1 (.promote .active)), .registry (.onCell 0 (.set .ready)),
              .registry (.onCell 0 (.transition .ready .active))])) =
      some
        ((Registry.empty.run
              [.openLog 4, .openCell .staged (some 0), .openCell .ready (some 0)]).delivered 0
          [.onCell 0 (.promote .ready), .onCell 1 (.insert Code.expired.word), .onLog 0 .pop,
            .onCell 1 (.promote .active), .onCell 0 (.set .ready),
            .onCell 0 (.transition .ready .active), .onLog 0 .drain]) := by
  refine (tellsHistory _ ?_).delivered_eq ?_ 0 4 ?_ ?_ ?_ ?_
  · simp
  · decide +kernel
  · decide +kernel
  · decide +kernel
  · simp
  · decide +kernel

end Session
end ObjectStatus
